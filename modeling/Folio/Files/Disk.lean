import Folio.Files.Path

namespace Folio

/-- A file, with its text unless its bytes are no text, or a folder with its named entries. -/
inductive Node where
  | file (text : Option String)
  | folder (entries : List (String × Node))
  deriving Inhabited

inductive FileError where
  | notFound
  | alreadyThere
  | notFolder
  | isFolder
  | nameTooLong
  | nulInName
  | notText
  deriving DecidableEq, Repr

def FileError.message : FileError → String
  | .notFound => "No such file or directory (os error 2)"
  | .alreadyThere => "File exists (os error 17)"
  | .notFolder => "Not a directory (os error 20)"
  | .isFolder => "Is a directory (os error 21)"
  | .nameTooLong => "File name too long (os error 36)"
  | .nulInName => "file name contained an unexpected NUL byte"
  | .notText => "stream did not contain valid UTF-8"

namespace Node

def empty : Node := .folder []

def entry? (node : Node) (name : String) : Option Node :=
  match node with
  | .folder entries => entries.lookup name
  | .file _ => none

def at? (node : Node) : List String → Option Node
  | [] => some node
  | name :: rest => (node.entry? name).bind fun child => child.at? rest

def setEntry (name : String) (node : Node) (entries : List (String × Node)) :
    List (String × Node) :=
  (name, node) :: entries.filter fun entry => entry.1 ≠ name

/-- The tree with `new` in the place that the names lead to; missing folders are made, and a file
in the way stays. -/
def put (node : Node) (new : Node) : List String → Node
  | [] => new
  | name :: rest =>
    match node with
    | .folder entries =>
      .folder (setEntry name (((entries.lookup name).getD empty).put new rest) entries)
    | .file text => .file text

def remove (node : Node) : List String → Node
  | [] => node
  | [name] =>
    match node with
    | .folder entries => .folder (entries.filter fun entry => entry.1 ≠ name)
    | .file text => .file text
  | name :: rest =>
    match node with
    | .folder entries =>
      match entries.lookup name with
      | some child => .folder (setEntry name (child.remove rest) entries)
      | none => .folder entries
    | .file text => .file text

end Node

/-- A tree of files and the place in it that relative paths start from. -/
structure Disk where
  root : Node
  here : List String
  deriving Inhabited

namespace Disk

/-- The longest name of a file or folder, in bytes. -/
def maxNameSize : Nat := 255

/-- The longest path, in bytes. -/
def maxPathSize : Nat := 4095

def step (disk : Disk) (place : List String) (segment : String) :
    Except FileError (List String) :=
  match disk.root.at? place with
  | none => .error .notFound
  | some (.file _) => .error .notFolder
  | some (.folder _) =>
    if Path.isIdle segment then .ok place
    else if segment = ".." then .ok place.dropLast
    else if maxNameSize < segment.utf8ByteSize then .error .nameTooLong
    else .ok (place ++ [segment])

/-- The place that the segments lead to, where nothing need be. -/
def follow (disk : Disk) (place : List String) (segments : List String) :
    Except FileError (List String) :=
  segments.foldlM disk.step place

def start (disk : Disk) (path : Path) : List String :=
  if path.isAbsolute then [] else disk.here

/-- A path that no file can have. -/
def refusal? (path : Path) : Option FileError :=
  if path = "" then some .notFound
  else if path.toList.contains '\x00' then some .nulInName
  else if maxPathSize < path.utf8ByteSize then some .nameTooLong
  else none

def place (disk : Disk) (path : Path) : Except FileError (List String) :=
  match refusal? path with
  | some error => .error error
  | none => disk.follow (disk.start path) path.segments

def find (disk : Disk) (path : Path) : Except FileError Node :=
  match disk.place path with
  | .error error => .error error
  | .ok place =>
    match disk.root.at? place with
    | some node => .ok node
    | none => .error .notFound

def isFile (disk : Disk) (path : Path) : Bool :=
  match disk.find path with
  | .ok (.file _) => true
  | _ => false

def isFolder (disk : Disk) (path : Path) : Bool :=
  match disk.find path with
  | .ok (.folder _) => true
  | _ => false

def read (disk : Disk) (path : Path) : Except FileError String :=
  match disk.find path with
  | .ok (.file (some text)) => .ok text
  | .ok (.file none) => .error .notText
  | .ok (.folder _) => .error .isFolder
  | .error error => .error error

/-- The segments of a path without slashes at its end, and whether there were any. -/
def openEnd (path : Path) : List String × Bool :=
  let reversed := path.segments.reverse
  let kept := reversed.dropWhile (· = "")
  (kept.reverse, kept.length < reversed.length)

/-- The disk with the text as the whole content of a file, in a folder that is there. -/
def write (disk : Disk) (path : Path) (text : String) : Except FileError Disk :=
  match refusal? path with
  | some error => .error error
  | none =>
    let (segments, slash) := openEnd path
    match disk.follow (disk.start path) segments with
    | .error error => .error error
    | .ok place =>
      if slash then .error .isFolder
      else match disk.root.at? place with
        | some (.folder _) => .error .isFolder
        | _ => .ok { disk with root := disk.root.put (.file (some text)) place }

/-- Makes the folder that `segment` leads to from `place` if nothing is there. -/
def enter (state : Disk × List String) (segment : String) :
    Except FileError (Disk × List String) :=
  let (disk, place) := state
  match disk.step place segment with
  | .error error => .error error
  | .ok next =>
    match disk.root.at? next with
    | some _ => .ok (disk, next)
    | none => .ok ({ disk with root := disk.root.put Node.empty next }, next)

/-- The disk with the folder that the path names and all folders on the way to it. -/
def makeFolders (disk : Disk) (path : Path) : Except FileError Disk :=
  if path = "" then .ok disk
  else match refusal? path with
    | some error => .error error
    | none =>
      match (openEnd path).1.foldlM enter (disk, disk.start path) with
      | .error error => .error error
      | .ok (disk, place) =>
        match disk.root.at? place with
        | some (.folder _) => .ok disk
        | _ => .error .alreadyThere

def removeFile? (disk : Disk) (path : Path) : Option Disk :=
  match disk.place path with
  | .error _ => none
  | .ok place =>
    match disk.root.at? place with
    | some (.file _) => some { disk with root := disk.root.remove place }
    | _ => none

theorem isFile_iff {disk : Disk} {path : Path} :
    disk.isFile path = true ↔ ∃ text, disk.find path = .ok (.file text) := by
  unfold isFile
  split <;> simp_all

theorem isFile_of_read {disk : Disk} {path : Path} {text : String}
    (h : disk.read path = .ok text) : disk.isFile path = true := by
  unfold read at h
  split at h <;> simp_all [isFile]

end Disk

end Folio
