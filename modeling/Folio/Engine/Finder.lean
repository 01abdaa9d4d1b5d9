import Folio.Files.Disk

namespace Folio

structure Finder where
  folders : List Path
  extensions : List String
  deriving DecidableEq, Repr, Inhabited

namespace Finder

/-- The finder with one more folder, in which it looks last. -/
def addFolder (finder : Finder) (folder : Path) : Finder :=
  { finder with folders := finder.folders ++ [folder] }

def hasExtension (finder : Finder) (name : String) : Bool :=
  match Path.extension? name with
  | some extension => finder.extensions.contains extension
  | none => false

def fileNames (finder : Finder) (name : String) : List String :=
  if finder.hasExtension name || finder.extensions.isEmpty then [name]
  else finder.extensions.map fun extension => name ++ "." ++ extension

/-- The paths that a template name may stand for, in the order in which they are tried. -/
def candidates (finder : Finder) (name : String) : List Path :=
  finder.folders.flatMap fun folder => (finder.fileNames name).map (Path.join folder)

/-- The first file that the name stands for. An absolute name stands for itself. -/
def find (finder : Finder) (disk : Disk) (name : String) : Option Path :=
  if name = "" then none
  else if Path.isAbsolute name then if disk.isFile name then some name else none
  else if Path.climbs name then none
  else (finder.candidates name).find? disk.isFile

@[simp] theorem find_empty (finder : Finder) (disk : Disk) : finder.find disk "" = none := rfl

/-- A relative name that climbs stands for nothing. -/
theorem find_of_climbs {finder : Finder} {disk : Disk} {name : String}
    (relative : Path.isAbsolute name = false) (climbs : Path.climbs name = true) :
    finder.find disk name = none := by
  simp [find, relative, climbs]

end Finder

end Folio
