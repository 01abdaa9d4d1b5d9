import Folio.CommandLine.Program

/-! The program as a process of its own. The files that an order can reach are loaded first: the
settings file, the template folders, and the files that the arguments name. Then the program runs on
what was loaded, and its output, its messages and the file it has written are handed on. -/

namespace Folio.Process

open CommandLine

/-- How many folders deep a template folder is loaded. -/
def maxFolders : Nat := 64

/-- The place that a path leads to from the folder `here`, if nothing but folders is on the way. -/
def placeOf (here : List String) (path : Path) : List String :=
  path.segments.foldl
    (fun place segment =>
      if Path.isIdle segment then place
      else if segment = ".." then place.dropLast
      else place ++ [segment])
    (if path.isAbsolute then [] else here)

def pathOf (place : List String) : Path :=
  "/" ++ Text.joinWith "/" place

def readNode (path : Path) : IO Node := do
  let bytes ← IO.FS.readBinFile path
  return .file (String.fromUTF8? bytes)

/-- What is at a place, with at most `levels` levels of folders; nothing if it cannot be read. -/
def readTree (levels : Nat) (place : List String) : IO (Option Node) := do
  let here ← IO.currentDir
  let path := here / pathOf place
  try
    if ← path.isDir then
      match levels with
      | 0 => return some .empty
      | levels + 1 =>
        let names := (← path.readDir).toList.map (·.fileName)
        let entries ← names.filterMapM fun name => do
          return (← readTree levels (place ++ [name])).map fun node => (name, node)
        return some (.folder entries)
    else
      return some (← readNode (pathOf place))
  catch _ =>
    return none

def loadTrees (disk : Disk) (paths : List Path) : IO Disk :=
  paths.foldlM (fun disk path => do
    let place := placeOf disk.here path
    match ← readTree maxFolders place with
    | some node => return { disk with root := disk.root.put node place }
    | none => return disk) disk

/-- The places on the way to a place, the outermost first, and the place itself. -/
def wayTo (place : List String) : List (List String) :=
  (List.range place.length).map fun count => place.take (count + 1)

def loadFiles (disk : Disk) (paths : List Path) : IO Disk :=
  (paths.flatMap fun path => wayTo (placeOf disk.here path)).foldlM (fun disk place => do
    if (disk.root.at? place).isSome then return disk
    match ← readTree 0 place with
    | some node => return { disk with root := disk.root.put node place }
    | none => return disk) disk

/-- The disk with all that an order can reach. -/
def reach (disk : Disk) (order : Order) : IO Disk := do
  let named := match order.task with
    | .render name data? output? => output?.toList ++ data?.toList ++ [name]
    | .find _ _ => []
  let disk ← loadFiles disk (order.config?.getD settingsFileName :: named)
  match settings disk order with
  | .ok settings => loadTrees disk settings.folders
  | .error _ => return disk

def watched : List String := [configVariable, "CLICOLOR", "CLICOLOR_FORCE", "NO_COLOR"]

/-- Hands on the file that an order has written. -/
def handOn (order : Order) (outcome : Outcome) : IO Unit := do
  match order.task with
  | .render _ _ (some path) =>
    match outcome.disk.read path with
    | .ok text =>
      match path.parent? with
      | some folder => if folder ≠ "" then IO.FS.createDirAll folder
      | none => pure ()
      IO.FS.writeFile path text
    | .error _ => pure ()
  | _ => pure ()

end Folio.Process

open Folio CommandLine Process in
def main (args : List String) : IO UInt32 := do
  let here := placeOf [] (← IO.currentDir).toString
  let environment ← watched.filterMapM fun name => do
    return (← IO.getEnv name).map fun value => (name, value)
  let output ← IO.getStdout
  let empty : Disk := ⟨Node.empty.put .empty here, here⟩
  let disk ← match order environment args with
    | .ok order => reach empty order
    | .error _ => pure empty
  let outcome := run { args, environment, terminal := ← output.isTty, disk }
  match order environment args with
  | .ok order => if outcome.exit = 0 then handOn order outcome
  | .error _ => pure ()
  output.putStr outcome.output
  (← IO.getStderr).putStr outcome.messages
  return outcome.exit.toUInt32
