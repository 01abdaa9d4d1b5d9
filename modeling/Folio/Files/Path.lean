import Folio.Text.Split

/-! A path is a text whose segments are separated by slashes. Paths are kept as they were put
together and never normalised. -/

namespace Folio

abbrev Path := String

namespace Path

/-- What stands between the slashes, empty segments included. -/
def segments (path : Path) : List String :=
  Text.splitString '/' path

/-- A segment that does not lead anywhere: nothing, or the current folder. -/
def isIdle (segment : String) : Bool :=
  segment = "" || segment = "."

def isAbsolute (path : Path) : Bool :=
  path.toList.head? = some '/'

/-- Whether a segment of the path leads to the parent of a folder. -/
def climbs (path : Path) : Bool :=
  path.segments.any (· = "..")

/-- The path `child` seen from the folder `base`; an absolute `child` stays as it is. -/
def join (base child : Path) : Path :=
  if child.isAbsolute then child
  else if base = "" ∨ base.toList.getLast? = some '/' then base ++ child
  else base ++ "/" ++ child

/-- The last segment that leads somewhere, unless it leads to a parent. -/
def fileName? (path : Path) : Option String :=
  match (path.segments.filter fun segment => !isIdle segment).getLast? with
  | some name => if name = ".." then none else some name
  | none => none

/-- What follows the last dot of the file name; a dot at the start of the name does not count. -/
def extension? (path : Path) : Option String :=
  path.fileName?.bind fun name =>
    let reversed := name.toList.reverse
    match Text.cut? '.' reversed with
    | some (after, before) => if before = [] then none else some (String.ofList after.reverse)
    | none => none

/-- Whether a segment counts as a part of the path: a current folder does only at the start. -/
def isPart (first : Bool) (segment : String) : Bool :=
  segment ≠ "" && (first || segment ≠ ".")

/-- The reversed segments from the last one on that is a part of the path. -/
def dropIdle : List String → List String
  | [] => []
  | segment :: rest => if isPart rest.isEmpty segment then segment :: rest else dropIdle rest

/-- The path of the folder that holds what the path names; `none` if the path names nothing below
its start. -/
def parent? (path : Path) : Option Path :=
  match dropIdle path.segments.reverse with
  | [] => none
  | _ :: above =>
    let folder := Text.joinWith "/" (dropIdle above).reverse
    some (if path.isAbsolute ∧ folder = "" then "/" else folder)

theorem join_of_isAbsolute {base child : Path} (h : child.isAbsolute = true) :
    join base child = child := by
  simp [join, h]

theorem join_empty {child : Path} (h : child.isAbsolute = false) : join "" child = child := by
  simp [join, h]

end Path

end Folio
