import Folio.Value.Basic

/-! The tables of a TOML document are filled by headers and by dotted keys, in any order, but
nothing may be defined twice. For that each table remembers how it came about. -/

namespace Folio.Toml

/-- How a table came about: by a header of its own, on the way to another header, or on the way to
the last name of a dotted key. -/
inductive Origin where
  | header
  | passed
  | dotted
  deriving DecidableEq, Repr

/-- What a name stands for: a value, a table, or a list of tables that have headers of their own. -/
inductive Item where
  | value (value : Value)
  | table (origin : Origin) (entries : List (String × Item))
  | tables (elements : List (List (String × Item)))
  deriving Inhabited

abbrev Entries := List (String × Item)

namespace Entries

def get? (entries : Entries) (name : String) : Option Item :=
  List.lookup name entries

def set (name : String) (item : Item) (entries : Entries) : Entries :=
  (name, item) :: entries.filter fun entry => entry.1 ≠ name

/-- The entries with a value under a name that is not in use. -/
def setNew (name : String) (value : Value) (entries : Entries) : Option Entries :=
  match entries.get? name with
  | some _ => none
  | none => some (entries.set name (.value value))

/-- The entries with a value under a dotted key, of which `path` are all names but the last. Tables
that have a header are closed to dotted keys, and the last table has to come from dotted keys. -/
def setValue (name : String) (value : Value) : List String → Entries → Option Entries
  | [], entries => entries.setNew name value
  | first :: rest, entries =>
    match entries.get? first with
    | none => do
      let inner ← setValue name value rest []
      some (entries.set first (.table .dotted inner))
    | some (.value _) => none
    | some (.table origin inner) =>
      if origin = .header ∨ (rest = [] ∧ origin ≠ .dotted) then none
      else do
        let inner ← setValue name value rest inner
        some (entries.set first (.table origin inner))
    | some (.tables elements) =>
      match rest, elements.reverse with
      | _ :: _, last :: before => do
        let last ← setValue name value rest last
        some (entries.set first (.tables (before.reverse ++ [last])))
      | _, _ => none

/-- Changes the table that the names of a header lead to; missing tables are made. A list of tables
stands for its last one. -/
def descend (change : Entries → Option Entries) : List String → Entries → Option Entries
  | [], entries => change entries
  | first :: rest, entries =>
    match entries.get? first with
    | none => do
      let inner ← descend change rest []
      some (entries.set first (.table .passed inner))
    | some (.value _) => none
    | some (.table origin inner) => do
      let inner ← descend change rest inner
      some (entries.set first (.table origin inner))
    | some (.tables elements) =>
      match elements.reverse with
      | last :: before => do
        let last ← descend change rest last
        some (entries.set first (.tables (before.reverse ++ [last])))
      | [] => none

/-- Gives a table a header; only a table without one that does not come from dotted keys can get
it. -/
def openTable (name : String) (entries : Entries) : Option Entries :=
  match entries.get? name with
  | none => some (entries.set name (.table .header []))
  | some (.table .passed inner) => some (entries.set name (.table .header inner))
  | some _ => none

def openElement (name : String) (entries : Entries) : Option Entries :=
  match entries.get? name with
  | none => some (entries.set name (.tables [[]]))
  | some (.tables elements) => some (entries.set name (.tables (elements ++ [[]])))
  | some _ => none

theorem setValue_eq_none {entries : Entries} {name : String} {item : Item} {value : Value}
    (h : entries.get? name = some item) : entries.setValue name value [] = none := by
  simp [setValue, setNew, h]

end Entries

mutual

def Item.finish : Item → Value
  | .value value => value
  | .table _ entries => .ofFields (finishEntries entries)
  | .tables elements => .list (finishElements elements)

def finishEntries : List (String × Item) → List (String × Value)
  | [] => []
  | (name, item) :: rest => (name, item.finish) :: finishEntries rest

def finishElements : List (List (String × Item)) → List Value
  | [] => []
  | entries :: rest => .ofFields (finishEntries entries) :: finishElements rest

end

end Folio.Toml
