import Folio.Error

/-! Helpers and filters are functions that bodies call by name. A strict registry fails on a name
that it does not know, any other answers null, by which a filter declines. -/

namespace Folio

abbrev Helper := List Value → Except Error Value

abbrev Filter := Value → List Value → Except Error Value

/-- Helpers and filters by name. A later entry of the same name counts for nothing. -/
structure Commands where
  helpers : List (String × Helper)
  filters : List (String × Filter)
  strict : Bool

namespace Commands

def empty (strict : Bool) : Commands := ⟨[], [], strict⟩

def addHelper (commands : Commands) (name : String) (helper : Helper) : Commands :=
  { commands with helpers := (name, helper) :: commands.helpers }

def addFilter (commands : Commands) (name : String) (filter : Filter) : Commands :=
  { commands with filters := (name, filter) :: commands.filters }

def helper? (commands : Commands) (name : String) : Option Helper :=
  commands.helpers.lookup name

def filter? (commands : Commands) (name : String) : Option Filter :=
  commands.filters.lookup name

def run (commands : Commands) (name : String) (args : List Value) : Except Error Value :=
  match commands.helper? name with
  | some helper => helper args
  | none => if commands.strict then .error (.helperNotFound name) else .ok .null

/-- The answer of the filter `name`; null declines. -/
def filter (commands : Commands) (name : String) (value : Value) (args : List Value) :
    Except Error Value :=
  match commands.filter? name with
  | some filter => filter value args
  | none => if commands.strict then .error (.filterNotFound name) else .ok .null

theorem run_of_lookup {commands : Commands} {name : String} {helper : Helper}
    (h : commands.helper? name = some helper) (args : List Value) :
    commands.run name args = helper args := by
  simp [run, h]

theorem run_unknown {commands : Commands} {name : String} (h : commands.helper? name = none)
    (args : List Value) :
    commands.run name args =
      if commands.strict then .error (.helperNotFound name) else .ok .null := by
  simp [run, h]

end Commands

end Folio
