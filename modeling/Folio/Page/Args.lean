import Folio.Error

namespace Folio.Page

/-- The argument at a position; null if it is absent. -/
def argument (args : List Value) (position : Nat) : Value :=
  args[position]?.getD .null

def invalid {α : Type} (operation : Operation) (fault : CallFault) : Except Error α :=
  .error (.invalidCall operation fault)

def textArg (operation : Operation) (args : List Value) (position : Nat) : Except Error String :=
  match argument args position with
  | .text s => .ok s
  | .null => invalid operation (.missing position)
  | value => invalid operation (.notText position value)

/-- An argument that has to be an object; null counts as the empty one. -/
def contextArg (operation : Operation) (args : List Value) (position : Nat) :
    Except Error Fields :=
  match argument args position with
  | .object fields => .ok fields
  | .null => .ok []
  | value => invalid operation (.notObject position value)

/-- The arguments of one filter stage: the items of a list, none for null, and any other value
alone. -/
def stageArgs : Value → List Value
  | .list args => args
  | .null => []
  | value => [value]

/-- An argument that has to list the arguments of filter stages; null counts as the empty list. -/
def stagesArg (operation : Operation) (args : List Value) (position : Nat) :
    Except Error (List (List Value)) :=
  match argument args position with
  | .list stages => .ok (stages.map stageArgs)
  | .null => .ok []
  | value => invalid operation (.notStages position value)

theorem textArg_eq_ok_iff {operation : Operation} {args : List Value} {position : Nat}
    {s : String} : textArg operation args position = .ok s ↔ argument args position = .text s := by
  unfold textArg
  split <;> simp_all [invalid]

end Folio.Page
