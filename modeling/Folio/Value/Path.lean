import Folio.Text.Digits
import Folio.Value.Basic

namespace Folio

open Text (digitsValue)

/-- The segments of a dotted key. -/
def keySegments (key : String) : List String :=
  Text.splitString '.' key

def indexLimit : Nat := Nat.pow 2 64

/-- The index that a segment stands for: decimal digits, which a plus sign may precede. -/
def index? (segment : String) : Option Nat :=
  let digits := match segment.toList with
    | '+' :: digits => digits
    | digits => digits
  if digits ≠ [] ∧ digits.all Char.isDigit ∧ digitsValue digits < indexLimit then
    some (digitsValue digits)
  else
    none

namespace Value

/-- The field of an object or the item of a list that a segment names. -/
def child? (value : Value) (segment : String) : Option Value :=
  match value with
  | .object fields => Fields.get? fields segment
  | .list items => (index? segment).bind fun i => items[i]?
  | _ => none

def resolve? (value : Value) : List String → Option Value
  | [] => some value
  | segment :: rest => (value.child? segment).bind fun child => child.resolve? rest

@[simp] theorem resolve?_nil (value : Value) : value.resolve? [] = some value := rfl

theorem resolve?_append (value : Value) (a b : List String) :
    value.resolve? (a ++ b) = (value.resolve? a).bind fun part => part.resolve? b := by
  induction a generalizing value with
  | nil => rfl
  | cons segment rest ih =>
    cases h : value.child? segment <;> simp [resolve?, h, ih]

end Value

/-- The value that a dotted key leads to: the first segment names a field, the others lead on from
there. -/
def Fields.resolve? (fields : Fields) (key : String) : Option Value :=
  (Value.object fields).resolve? (keySegments key)

end Folio
