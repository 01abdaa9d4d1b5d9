import Folio.Run
import Folio.Value.Path

namespace Folio

/-- What a body can reach, on states of type `σ`. -/
structure Scope (σ : Type) where
  lookup : σ → String → Option Value
  /-- What is left behind by looking up a key. -/
  asked : String → σ → σ := fun _ state => state
  invoke : String → List Value → Run σ Value
  /-- Hands over the content of a section and gets the text to write in its place. -/
  declare : String → String → Run σ String

namespace Scope

variable {σ : Type}

def ask (scope : Scope σ) (key : String) : Run σ (Option Value) :=
  Run.of fun state => (.ok (scope.lookup state key), scope.asked key state)

/-- The value of a key whose first segment may be the variable `name`, bound to `item`; other keys
are looked up by `outer`. -/
def lookupBound (name : String) (item : Value) (outer : String → Option Value) (key : String) :
    Option Value :=
  match keySegments key with
  | [] => outer key
  | head :: rest => if head = name then item.resolve? rest else outer key

def bind (scope : Scope σ) (name : String) (item : Value) : Scope σ :=
  { scope with
    lookup := fun state => lookupBound name item (scope.lookup state)
    asked := fun key state =>
      if (keySegments key).head? = some name then state else scope.asked key state }

theorem lookup_bind_self {scope : Scope σ} {name key : String} {item : Value} {state : σ}
    {rest : List String} (h : keySegments key = name :: rest) :
    (scope.bind name item).lookup state key = item.resolve? rest := by
  simp [bind, lookupBound, h]

theorem lookup_bind_of_ne {scope : Scope σ} {name other key : String} {item : Value} {state : σ}
    {rest : List String} (h : keySegments key = other :: rest) (ne : other ≠ name) :
    (scope.bind name item).lookup state key = scope.lookup state key := by
  simp [bind, lookupBound, h, ne]

end Scope

end Folio
