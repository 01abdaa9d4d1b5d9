import Folio.Body.Scope
import Folio.Expr.Reader
import Folio.Value.Text

namespace Folio.Body

variable {σ : Type}

def fail {α : Type} (path : Path) (error : BodyError) : Run σ α :=
  Run.fail (.body path error)

def malformed {α : Type} (path : Path) (line : Nat) (fault : BodyFault) : Run σ α :=
  fail path (.malformed fault line)

mutual

def evaluate (path : Path) (line : Nat) (scope : Scope σ) : Expr → Run σ Value
  | .literal value => pure value
  | .key key => do
    match ← scope.ask key with
    | some value => pure value
    | none => fail path (.undefined key line)
  | .list items => do
    let values ← evaluateAll path line scope items
    pure (.list values)
  | .object fields => do
    let values ← evaluateFields path line scope fields
    pure (.ofFields values)
  | .call name args => do
    let values ← evaluateAll path line scope args
    scope.invoke name values

/-- The values of expressions, from left to right. -/
def evaluateAll (path : Path) (line : Nat) (scope : Scope σ) : List Expr → Run σ (List Value)
  | [] => pure []
  | item :: rest => do
    let value ← evaluate path line scope item
    let values ← evaluateAll path line scope rest
    pure (value :: values)

def evaluateFields (path : Path) (line : Nat) (scope : Scope σ) :
    List (String × Expr) → Run σ (List (String × Value))
  | [] => pure []
  | (name, item) :: rest => do
    let value ← evaluate path line scope item
    let values ← evaluateFields path line scope rest
    pure ((name, value) :: values)

end

def evaluateSource (path : Path) (line : Nat) (scope : Scope σ) (source : List Char) :
    Run σ Value :=
  match Expr.read source with
  | .error error => malformed path line (.expression error)
  | .ok expr => evaluate path line scope expr

/-- The text that a value of the expression `source` adds to the output. -/
def output (path : Path) (source : List Char) (value : Value) : Run σ (List Char) :=
  match value with
  | .list _ => fail path (.listInOutput (String.ofList (Text.trim source)))
  | .object _ => fail path (.objectInOutput (String.ofList (Text.trim source)))
  | value => pure (value.displayed).toList

end Folio.Body
