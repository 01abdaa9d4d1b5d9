import Folio.Body.Execution

/-! A run that is given the lines of positions, and asks for a line only to report a fault, ends in
the same way whatever the lines are: with a value, with an error that is not its own, or with a
fault at a position, reported with the line of that position. -/

namespace Folio

open Body

/-- How a run ends: with a value, with an error that is passed on, or with a fault at a position. -/
inductive Ending (α : Type) where
  | done (value : α)
  | passed (error : Error)
  | fault (position : Nat) (error : Nat → BodyError)

namespace Ending

variable {σ α : Type}

def result (path : Path) (line : Nat → Nat) : Ending α → Except Error α
  | .done value => .ok value
  | .passed error => .error error
  | .fault position error => .error (.body path (error (line position)))

/-- A fault is one of `faults`, and an error that is passed on, with the state that it has left, is
one of `passed`. -/
def Fits (faults : Nat → (Nat → BodyError) → Prop) (passed : Error → σ → Prop) (after : σ) :
    Ending α → Prop
  | .done _ => True
  | .passed error => passed error after
  | .fault position error => faults position error

end Ending

/-- From every state the run ends in one way, whatever the lines are that it is given. -/
def Reports {σ α : Type} (path : Path) (faults : Nat → (Nat → BodyError) → Prop)
    (passed : Error → σ → Prop) (run : (Nat → Nat) → Run σ α) : Prop :=
  ∀ state, ∃ (ending : Ending α) (after : σ), ending.Fits faults passed after ∧
    ∀ line, (run line).eval state = (ending.result path line, after)

namespace Reports

variable {σ α β : Type} {path : Path} {faults : Nat → (Nat → BodyError) → Prop}
  {passed : Error → σ → Prop}

theorem const {run : Run σ α}
    (h : ∀ state error after, run.eval state = (.error error, after) → passed error after) :
    Reports path faults passed fun _ => run := by
  intro state
  cases ended : run.eval state with
  | mk result after =>
    cases result with
    | error error => exact ⟨.passed error, after, h state error after ended, fun _ => ended⟩
    | ok value => exact ⟨.done value, after, trivial, fun _ => ended⟩

theorem pure (value : α) : Reports path faults passed fun _ => (pure value : Run σ α) := by
  apply const
  intro state error after ended
  cases ended

theorem fault {position : Nat} {error : Nat → BodyError} (h : faults position error) :
    Reports path faults passed fun line => (fail path (error (line position)) : Run σ α) :=
  fun state => ⟨.fault position error, state, h, fun _ => rfl⟩

theorem bind {run : (Nat → Nat) → Run σ α} {next : (Nat → Nat) → α → Run σ β}
    (h : Reports path faults passed run)
    (h' : ∀ value, Reports path faults passed fun line => next line value) :
    Reports path faults passed fun line => run line >>= next line := by
  intro state
  obtain ⟨ending, between, fits, ends⟩ := h state
  cases ending with
  | done value =>
    obtain ⟨ending, after, fits, ends'⟩ := h' value between
    refine ⟨ending, after, fits, fun line => ?_⟩
    rw [Run.eval_bind, ends line]
    exact ends' line
  | passed error =>
    exact ⟨.passed error, between, fits, fun line => Run.bind_of_error (ends line)⟩
  | fault position error =>
    exact ⟨.fault position error, between, fits, fun line => Run.bind_of_error (ends line)⟩

theorem mapM {run : (Nat → Nat) → α → Run σ β} {items : List α}
    (h : ∀ item ∈ items, Reports path faults passed fun line => run line item) :
    Reports path faults passed fun line => items.mapM (run line) := by
  induction items with
  | nil => exact pure []
  | cons item items ih =>
    obtain ⟨first, rest⟩ := List.forall_mem_cons.mp h
    simp only [List.mapM_cons]
    apply bind first
    intro value
    apply bind (ih rest)
    intro values
    exact pure (value :: values)

end Reports

/-! ## What is not an own fault -/

/-- The errors that a body passes on: those of the calls and the sections of its scope, and those
that name no line. -/
inductive Scope.Passes {σ : Type} (scope : Scope σ) (path : Path) : Error → σ → Prop
  | invoke {name : String} {args : List Value} {state after : σ} {error : Error} :
      (scope.invoke name args).eval state = (.error error, after) → Passes scope path error after
  | declare {name content : String} {state after : σ} {error : Error} :
      (scope.declare name content).eval state = (.error error, after) →
      Passes scope path error after
  | list (source : String) (state : σ) :
      Passes scope path (.body path (.listInOutput source)) state
  | object (source : String) (state : σ) :
      Passes scope path (.body path (.objectInOutput source)) state

theorem Scope.passes_bind {σ : Type} (scope : Scope σ) (path : Path) (name : String)
    (item : Value) : (scope.bind name item).Passes path = scope.Passes path := by
  funext error after
  apply propext
  constructor <;> intro passes <;> cases passes with
  | invoke ended => exact .invoke ended
  | declare ended => exact .declare ended
  | list source => exact .list source after
  | object source => exact .object source after

inductive Expr.Asks (name : String) : Expr → Prop
  | key : Asks name (.key name)
  | list {items : List Expr} {item : Expr} :
      item ∈ items → Asks name item → Asks name (.list items)
  | object {fields : List (String × Expr)} {field : String × Expr} :
      field ∈ fields → Asks name field.2 → Asks name (.object fields)
  | call {called : String} {args : List Expr} {arg : Expr} :
      arg ∈ args → Asks name arg → Asks name (.call called args)

/-! ## What a tag reports -/

section
variable {σ : Type} {scope : Scope σ} {path : Path} {faults : Nat → (Nat → BodyError) → Prop}
  {position : Nat}

theorem reports_ask (key : String) :
    Reports path faults (scope.Passes path) fun _ => scope.ask key := by
  apply Reports.const
  intro state error after ended
  cases ended

mutual

theorem reports_evaluate (expr : Expr)
    (h : ∀ name, expr.Asks name → faults position (.undefined name)) :
    Reports path faults (scope.Passes path) fun line =>
      evaluate path (line position) scope expr := by
  cases expr with
  | literal value =>
    simp only [evaluate]
    exact .pure value
  | key key =>
    simp only [evaluate]
    apply Reports.bind (reports_ask key)
    rintro (_ | value)
    · exact .fault (h key .key)
    · exact .pure value
  | list items =>
    simp only [evaluate]
    apply Reports.bind (reports_evaluateAll items fun name item mem asks =>
      h name (.list mem asks))
    intro values
    exact .pure _
  | object fields =>
    simp only [evaluate]
    apply Reports.bind (reports_evaluateFields fields fun name field mem asks =>
      h name (.object mem asks))
    intro values
    exact .pure _
  | call name args =>
    simp only [evaluate]
    apply Reports.bind (reports_evaluateAll args fun name item mem asks => h name (.call mem asks))
    intro values
    exact .const fun _ _ _ ended => .invoke ended

theorem reports_evaluateAll (items : List Expr)
    (h : ∀ name, ∀ item ∈ items, item.Asks name → faults position (.undefined name)) :
    Reports path faults (scope.Passes path) fun line =>
      evaluateAll path (line position) scope items := by
  cases items with
  | nil =>
    simp only [evaluateAll]
    exact .pure []
  | cons item rest =>
    simp only [evaluateAll]
    apply Reports.bind (reports_evaluate item fun name => h name item List.mem_cons_self)
    intro value
    apply Reports.bind (reports_evaluateAll rest fun name item mem =>
      h name item (List.mem_cons_of_mem _ mem))
    intro values
    exact .pure _

theorem reports_evaluateFields (fields : List (String × Expr))
    (h : ∀ name, ∀ field ∈ fields, field.2.Asks name → faults position (.undefined name)) :
    Reports path faults (scope.Passes path) fun line =>
      evaluateFields path (line position) scope fields := by
  cases fields with
  | nil =>
    simp only [evaluateFields]
    exact .pure []
  | cons field rest =>
    obtain ⟨called, item⟩ := field
    simp only [evaluateFields]
    apply Reports.bind (reports_evaluate item fun name =>
      h name (called, item) List.mem_cons_self)
    intro value
    apply Reports.bind (reports_evaluateFields rest fun name field mem =>
      h name field (List.mem_cons_of_mem _ mem))
    intro values
    exact .pure _

end

/-- The expression of a tag cannot be read, or a key that it asks for is not defined. -/
theorem reports_evaluateSource {source : List Char}
    (unreadable : ∀ error, Expr.read source = .error error →
      faults position (.malformed (.expression error)))
    (undefined : ∀ expr name, Expr.read source = .ok expr → expr.Asks name →
      faults position (.undefined name)) :
    Reports path faults (scope.Passes path) fun line =>
      evaluateSource path (line position) scope source := by
  unfold evaluateSource
  cases read : Expr.read source with
  | error error => exact .fault (unreadable error read)
  | ok expr => exact reports_evaluate expr fun name => undefined expr name read

theorem reports_output (source : List Char) (value : Value) :
    Reports path faults (scope.Passes path) fun _ => output path source value := by
  apply Reports.const
  intro state error after ended
  cases value with
  | list items =>
    cases ended
    exact .list _ _
  | object fields =>
    cases ended
    exact .object _ _
  | _ => cases ended

theorem reports_loopItems {key : String} (undefined : faults position (.undefined key))
    (other : faults position (.malformed (.notList key))) :
    Reports path faults (scope.Passes path) fun line =>
      loopItems path (line position) scope key := by
  apply Reports.bind (reports_ask key)
  rintro (_ | value)
  · exact .fault undefined
  · cases value with
    | list items => exact .pure items
    | _ => exact .fault other

end

end Folio
