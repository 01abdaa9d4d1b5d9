import Folio.Run

/-! A bond is a relation between the runs on two kinds of states that is kept when runs are put
after one another. A law of single runs is a bond that does not look at the second one. -/

namespace Folio

theorem Run.ext {σ α : Type} {run other : Run σ α}
    (h : ∀ state, run.eval state = other.eval state) : run = other :=
  funext h

/-- Runs go on alike if they do so after every result that the run before them can end with. -/
theorem Run.bind_congr {σ α β : Type} {run : Run σ α} {next next' : α → Run σ β}
    (h : ∀ state value after, run.eval state = (.ok value, after) → next value = next' value) :
    run >>= next = run >>= next' := by
  apply Run.ext
  intro state
  cases ran : run.eval state with
  | mk result after =>
    cases result with
    | error error => rw [Run.bind_of_error ran, Run.bind_of_error ran]
    | ok value => rw [Run.bind_of_ok ran, Run.bind_of_ok ran, h state value after ran]

/-- A relation between runs that holds of the runs that do nothing and of those that fail in the
same way, and that is kept when runs are put after one another. -/
structure Bond (σ τ : Type) where
  holds : {α : Type} → Run σ α → Run τ α → Prop
  pure {α : Type} (value : α) : holds (pure value) (pure value)
  fail {α : Type} (error : Error) : holds (Run.fail error : Run σ α) (Run.fail error)
  bind {α β : Type} {left : Run σ α} {right : Run τ α} {next : α → Run σ β}
    {next' : α → Run τ β} :
    holds left right → (∀ value, holds (next value) (next' value)) →
    holds (left >>= next) (right >>= next')

namespace Bond

variable {σ τ α β : Type} (bond : Bond σ τ)

theorem map {left : Run σ α} {right : Run τ α} (f : α → β) (h : bond.holds left right) :
    bond.holds (f <$> left) (f <$> right) := by
  rw [map_eq_pure_bind, map_eq_pure_bind]
  exact bond.bind h fun value => bond.pure (f value)

theorem ofExcept (result : Except Error α) :
    bond.holds (Run.ofExcept result) (Run.ofExcept result) := by
  cases result with
  | error error => exact bond.fail error
  | ok value => exact bond.pure value

theorem mapM {left : α → Run σ β} {right : α → Run τ β}
    (h : ∀ item, bond.holds (left item) (right item)) (items : List α) :
    bond.holds (items.mapM left) (items.mapM right) := by
  induction items with
  | nil => exact bond.pure []
  | cons item items ih =>
    rw [List.mapM_cons, List.mapM_cons]
    apply bond.bind (h item)
    intro value
    apply bond.bind ih
    intro values
    exact bond.pure (value :: values)

end Bond

/-! ## Related states -/

/-- How two runs end: both with the same result or the same error in related states, or the first
one with an error that is excused. -/
inductive EndAlike {σ τ α : Type} (related : σ → τ → Prop) (excused : Error → Prop) :
    Except Error α × σ → Except Error α × τ → Prop
  | same {result : Except Error α} {state : σ} {state' : τ} :
      related state state' → EndAlike related excused (result, state) (result, state')
  | excuse {error : Error} {state : σ} {other : Except Error α × τ} :
      excused error → EndAlike related excused (.error error, state) other

def Bond.ofStates {σ τ : Type} (related : σ → τ → Prop) (excused : Error → Prop) : Bond σ τ where
  holds left right := ∀ state state', related state state' →
    EndAlike related excused (left.eval state) (right.eval state')
  pure _ _ _ h := .same h
  fail _ _ _ h := .same h
  bind := by
    intro α β left right next next' first second state state' h
    rw [Run.eval_bind, Run.eval_bind]
    have ends := first state state' h
    generalize left.eval state = one at ends
    generalize right.eval state' = two at ends
    cases ends with
    | @same result after after' related =>
      cases result with
      | error error => exact .same related
      | ok value => exact second value after after' related
    | excuse excused => exact .excuse excused

theorem EndAlike.of_no_excuse {σ τ α : Type} {related : σ → τ → Prop}
    {ended : Except Error α × σ} {ended' : Except Error α × τ}
    (h : EndAlike related (fun _ => False) ended ended') :
    ended.1 = ended'.1 ∧ related ended.2 ended'.2 := by
  cases h with
  | same related => exact ⟨rfl, related⟩
  | excuse excused => exact excused.elim

/-- Runs from one state that end alike end in the same way, unless an error is excused. -/
theorem EndAlike.eq_of_not_excused {σ α : Type} {excused : Error → Prop}
    {ended ended' : Except Error α × σ} (h : EndAlike (· = ·) excused ended ended')
    (fault : ∀ error, ended.1 = .error error → ¬ excused error) : ended' = ended := by
  cases h with
  | same same => rw [same]
  | excuse excuse => exact absurd excuse (fault _ rfl)

/-- What is done to the states at the end keeps the runs alike if it keeps the states related. -/
theorem EndAlike.change {σ τ α : Type} {related : σ → τ → Prop} {excused : Error → Prop}
    {ended : Except Error α × σ} {ended' : Except Error α × τ} {f : σ → σ} {g : τ → τ}
    (h : EndAlike related excused ended ended')
    (keeps : ∀ state state', related state state' → related (f state) (g state')) :
    EndAlike related excused (ended.1, f ended.2) (ended'.1, g ended'.2) := by
  cases h with
  | same related => exact .same (keeps _ _ related)
  | excuse excused => exact .excuse excused

theorem Bond.ofStates_update {σ τ : Type} {related : σ → τ → Prop} {excused : Error → Prop}
    {f : σ → σ} {g : τ → τ}
    (h : ∀ state state', related state state' → related (f state) (g state')) :
    (ofStates related excused).holds (Run.update f) (Run.update g) := by
  intro state state' start
  exact .same (h state state' start)

end Folio
