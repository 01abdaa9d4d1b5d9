import Folio.Proofs.Body.Bond

namespace Folio

structure Call where
  name : String
  args : List Value
  deriving Repr

/-- The scope that also keeps a list of all calls, from the first to the last. -/
def Scope.traced {σ : Type} (scope : Scope σ) : Scope (σ × List Call) where
  lookup state key := scope.lookup state.1 key
  asked key state := (scope.asked key state.1, state.2)
  invoke name args := Run.of fun state =>
    let ended := (scope.invoke name args).eval state.1
    (ended.1, ended.2, state.2 ++ [⟨name, args⟩])
  declare name content :=
    Run.within Prod.fst (fun after state => (after, state.2)) (scope.declare name content)

/-- The runs that end alike with a list of calls and without. -/
abbrev Scope.untraced (σ : Type) : Bond (σ × List Call) σ :=
  .ofStates (fun traced state => traced.1 = state) fun _ => False

theorem Scope.traced_alike {σ : Type} (scope : Scope σ) :
    (untraced σ).Scopes scope.traced scope where
  ask key := by
    rintro ⟨state, calls⟩ _ rfl
    exact .same rfl
  invoke name args := by
    rintro ⟨state, calls⟩ _ rfl
    exact .same rfl
  declare name content := by
    rintro ⟨state, calls⟩ _ rfl
    exact .same rfl

end Folio
