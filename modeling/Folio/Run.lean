import Folio.Error

/-! A run changes a state and ends with a result or an error; the state that an error leaves behind
is kept. -/

namespace Folio

/-- A computation on states of type `σ` that may fail. -/
abbrev Run (σ : Type) := ExceptT Error (StateM σ)

namespace Run

variable {σ τ α β : Type}

def eval (run : Run σ α) (state : σ) : Except Error α × σ :=
  ExceptT.run run state

def of (f : σ → Except Error α × σ) : Run σ α :=
  ExceptT.mk f

def fail (error : Error) : Run σ α :=
  of fun state => (.error error, state)

def look (f : σ → α) : Run σ α :=
  of fun state => (.ok (f state), state)

def update (f : σ → σ) : Run σ Unit :=
  of fun state => (.ok (), f state)

def ofExcept (result : Except Error α) : Run σ α :=
  of fun state => (result, state)

/-- The run on a part `get` of the state, which is put back by `set`. -/
def within (get : τ → σ) (set : σ → τ → τ) (run : Run σ α) : Run τ α :=
  of fun state =>
    let (result, part) := run.eval (get state)
    (result, set part state)

/-- The run that changes the state once more if `run` fails, and then fails with its error. -/
def onError (run : Run σ α) (cleanup : σ → σ) : Run σ α :=
  of fun state =>
    match run.eval state with
    | (.ok value, after) => (.ok value, after)
    | (.error error, after) => (.error error, cleanup after)

/-- The run that changes the state once more after `run`, whether it fails or not. -/
def ensure (run : Run σ α) (cleanup : σ → σ) : Run σ α :=
  of fun state => ((run.eval state).1, cleanup (run.eval state).2)

@[simp] theorem eval_of (f : σ → Except Error α × σ) (state : σ) :
    (of f).eval state = f state := rfl

@[simp] theorem eval_pure (value : α) (state : σ) :
    (pure value : Run σ α).eval state = (.ok value, state) := rfl

@[simp] theorem eval_fail (error : Error) (state : σ) :
    (fail error : Run σ α).eval state = (.error error, state) := rfl

@[simp] theorem eval_look (f : σ → α) (state : σ) :
    (look f).eval state = (.ok (f state), state) := rfl

@[simp] theorem eval_update (f : σ → σ) (state : σ) :
    (update f).eval state = (.ok (), f state) := rfl

theorem eval_bind (run : Run σ α) (next : α → Run σ β) (state : σ) :
    (run >>= next).eval state =
      match run.eval state with
      | (.ok value, after) => (next value).eval after
      | (.error error, after) => (.error error, after) := by
  simp only [eval, ExceptT.run, Bind.bind, ExceptT.bind, ExceptT.mk, StateT.bind]
  rcases run state with ⟨_ | _, after⟩ <;> rfl

theorem bind_of_ok {run : Run σ α} {state after : σ} {value : α}
    (h : run.eval state = (.ok value, after)) (next : α → Run σ β) :
    (run >>= next).eval state = (next value).eval after := by
  rw [eval_bind, h]

theorem bind_of_eq {run other : Run σ α} {state between : σ}
    (h : run.eval state = other.eval between) (next : α → Run σ β) :
    (run >>= next).eval state = (other >>= next).eval between := by
  rw [eval_bind, eval_bind, h]

theorem eval_map (f : α → β) (run : Run σ α) (state : σ) :
    (f <$> run).eval state = (f <$> (run.eval state).1, (run.eval state).2) := by
  rw [map_eq_pure_bind, eval_bind]
  rcases run.eval state with ⟨_ | _, after⟩ <;> rfl

theorem bind_of_error {run : Run σ α} {next : α → Run σ β} {state after : σ} {error : Error}
    (h : run.eval state = (.error error, after)) :
    (run >>= next).eval state = (.error error, after) := by
  rw [eval_bind, h]

/-- A run that ends with a result has gone through all its parts. -/
theorem exists_of_bind_ok {run : Run σ α} {next : α → Run σ β} {state after : σ} {value : β}
    (h : (run >>= next).eval state = (.ok value, after)) :
    ∃ first between, run.eval state = (.ok first, between) ∧
      (next first).eval between = (.ok value, after) := by
  rw [eval_bind] at h
  generalize run.eval state = ended at h ⊢
  obtain ⟨error | first, between⟩ := ended
  · cases h
  · exact ⟨first, between, rfl, h⟩

/-- A run that fails has failed in its first part, or in what comes after that. -/
theorem cases_of_bind_error {run : Run σ α} {next : α → Run σ β} {state after : σ} {error : Error}
    (h : (run >>= next).eval state = (.error error, after)) :
    run.eval state = (.error error, after) ∨
      ∃ first between, run.eval state = (.ok first, between) ∧
        (next first).eval between = (.error error, after) := by
  rw [eval_bind] at h
  generalize run.eval state = ended at h ⊢
  obtain ⟨found | first, between⟩ := ended
  · cases h
    exact .inl rfl
  · exact .inr ⟨first, between, rfl, h⟩

theorem within_apply (get : τ → σ) (set : σ → τ → τ) (run : Run σ α) (state : τ) :
    (within get set run).eval state =
      ((run.eval (get state)).1, set (run.eval (get state)).2 state) := rfl

end Run

end Folio
