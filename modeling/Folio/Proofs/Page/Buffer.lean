import Folio.Proofs.Page.Layout

/-! A page finds in its buffer what it has been handed, and goes on finding it until its body has
ended. -/

namespace Folio

namespace Page

variable {σ : Type}

theorem eval_dispatch_lastBuffer (host : Host σ) {name : String} {session : Session σ}
    (asked : Operation.ofName? (callName session.page name) = some .lastBuffer)
    (args : List Value) :
    (dispatch host name args).eval session = (.ok (.text session.page.buffer), session) := by
  rw [eval_dispatch_operation host asked, eval_operate_lastBuffer]

/-- Every call that asks for the last buffer, by whatever name, is answered with `buffer`. -/
def AnswersBuffer (host : Host σ) (session : Session σ) (buffer : String) : Prop :=
  ∀ name args, Operation.ofName? (callName session.page name) = some .lastBuffer →
    (dispatch host name args).eval session = (.ok (.text buffer), session)

theorem answersBuffer (host : Host σ) (session : Session σ) :
    AnswersBuffer host session session.page.buffer :=
  fun _ args asked => eval_dispatch_lastBuffer host asked args

/-- A call that is answered with `buffer` if it asks for the last buffer. The page is not looked at
for that. -/
def dispatchAnswering (host : Host σ) (buffer : String) (name : String) (args : List Value) :
    Run (Session σ) Value := do
  let name' ← Run.look fun session => callName session.page name
  if Operation.ofName? name' = some .lastBuffer then pure (.text buffer)
  else dispatch host name args

def scopeAnswering (host : Host σ) (buffer : String) : Scope (Session σ) :=
  { scope host with invoke := dispatchAnswering host buffer }

def collectAnswering (host : Host σ) (buffer : String) : Run (Session σ) String := do
  let path ← Run.look fun session => session.page.path
  match host.disk.read path with
  | .error error => Run.fail (.file error)
  | .ok source => Body.execute path source (scopeAnswering host buffer)

/-- The runs that end in the same way on pages with that buffer, and leave it to them. -/
abbrev holding (σ : Type) (buffer : String) : Bond (Session σ) (Session σ) :=
  .ofStates (fun session other => session = other ∧ session.page.buffer = buffer) fun _ => False

variable {host : Host σ} {buffer : String}

theorem holding_of_keepsRest {α : Type} {run : Run (Session σ) α}
    (keeps : (Session.keepsRest σ).holds run run) : (holding σ buffer).holds run run := by
  rintro session _ ⟨rfl, same⟩
  obtain ⟨layout?, kept⟩ := keeps session
  exact .same ⟨rfl, (congrArg Page.buffer kept).trans same⟩

theorem holding_dispatch (name : String) (args : List Value) :
    (holding σ buffer).holds (dispatchAnswering host buffer name args)
      (dispatch host name args) := by
  rintro session _ ⟨rfl, same⟩
  rw [dispatchAnswering, Run.eval_bind, Run.eval_look]
  dsimp only
  by_cases asked : Operation.ofName? (callName session.page name) = some .lastBuffer
  · rw [if_pos asked, eval_dispatch_lastBuffer host asked, same]
    exact .same ⟨rfl, same⟩
  · rw [if_neg asked]
    exact holding_of_keepsRest ((keepsRest_calls host).dispatch name args) _ _ ⟨rfl, same⟩

theorem holding_scopes : (holding σ buffer).Scopes (scopeAnswering host buffer) (scope host) where
  ask key := holding_of_keepsRest ((keepsRest_calls host).scopes.ask key)
  invoke := holding_dispatch
  declare name content := holding_of_keepsRest ((keepsRest_calls host).declare name content)

/-- All through the body of a page, the last buffer is the one that the page starts with. -/
theorem eval_collectAnswering (host : Host σ) (session : Session σ) :
    (collectAnswering host session.page.buffer).eval session = (collect host).eval session := by
  have holds : (holding σ session.page.buffer).holds
      (collectAnswering host session.page.buffer) (collect host) := by
    apply (holding σ session.page.buffer).bind
    · exact holding_of_keepsRest ((keepsRest_calls host).look Page.path)
    · intro path
      cases host.disk.read path with
      | error error => exact (holding σ session.page.buffer).fail _
      | ok source => exact Bond.execute holding_scopes path source
  obtain ⟨result, left, -⟩ := (holds session session ⟨rfl, rfl⟩).of_no_excuse
  exact Prod.ext result left

end Page

end Folio
