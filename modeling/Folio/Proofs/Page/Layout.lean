import Folio.Proofs.Body.Trace
import Folio.Proofs.Page.Bond

namespace Folio

variable {σ : Type}

def Call.isLayout (page : Page) (call : Call) : Bool :=
  Operation.ofName? (Page.callName page call.name) = some .layout

def Call.layout? (find : String → Option Path) (call : Call) : Option Path :=
  match Page.textArg .layout call.args 0 with
  | .ok name => find name
  | .error _ => none

/-- The layout that the page asks for after some calls: that of the last layout call, if there is
one. -/
def Page.layoutAfter (find : String → Option Path) (page : Page) (calls : List Call) :
    Option Path :=
  match (calls.filter (Call.isLayout page)).getLast? with
  | some call => call.layout? find
  | none => page.layout?

def Page.after (find : String → Option Path) (page : Page) (calls : List Call) : Page :=
  { page with layout? := page.layoutAfter find calls }

/-- A call from a page means the same after other calls. -/
theorem Call.isLayout_after (find : String → Option Path) (page : Page) (calls : List Call) :
    Call.isLayout (page.after find calls) = Call.isLayout page := rfl

theorem Page.after_append (find : String → Option Path) (page : Page) (calls more : List Call) :
    page.after find (calls ++ more) = (page.after find calls).after find more := by
  have last : page.layoutAfter find (calls ++ more) =
      (page.after find calls).layoutAfter find more := by
    unfold layoutAfter
    rw [Call.isLayout_after, List.filter_append, List.getLast?_append]
    cases (more.filter (Call.isLayout page)).getLast? <;> rfl
  rw [after, last]
  rfl

theorem Page.after_layout {find : String → Option Path} {page : Page} {call : Call}
    (h : call.isLayout page = true) :
    page.after find [call] = { page with layout? := call.layout? find } := by
  simp [after, layoutAfter, h]

theorem Page.after_other {find : String → Option Path} {page : Page} {call : Call}
    (h : call.isLayout page = false) : page.after find [call] = page := by
  simp [after, layoutAfter, h]

/-! ## What the calls of a page do to it -/

def Session.keepsPage (σ : Type) : Bond (Session σ) (Session σ) where
  holds run _ := ∀ session, (run.eval session).2.page = session.page
  pure _ _ := rfl
  fail _ _ := rfl
  bind := by
    intro α β run _ next _ first second session
    rw [Run.eval_bind]
    have same := first session
    generalize run.eval session = ended at same ⊢
    obtain ⟨error | value, after⟩ := ended
    · exact same
    · exact (second value after).trans same

/-- The runs that change nothing of the page but the layout that it asks for. -/
def Session.keepsRest (σ : Type) : Bond (Session σ) (Session σ) where
  holds run _ := ∀ session, ∃ layout?, (run.eval session).2.page = { session.page with layout? }
  pure _ session := ⟨session.page.layout?, rfl⟩
  fail _ session := ⟨session.page.layout?, rfl⟩
  bind := by
    intro α β run _ next _ first second session
    rw [Run.eval_bind]
    obtain ⟨layout?, same⟩ := first session
    generalize run.eval session = ended at same ⊢
    obtain ⟨error | value, after⟩ := ended
    · exact ⟨layout?, same⟩
    · obtain ⟨last, same'⟩ := second value after
      exact ⟨last, by rw [same', same]⟩

theorem Session.context_of_keepsRest {α : Type} {run : Run (Session σ) α}
    (keeps : (keepsRest σ).holds run run) (session : Session σ) :
    (run.eval session).2.page.context = session.page.context := by
  obtain ⟨layout?, same⟩ := keeps session
  rw [same]

theorem Session.keepsPage_outside {α : Type} (run : Run σ α) :
    (keepsPage σ).holds (outside run) (outside run) := fun _ => rfl

namespace Page

variable {host : Host σ} {find : String → Option Path}

theorem keepsPage_insert (name : String) (context : Fields) :
    (Session.keepsPage σ).holds (insert host name context) (insert host name context) := by
  apply (Session.keepsPage σ).bind (fun _ => rfl)
  intro _
  apply (Session.keepsPage σ).bind (fun _ => rfl)
  intro rendered
  exact (Session.keepsPage σ).bind (fun _ => rfl) fun _ => fun _ => rfl

theorem keepsPage_insertIf (name : String) (context : Fields) :
    (Session.keepsPage σ).holds (insertIf host name context) (insertIf host name context) := by
  apply (Session.keepsPage σ).bind (fun _ => rfl)
  rintro (_ | path)
  · exact fun _ => rfl
  · exact keepsPage_insert name context

theorem keepsPage_operate {operation : Operation} (other : operation ≠ .layout)
    (args : List Value) :
    (Session.keepsPage σ).holds (operate host operation args) (operate host operation args) := by
  have ofExcept {α : Type} (result : Except Error α) :=
    (Session.keepsPage σ).ofExcept result
  cases operation with
  | layout => exact absurd rfl other
  | filter =>
    apply (Session.keepsPage σ).bind (ofExcept _)
    intro pipeline
    exact (Session.keepsPage σ).bind (ofExcept _) fun stages _ => rfl
  | lastBuffer => exact fun _ => rfl
  | supply =>
    apply (Session.keepsPage σ).bind (ofExcept _)
    intro name
    apply (Session.keepsPage σ).bind (fun _ => rfl)
    exact fun content _ => rfl
  | insert =>
    apply (Session.keepsPage σ).bind (ofExcept _)
    intro name
    apply (Session.keepsPage σ).bind (ofExcept _)
    intro context
    exact (Session.keepsPage σ).bind (keepsPage_insert name context) fun rendered _ => rfl
  | insertIf =>
    apply (Session.keepsPage σ).bind (ofExcept _)
    intro name
    apply (Session.keepsPage σ).bind (ofExcept _)
    intro context
    exact (Session.keepsPage σ).bind (keepsPage_insertIf name context) fun rendered _ => rfl
  | get => exact (Session.keepsPage σ).bind (ofExcept _) fun key _ => rfl
  | data => exact fun _ => rfl

theorem page_dispatch_other {name : String} {args : List Value} {session : Session σ}
    (other : Call.isLayout session.page ⟨name, args⟩ = false) :
    ((dispatch host name args).eval session).2.page = session.page := by
  rw [dispatch, Run.eval_bind, Run.eval_look]
  dsimp only
  cases operation : Operation.ofName? (callName session.page name) with
  | none => exact Session.keepsPage_outside _ session
  | some operation' =>
    refine keepsPage_operate (fun layout => ?_) args session
    simp [Call.isLayout, operation, layout] at other

theorem keepsRest_calls (host : Host σ) : (Session.keepsRest σ).Calls host host where
  disk := rfl
  look _ session := ⟨session.page.layout?, rfl⟩
  setLayout name session := by
    rw [eval_setLayout]
    dsimp only
    cases (host.find name session.world).1 with
    | none => exact ⟨session.page.layout?, rfl⟩
    | some path => exact ⟨some path, rfl⟩
  supply name fallback session := ⟨session.page.layout?, rfl⟩
  declare name content session := ⟨session.page.layout?, rfl⟩
  insert name context session := ⟨session.page.layout?, keepsPage_insert name context session⟩
  insertIf name context session := ⟨session.page.layout?, keepsPage_insertIf name context session⟩
  run name args session := ⟨session.page.layout?, rfl⟩
  filter name value args session := ⟨session.page.layout?, rfl⟩

section
variable (seeks : ∀ (name : String) (world : σ), (host.find name world).1 = find name)
include seeks

theorem operate_layout {args : List Value} {session ended : Session σ} {value : Value}
    (h : (operate host .layout args).eval session = (.ok value, ended)) (name : String) :
    ended.page = { session.page with layout? := Call.layout? find ⟨name, args⟩ } := by
  obtain ⟨text, start, checked, h⟩ := Run.exists_of_bind_ok h
  simp only [Run.ofExcept, Run.eval_of, Prod.mk.injEq] at checked
  obtain ⟨checked, rfl⟩ := checked
  obtain ⟨_, last, set, h⟩ := Run.exists_of_bind_ok h
  cases h
  rw [eval_setLayout] at set
  dsimp only at set
  rw [seeks] at set
  rw [Call.layout?, checked]
  dsimp only
  cases present : find text with
  | none =>
    rw [present] at set
    cases set
  | some path =>
    rw [present] at set
    cases set
    rfl

/-- Every call leaves the page as a list of calls says that has it alone. -/
theorem dispatch_after {name : String} {args : List Value} {session ended : Session σ}
    {value : Value} (h : (dispatch host name args).eval session = (.ok value, ended)) :
    ended.page = session.page.after find [⟨name, args⟩] := by
  by_cases asked : Call.isLayout session.page ⟨name, args⟩ = true
  · rw [after_layout asked]
    rw [eval_dispatch_operation host (of_decide_eq_true asked)] at h
    exact operate_layout seeks h name
  · have other := Bool.eq_false_iff.mpr asked
    rw [after_other other, ← page_dispatch_other other, h]

end

/-! ## The body of a page -/

/-- The runs of which the calls account for what they do to the page, if they succeed. -/
def accounted (σ : Type) (find : String → Option Path) :
    Bond (Session σ × List Call) (Session σ × List Call) where
  holds run _ := ∀ start result ended, run.eval start = (.ok result, ended) →
    ∃ calls, ended.2 = start.2 ++ calls ∧ ended.1.page = start.1.page.after find calls
  pure value start result ended h := by
    cases h
    exact ⟨[], by simp, rfl⟩
  fail error start result ended h := by cases h
  bind := by
    intro α β run _ next _ first second start result ended h
    obtain ⟨value, between, ran, h⟩ := Run.exists_of_bind_ok h
    obtain ⟨calls, log, page⟩ := first start value between ran
    obtain ⟨more, log', page'⟩ := second value between result ended h
    refine ⟨calls ++ more, ?_, ?_⟩
    · rw [log', log, List.append_assoc]
    · rw [page', page, after_append]

def collectTraced (host : Host σ) : Run (Session σ × List Call) String := do
  let path ← Run.look fun state => state.1.page.path
  match host.disk.read path with
  | .error error => Run.fail (.file error)
  | .ok source => Body.execute path source (scope host).traced

theorem accounted_scopes
    (seeks : ∀ (name : String) (world : σ), (host.find name world).1 = find name) :
    (accounted σ find).Scopes (scope host).traced (scope host).traced where
  ask key start result ended h := by
    cases h
    exact ⟨[], (List.append_nil _).symm, rfl⟩
  invoke name args start result ended h := by
    cases ran : (dispatch host name args).eval start.1 with
    | mk value after =>
      simp only [Scope.traced, scope, Run.eval_of, ran, Prod.mk.injEq] at h
      obtain ⟨rfl, rfl⟩ := h
      exact ⟨[⟨name, args⟩], rfl, dispatch_after seeks ran⟩
  declare name content start result ended h := by
    have log : ended.2 = start.2 := (congrArg (fun outcome => outcome.2.2) h).symm
    have page : ended.1.page = start.1.page :=
      (congrArg (fun outcome => outcome.2.1.page) h).symm
    exact ⟨[], by simp [log], page⟩

theorem holds_collectTraced {bond : Bond (Session σ × List Call) (Session σ × List Call)}
    (look : bond.holds (Run.look fun state => state.1.page.path)
      (Run.look fun state => state.1.page.path))
    (scopes : bond.Scopes (scope host).traced (scope host).traced) :
    bond.holds (collectTraced host) (collectTraced host) := by
  apply bond.bind look
  intro path
  cases host.disk.read path with
  | error error => exact bond.fail _
  | ok source => exact Bond.execute scopes path source

theorem collect_traced (host : Host σ) (session : Session σ) (calls : List Call) :
    let ended := (collectTraced host).eval (session, calls)
    (collect host).eval session = (ended.1, ended.2.1) := by
  intro ended
  have alike : (Scope.untraced (Session σ)).holds (collectTraced host) (collect host) := by
    apply (Scope.untraced (Session σ)).bind
    · rintro ⟨session, calls⟩ _ rfl
      exact .same rfl
    · intro path
      cases host.disk.read path with
      | error error => exact (Scope.untraced (Session σ)).fail _
      | ok source => exact Bond.execute (scope host).traced_alike path source
  obtain ⟨same, same'⟩ := (alike (session, calls) session rfl).of_no_excuse
  exact (Prod.ext same same').symm

/-- A body that succeeds leaves the page as its calls say. -/
theorem page_collectTraced
    (seeks : ∀ (name : String) (world : σ), (host.find name world).1 = find name)
    {session ended : Session σ} {body : String} {calls : List Call}
    (h : (collectTraced host).eval (session, []) = (.ok body, ended, calls)) :
    ended.page = session.page.after find calls := by
  have accounts : (accounted σ find).holds (collectTraced host) (collectTraced host) := by
    refine holds_collectTraced (fun start result ended h => ?_) (accounted_scopes seeks)
    cases h
    exact ⟨[], (List.append_nil _).symm, rfl⟩
  obtain ⟨log, same, page⟩ := accounts _ _ _ h
  rw [page]
  exact congrArg _ same.symm

/-! ## The render of a page -/

section
variable {page left : Page} {context : Fields} {world after : σ} {body : String}

theorem eval_render
    (h : (collect host).eval ⟨{ page with context },
        host.fire ⟨.prerender, { page with context }⟩ world⟩ = (.ok body, ⟨left, after⟩)) :
    (render host context).eval ⟨page, world⟩ =
      (do
        let output ← wrap host context body left.layout?
        Session.fire host .rendered
        pure output).eval ⟨{ left with buffer := body, layout? := none },
          host.note (.collected left body) after⟩ := by
  have collected : (Run.onError (collect host) fun session =>
      { session with page := { session.page with layout? := none } }).eval
        ⟨{ page with context }, host.fire ⟨.prerender, { page with context }⟩ world⟩ =
      (.ok body, ⟨left, after⟩) := by
    rw [Run.onError, Run.eval_of, h]
  have rest : (render host context).eval ⟨page, world⟩ =
      ((Run.onError (collect host) fun session =>
        { session with page := { session.page with layout? := none } }) >>= fun body => do
          let page ← Run.look Session.page
          Session.note host (.collected page body)
          Session.updatePage fun page => { page with buffer := body, layout? := none }
          let output ← wrap host context body page.layout?
          Session.fire host .rendered
          pure output).eval
        ⟨{ page with context }, host.fire ⟨.prerender, { page with context }⟩ world⟩ := rfl
  rw [rest, Run.eval_bind, collected]
  rfl

theorem eval_render_bare
    (h : (collect host).eval ⟨{ page with context },
        host.fire ⟨.prerender, { page with context }⟩ world⟩ = (.ok body, ⟨left, after⟩))
    (bare : left.layout? = none) :
    (render host context).eval ⟨page, world⟩ =
      let finished := { left with buffer := body, layout? := none }
      (.ok body, ⟨finished,
        host.fire ⟨.rendered, finished⟩ (host.note (.collected left body) after)⟩) := by
  rw [eval_render h, bare]
  rfl

theorem eval_render_wrapped
    (h : (collect host).eval ⟨{ page with context },
        host.fire ⟨.prerender, { page with context }⟩ world⟩ = (.ok body, ⟨left, after⟩))
    {layout : Path} (wrapped : left.layout? = some layout) {output : String} {inner : σ}
    (nested : (host.renderLayout layout context body).eval
      (host.fire ⟨.layout layout, { left with buffer := body, layout? := none }⟩
        (host.note (.collected left body) after)) = (.ok output, inner)) :
    (render host context).eval ⟨page, world⟩ =
      let finished := { left with buffer := body, layout? := none }
      (.ok output, ⟨finished,
        host.fire ⟨.rendered, finished⟩ (host.fire ⟨.renderlayout layout, finished⟩ inner)⟩) := by
  rw [eval_render h, wrapped]
  simp only [wrap, Run.eval_bind, Session.fire, Run.eval_update, Session.outside,
    Run.within_apply, nested]
  rfl

theorem eval_render_broken
    (h : (collect host).eval ⟨{ page with context },
        host.fire ⟨.prerender, { page with context }⟩ world⟩ = (.ok body, ⟨left, after⟩))
    {layout : Path} (wrapped : left.layout? = some layout) {error : Error} {inner : σ}
    (nested : (host.renderLayout layout context body).eval
      (host.fire ⟨.layout layout, { left with buffer := body, layout? := none }⟩
        (host.note (.collected left body) after)) = (.error error, inner)) :
    (render host context).eval ⟨page, world⟩ =
      (.error error, ⟨{ left with buffer := body, layout? := none }, inner⟩) := by
  rw [eval_render h, wrapped]
  simp only [wrap, Run.eval_bind, Session.fire, Run.eval_update, Session.outside,
    Run.within_apply, nested]

theorem eval_render_failed {error : Error} {ended : Session σ}
    (h : (collect host).eval ⟨{ page with context },
        host.fire ⟨.prerender, { page with context }⟩ world⟩ = (.error error, ended)) :
    (render host context).eval ⟨page, world⟩ =
      (.error error, { ended with page := { ended.page with layout? := none } }) := by
  have collected : (Run.onError (collect host) fun session =>
      { session with page := { session.page with layout? := none } }).eval
        ⟨{ page with context }, host.fire ⟨.prerender, { page with context }⟩ world⟩ =
      (.error error, { ended with page := { ended.page with layout? := none } }) := by
    rw [Run.onError, Run.eval_of, h]
  unfold render
  rw [Run.eval_bind, Session.updatePage, Run.eval_update]
  dsimp only
  rw [Run.eval_bind, Session.fire, Run.eval_update]
  exact Run.bind_of_error collected

theorem collect_of_render {output : String} {ended : Session σ}
    (h : (render host context).eval ⟨page, world⟩ = (.ok output, ended)) :
    ∃ body left, (collect host).eval ⟨{ page with context },
      host.fire ⟨.prerender, { page with context }⟩ world⟩ = (.ok body, left) := by
  cases ran : (collect host).eval ⟨{ page with context },
      host.fire ⟨.prerender, { page with context }⟩ world⟩ with
  | mk result left =>
    cases result with
    | ok body => exact ⟨body, left, rfl⟩
    | error error =>
      rw [eval_render_failed ran] at h
      cases h

end

end Page

end Folio
