import Folio.Proofs.Body.Rescan
import Folio.Proofs.Page.Buffer
import Folio.Rehearsal
import Mathlib

/-! A page can be rendered many times, and be asked for other things in between. A layout that it
has been given waits for the next render, and no longer, whether that fails or not. -/

namespace Folio

open Body

namespace Page

inductive Action where
  /-- From now on calls may also be written with the alias. -/
  | answerTo (called : Alias)
  /-- The page takes over the output of another body. -/
  | inheritBuffer (buffer : String)
  | layout (name : String)
  | dispatch (name : String) (args : List Value)
  | insert (name : String) (context : Fields)
  | render (context : Fields)

namespace Action

def isLayout (page : Page) : Action → Bool
  | .layout _ => true
  | .dispatch name args => Call.isLayout page ⟨name, args⟩
  | _ => false

def isRender : Action → Bool
  | .render _ => true
  | _ => false

end Action

variable {σ : Type} (host : Host σ)

/-- Does something with the page. Where there is no result, it is null. -/
def perform : Action → Run (Session σ) Value
  | .answerTo called => do
    Session.updatePage fun page => { page with alias? := some called }
    pure .null
  | .inheritBuffer buffer => do
    Session.updatePage fun page => { page with buffer }
    pure .null
  | .layout name => do
    setLayout host name
    pure .null
  | .dispatch name args => dispatch host name args
  | .insert name context => Value.text <$> insert host name context
  | .render context => Value.text <$> render host context

/-- The session after some actions, any of which may have failed. -/
def performAll (actions : List Action) (session : Session σ) : Session σ :=
  actions.foldl (fun session action => ((perform host action).eval session).2) session

/-- The action asks for a layout and is given one. -/
def GivesLayout (action : Action) (session : Session σ) : Prop :=
  action.isLayout session.page = true ∧ ((perform host action).eval session).1.isOk = true

/-- One of the actions is given a layout, and no render comes after it. -/
def LeavesLayout : List Action → Session σ → Prop
  | [], _ => False
  | action :: actions, session =>
    (GivesLayout host action session ∧ ∀ later ∈ actions, later.isRender = false) ∨
      LeavesLayout actions ((perform host action).eval session).2

/-- The session in which the body of the page is executed: its data is bound, and the listeners
have been told. -/
def opened (context : Fields) (session : Session σ) : Session σ :=
  let page := { session.page with context }
  ⟨page, host.fire ⟨.prerender, page⟩ session.world⟩

/-! ## What a render leaves -/

section
variable {host}

theorem keepsPage_wrap (context : Fields) (body : String) (layout? : Option Path) :
    (Session.keepsPage σ).holds (wrap host context body layout?)
      (wrap host context body layout?) := by
  cases layout? with
  | none => exact (Session.keepsPage σ).pure body
  | some path =>
    apply (Session.keepsPage σ).bind fun _ => rfl
    intro _
    apply (Session.keepsPage σ).bind (Session.keepsPage_outside _)
    intro rendered
    exact (Session.keepsPage σ).bind (fun _ => rfl) fun _ _ => rfl

theorem keepsPage_finish (context : Fields) (body : String) (layout? : Option Path) :
    let finish : Run (Session σ) String := do
      let output ← wrap host context body layout?
      Session.fire host .rendered
      pure output
    (Session.keepsPage σ).holds finish finish := by
  apply (Session.keepsPage σ).bind (keepsPage_wrap context body layout?)
  intro output
  exact (Session.keepsPage σ).bind (fun _ => rfl) fun _ _ => rfl

theorem eval_render_of_error {context : Fields} {session after : Session σ} {error : Error}
    (failed : (collect host).eval (opened host context session) = (.error error, after)) :
    (render host context).eval session =
      (.error error, ⟨{ session.page with context, layout? := none }, after.world⟩) := by
  obtain ⟨layout?, kept⟩ := (keepsRest_calls host).collect (opened host context session)
  rw [failed] at kept
  rw [eval_render_failed failed]
  dsimp only at kept ⊢
  rw [kept]
  rfl

end

/-- After a render, failed or not, the page asks for no layout and has the data that was supplied.
Its buffer is the output of the body if that has ended well, and otherwise what it was before. -/
theorem page_render (context : Fields) (session : Session σ) :
    ((render host context).eval session).2.page =
      { session.page with
        context, layout? := none
        buffer := ((collect host).eval (opened host context session)).1.toOption.getD
          session.page.buffer } := by
  obtain ⟨layout?, kept⟩ := (keepsRest_calls host).collect (opened host context session)
  cases ran : (collect host).eval (opened host context session) with
  | mk result left =>
    rw [ran] at kept
    cases result with
    | error error =>
      rw [eval_render_of_error ran]
      rfl
    | ok body =>
      rw [eval_render ran, keepsPage_finish]
      dsimp only at kept ⊢
      rw [kept]
      rfl

/-! ## What the body has asked for -/

/-- The runs that leave the page as it is unless one of their calls asks for a layout. -/
def unasked (σ : Type) : Bond (Session σ × List Call) (Session σ × List Call) where
  holds run _ := ∀ start, ∃ calls, (run.eval start).2.2 = start.2 ++ calls ∧
    ((∀ call ∈ calls, call.isLayout start.1.page = false) →
      (run.eval start).2.1.page = start.1.page)
  pure _ start := ⟨[], (List.append_nil _).symm, fun _ => rfl⟩
  fail _ start := ⟨[], (List.append_nil _).symm, fun _ => rfl⟩
  bind := by
    intro α β run _ next _ first second start
    obtain ⟨calls, log, kept⟩ := first start
    rw [Run.eval_bind]
    generalize run.eval start = ended at log kept ⊢
    obtain ⟨error | value, between⟩ := ended
    · exact ⟨calls, log, kept⟩
    · obtain ⟨more, log', kept'⟩ := second value between
      refine ⟨calls ++ more, by rw [log', log, List.append_assoc], fun quiet => ?_⟩
      obtain ⟨quiet, quiet'⟩ := List.forall_mem_append.mp quiet
      have same := kept quiet
      rw [← same] at quiet'
      exact (kept' quiet').trans same

theorem unasked_scopes : (unasked σ).Scopes (scope host).traced (scope host).traced where
  ask _ _ := ⟨[], (List.append_nil _).symm, fun _ => rfl⟩
  invoke name args _ :=
    ⟨[⟨name, args⟩], rfl, fun quiet => page_dispatch_other (quiet _ List.mem_cons_self)⟩
  declare _ _ _ := ⟨[], (List.append_nil _).symm, fun _ => rfl⟩

/-- A body that asks for no layout leaves its page as it is. -/
theorem page_collectTraced_quiet {session after : Session σ} {result : Except Error String}
    {calls : List Call} (h : (collectTraced host).eval (session, []) = (result, after, calls))
    (quiet : ∀ call ∈ calls, call.isLayout session.page = false) : after.page = session.page := by
  have holds : (unasked σ).holds (collectTraced host) (collectTraced host) :=
    holds_collectTraced (fun _ => ⟨[], (List.append_nil _).symm, fun _ => rfl⟩)
      (unasked_scopes host)
  obtain ⟨more, log, kept⟩ := holds (session, [])
  rw [h] at log kept
  obtain rfl : calls = more := log
  exact kept quiet

theorem eval_render_quiet {context : Fields} {session after : Session σ}
    {result : Except Error String} {calls : List Call} (free : session.page.layout? = none)
    (h : (collectTraced host).eval (opened host context session, []) = (result, after, calls))
    (quiet : ∀ call ∈ calls, call.isLayout session.page = false) :
    (render host context).eval session =
      let page := { session.page with context }
      match result with
      | .error error => (.error error, ⟨page, after.world⟩)
      | .ok body =>
        let finished := { page with buffer := body }
        (.ok body, ⟨finished,
          host.fire ⟨.rendered, finished⟩ (host.note (.collected page body) after.world)⟩) := by
  have kept : after.page = { session.page with context } :=
    page_collectTraced_quiet host h quiet
  have ran := collect_traced host (opened host context session) []
  dsimp only at ran
  rw [h] at ran
  cases result with
  | error error =>
    rw [eval_render_of_error ran, ← free]
  | ok body =>
    have bare : after.page.layout? = none := by rw [kept, ← free]
    have ended := eval_render_bare ran bare
    dsimp only at ended ⊢
    rw [kept, ← free] at ended
    exact ended

/-! ## What is pending -/

theorem eval_perform_layout (name : String) (session : Session σ) :
    (perform host (.layout name)).eval session =
      let sought := host.find name session.world
      match sought.1 with
      | none => (.error (.layoutNotFound name), ⟨session.page, sought.2⟩)
      | some path => (.ok .null, ⟨{ session.page with layout? := some path }, sought.2⟩) := by
  rw [perform, Run.eval_bind, eval_setLayout]
  dsimp only
  cases (host.find name session.world).1 <;> rfl

theorem eval_dispatch_layout {name : String} {args : List Value} {session : Session σ}
    (asked : Operation.ofName? (callName session.page name) = some .layout) :
    (dispatch host name args).eval session =
      match textArg .layout args 0 with
      | .error error => (.error error, session)
      | .ok text => (perform host (.layout text)).eval session := by
  rw [eval_dispatch_operation host asked, operate, Run.eval_bind]
  cases textArg .layout args 0 <;> rfl

theorem path_perform (action : Action) (session : Session σ) :
    ((perform host action).eval session).2.page.path = session.page.path := by
  cases action with
  | answerTo called => rfl
  | inheritBuffer buffer => rfl
  | layout name =>
    rw [eval_perform_layout]
    dsimp only
    cases (host.find name session.world).1 <;> rfl
  | dispatch name args =>
    obtain ⟨layout?, same⟩ := (keepsRest_calls host).dispatch name args session
    rw [perform, same]
  | insert name context =>
    rw [perform, Run.eval_map]
    exact congrArg Page.path (keepsPage_insert name context session)
  | render context =>
    rw [perform, Run.eval_map]
    simp only [page_render]

theorem path_performAll (actions : List Action) (session : Session σ) :
    (performAll host actions session).page.path = session.page.path := by
  induction actions generalizing session with
  | nil => rfl
  | cons action actions ih => exact (ih _).trans (path_perform host action session)

theorem isSome_of_silent {action : Action} {session : Session σ}
    (silent : action.isLayout session.page = false) (other : action.isRender = false)
    (same : ((perform host action).eval session).2.page.layout? = session.page.layout?) :
    ((perform host action).eval session).2.page.layout?.isSome = true ↔
      GivesLayout host action session ∨
        session.page.layout?.isSome = true ∧ action.isRender = false := by
  rw [GivesLayout, silent, other, same]
  simp

/-- After one action a layout is pending if the action has been given one, or if one was pending and
the action was no render. -/
theorem isSome_perform (action : Action) (session : Session σ) :
    ((perform host action).eval session).2.page.layout?.isSome = true ↔
      GivesLayout host action session ∨
        session.page.layout?.isSome = true ∧ action.isRender = false := by
  cases action with
  | answerTo called => exact isSome_of_silent host rfl rfl rfl
  | inheritBuffer buffer => exact isSome_of_silent host rfl rfl rfl
  | layout name =>
    rw [GivesLayout, eval_perform_layout]
    cases found : (host.find name session.world).1 <;>
      simp [found, Action.isLayout, Action.isRender, Except.isOk, Except.toBool]
  | dispatch name args =>
    cases asked : Call.isLayout session.page ⟨name, args⟩ with
    | false =>
      exact isSome_of_silent host asked rfl (congrArg Page.layout? (page_dispatch_other asked))
    | true =>
      rw [GivesLayout, perform, eval_dispatch_layout host (of_decide_eq_true asked)]
      cases textArg .layout args 0 with
      | error error => simp [Action.isRender, Except.isOk, Except.toBool]
      | ok text =>
        dsimp only
        rw [eval_perform_layout]
        cases found : (host.find text session.world).1 <;>
          simp [asked, found, Action.isLayout, Action.isRender, Except.isOk, Except.toBool]
  | insert name context =>
    apply isSome_of_silent host rfl rfl
    rw [perform, Run.eval_map]
    exact congrArg Page.layout? (keepsPage_insert name context session)
  | render context =>
    rw [perform, Run.eval_map]
    simp only [page_render]
    simp [GivesLayout, Action.isLayout, Action.isRender]

/-- After some actions a layout is pending if one of them has been given one since the last render,
or if one was pending and there was no render. -/
theorem isSome_performAll (actions : List Action) (session : Session σ) :
    (performAll host actions session).page.layout?.isSome = true ↔
      LeavesLayout host actions session ∨
        session.page.layout?.isSome = true ∧ ∀ action ∈ actions, action.isRender = false := by
  induction actions generalizing session with
  | nil => simp [performAll, LeavesLayout]
  | cons action actions ih =>
    have rest : performAll host (action :: actions) session =
        performAll host actions ((perform host action).eval session).2 := rfl
    rw [rest, ih, isSome_perform, LeavesLayout, List.forall_mem_cons]
    tauto

/-! ## A render in the life of a page -/

/-- A render after whatever has been done with the page before. It leaves no layout behind, the data
that was supplied, and the output of its body, if that has ended well, as the last buffer that calls
are answered with. A layout that does not exist changes nothing, and a layout is pending only if one
has been given since the last render. None is rendered if the body fails, nor if none is pending and
the body asks for none. -/
theorem render_in_life (start : Session σ) (actions : List Action) (context : Fields) :
    let before := performAll host actions start
    let body := (collect host).eval (opened host context before)
    let ended := (render host context).eval before
    ended.2.page =
      { before.page with
        context, layout? := none, buffer := body.1.toOption.getD before.page.buffer } ∧
    AnswersBuffer host ended.2 (body.1.toOption.getD before.page.buffer) ∧
    (∀ name, (host.find name before.world).1 = none →
      let refused := (.error (.layoutNotFound name),
        { before with world := (host.find name before.world).2 })
      (perform host (.layout name)).eval before = refused ∧
      ∀ called args, Operation.ofName? (callName before.page called) = some .layout →
        (dispatch host called (.text name :: args)).eval before = refused) ∧
    (start.page.layout? = none →
      (before.page.layout?.isSome = true ↔ LeavesLayout host actions start)) ∧
    (∀ error after, body = (.error error, after) →
      ended = (.error error, ⟨{ before.page with context, layout? := none }, after.world⟩)) ∧
    ∀ output after calls,
      (collectTraced host).eval (opened host context before, []) = (.ok output, after, calls) →
      before.page.layout? = none → (∀ call ∈ calls, call.isLayout before.page = false) →
      let finished := { before.page with context, buffer := output }
      ended = (.ok output, ⟨finished, host.fire ⟨.rendered, finished⟩
        (host.note (.collected { before.page with context } output) after.world)⟩) := by
  intro before body ended
  have page := page_render host context before
  refine ⟨page, ?_, fun name absent => ?_, fun free => ?_,
    fun error after failed => eval_render_of_error failed,
    fun output after calls ran free quiet => eval_render_quiet host free ran quiet⟩
  · have answers := answersBuffer host ended.2
    rwa [show ended.2.page.buffer = _ from congrArg Page.buffer page] at answers
  · intro refused
    have failed : (perform host (.layout name)).eval before = refused := by
      rw [eval_perform_layout]
      simp only [absent]
      rfl
    refine ⟨failed, fun called args asked => ?_⟩
    rw [eval_dispatch_layout host asked]
    exact failed
  · rw [isSome_performAll]
    simp [free]

/-! ## A page that is rendered again -/

/-- A page that writes a variable, and a layout that cannot be rendered. -/
def variableHost : Host Rehearsal :=
  Rehearsal.host {
    disk := ⟨.folder [("page.tpl", .file (some (String.ofList (Piece.mk [] ['x']).text)))], []⟩
    paths := [("base", "base.tpl")] }

theorem eval_collectTraced_variable {session : Session Rehearsal}
    (path : session.page.path = "page.tpl") (bound : session.page.get? "x" = some (.text "a")) :
    (collectTraced variableHost).eval (session, []) = (.ok "a", session, []) := by
  have proper : (Piece.mk [] ['x']).Proper := by unfold Piece.Proper; decide
  have shows : (Piece.mk [] ['x']).kind = .expression ['x'] := by cbv
  have item : Expr.read ['x'] = .ok (.key "x") := by cbv
  have read : variableHost.disk.read "page.tpl" =
      .ok (String.ofList (Piece.mk [] ['x']).text) := rfl
  have asked : ((scope variableHost).traced.ask "x").eval (session, []) =
      (.ok (some (.text "a")), session, []) := by
    rw [← bound]
    rfl
  rw [collectTraced, Run.eval_bind, Run.eval_look]
  simp only [path, read]
  rw [execute_expression proper shows, shownSource, evaluateSource, item]
  simp only [evaluate, bind_assoc]
  rw [Run.eval_bind, asked]
  rfl

/-- The page is given a layout, and its render fails, as the variable is not defined. The next
render writes the variable without the layout. -/
theorem render_in_life_again :
    let start : Session Rehearsal := ⟨{ path := "page.tpl" }, {}⟩
    let before := performAll variableHost [.layout "base", .render []] start
    let body := opened variableHost [("x", .text "a")] before
    start.page.layout? = none ∧ before.page.layout? = none ∧
    (variableHost.find "missing" before.world).1 = none ∧
    ((perform variableHost (.layout "missing")).eval before).1 =
      .error (.layoutNotFound "missing") ∧
    (collectTraced variableHost).eval (body, []) = (.ok "a", body, []) ∧
    ((render variableHost [("x", .text "a")]).eval before).1 = .ok "a" := by
  intro start before body
  have life := render_in_life variableHost start [.layout "base", .render []] [("x", .text "a")]
  have free : before.page.layout? = none := by
    have pending := life.2.2.2.1 rfl
    simp only [LeavesLayout, GivesLayout, Action.isLayout, Action.isRender] at pending
    simpa using pending
  have path : before.page.path = "page.tpl" := path_performAll variableHost _ start
  have same : performAll variableHost [.layout "base", .render []] start = before := rfl
  rw [same] at life
  clear_value before
  obtain ⟨-, -, absent, -, -, quiet⟩ := life
  have ran : (collectTraced variableHost).eval (body, []) = (.ok "a", body, []) :=
    eval_collectTraced_variable path rfl
  refine ⟨rfl, free, rfl, ?_, ran, ?_⟩
  · rw [(absent "missing" rfl).1]
  · rw [quiet "a" body [] ran free (by simp)]

end Page

end Folio
