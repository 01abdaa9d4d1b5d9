import Folio.Page.Render
import Folio.Proofs.Body.Bond

namespace Folio

namespace Session

variable {σ α β : Type}

/-- The run of a page as a run of its host. It ends with the page as the run leaves it. -/
def carry (page : Page) (run : Run (Session σ) α) : Run σ (α × Page) :=
  Run.of fun world =>
    match run.eval ⟨page, world⟩ with
    | (.ok value, session) => (.ok (value, session.page), session.world)
    | (.error error, session) => (.error error, session.world)

theorem carry_bind (page : Page) (run : Run (Session σ) α) (next : α → Run (Session σ) β) :
    carry page (run >>= next) = carry page run >>= fun ended => carry ended.2 (next ended.1) := by
  apply Run.ext
  intro world
  rw [Run.eval_bind]
  simp only [carry, Run.eval_of]
  rw [Run.eval_bind]
  rcases run.eval ⟨page, world⟩ with ⟨_ | value, session⟩ <;> rfl

theorem carry_outside (page : Page) (run : Run σ α) :
    carry page (outside run) = (fun value => (value, page)) <$> run := by
  apply Run.ext
  intro world
  rw [map_eq_pure_bind, Run.eval_bind]
  simp only [carry, outside, Run.eval_of, Run.within_apply]
  rcases run.eval world with ⟨_ | value, after⟩ <;> rfl

theorem carry_fire (page : Page) (host : Host σ) (stage : Stage) :
    carry page (fire host stage) =
      (fun value => (value, page)) <$> Run.update (host.fire ⟨stage, page⟩) := rfl

theorem carry_note (page : Page) (host : Host σ) (remark : Remark) :
    carry page (note host remark) =
      (fun value => (value, page)) <$> Run.update (host.note remark) := rfl

/-- What a failing run leaves of its page is lost. -/
theorem carry_onError (page : Page) (run : Run (Session σ) α) {cleanup : Session σ → Session σ}
    (h : ∀ session, (cleanup session).world = session.world) :
    carry page (Run.onError run cleanup) = carry page run := by
  apply Run.ext
  intro world
  simp only [carry, Run.onError, Run.eval_of]
  rcases run.eval ⟨page, world⟩ with ⟨_ | value, session⟩
  · simp [h]
  · rfl

theorem ofPage_eq (page : Page) (run : Run (Session σ) α) :
    ofPage page run = Prod.fst <$> carry page run := by
  apply Run.ext
  intro world
  rw [map_eq_pure_bind, Run.eval_bind]
  simp only [carry, ofPage, Run.eval_of]
  rcases run.eval ⟨page, world⟩ with ⟨_ | value, session⟩ <;> rfl

theorem outside_bind (run : Run σ α) (next : α → Run σ β) :
    outside (run >>= next) = outside run >>= fun value => outside (next value) := by
  apply Run.ext
  intro session
  rw [Run.eval_bind]
  simp only [outside, Run.within_apply]
  rw [Run.eval_bind]
  rcases run.eval session.world with ⟨_ | value, after⟩ <;> rfl

end Session

open Session

/-! ## The calls of a page -/

theorem Page.eval_dispatch_operation {σ : Type} (host : Host σ) {name : String}
    {operation : Operation} {session : Session σ}
    (called : Operation.ofName? (callName session.page name) = some operation)
    (args : List Value) :
    (dispatch host name args).eval session = (operate host operation args).eval session := by
  unfold dispatch
  rw [Run.eval_bind, Run.eval_look]
  simp only [called]

/-- A layout is asked for if its name stands for a file; otherwise the page stays as it is. -/
theorem Page.eval_setLayout {σ : Type} (host : Host σ) (name : String) (session : Session σ) :
    (setLayout host name).eval session =
      let sought := host.find name session.world
      match sought.1 with
      | none => (.error (.layoutNotFound name), ⟨session.page, sought.2⟩)
      | some path => (.ok (), ⟨{ session.page with layout? := some path }, sought.2⟩) := by
  rw [setLayout, Run.eval_bind]
  simp only [Session.find, Session.outside, Run.within_apply, Host.seek, Run.eval_of]
  cases (host.find name session.world).1 <;> rfl

/-- Two hosts with whom the operations of a page do alike. -/
structure Bond.Operations {σ τ : Type} (bond : Bond (Session σ) (Session τ)) (left : Host σ)
    (right : Host τ) : Prop where
  /-- No operation looks at the alias of the page. -/
  look {α : Type} {f : Page → α} (free : ∀ page alias?, f { page with alias? } = f page) :
    bond.holds (Run.look fun session => f session.page) (Run.look fun session => f session.page)
  setLayout (name : String) : bond.holds (Page.setLayout left name) (Page.setLayout right name)
  supply (name fallback : String) :
    bond.holds (Page.supply left name fun _ => fallback) (Page.supply right name fun _ => fallback)
  insert (name : String) (context : Fields) :
    bond.holds (Page.insert left name context) (Page.insert right name context)
  insertIf (name : String) (context : Fields) :
    bond.holds (Page.insertIf left name context) (Page.insertIf right name context)
  filter (name : String) (value : Value) (args : List Value) :
    bond.holds (outside (left.filter name value args)) (outside (right.filter name value args))

namespace Bond.Operations

variable {σ τ : Type} {bond : Bond (Session σ) (Session τ)} {left : Host σ} {right : Host τ}
  (operations : bond.Operations left right)
include operations

theorem runStages (value : Value) (stages : List String) (args : List (List Value)) :
    bond.holds (outside (Page.runStages left value stages args))
      (outside (Page.runStages right value stages args)) := by
  induction stages generalizing value args with
  | nil => exact bond.pure value
  | cons stage stages ih =>
    simp only [Page.runStages]
    split
    · exact ih value args.tail
    · rw [outside_bind, outside_bind]
      apply bond.bind (operations.filter _ value _)
      intro filtered
      cases filtered with
      | null => exact ih value args.tail
      | _ => exact ih _ args.tail

theorem operate (operation : Operation) (args : List Value) :
    bond.holds (Page.operate left operation args) (Page.operate right operation args) := by
  cases operation with
  | filter =>
    apply bond.bind (bond.ofExcept _)
    intro pipeline
    apply bond.bind (bond.ofExcept _)
    intro stages
    exact operations.runStages _ _ stages
  | layout =>
    apply bond.bind (bond.ofExcept _)
    intro name
    apply bond.bind (operations.setLayout name)
    intro _
    exact bond.pure _
  | lastBuffer =>
    let f (page : Page) := Value.text page.buffer
    exact operations.look fun page alias? => (rfl : f { page with alias? } = f page)
  | supply =>
    apply bond.bind (bond.ofExcept _)
    intro name
    apply bond.bind (operations.supply name _)
    intro content
    exact bond.pure _
  | insert =>
    apply bond.bind (bond.ofExcept _)
    intro name
    apply bond.bind (bond.ofExcept _)
    intro context
    apply bond.bind (operations.insert name context)
    intro rendered
    exact bond.pure _
  | insertIf =>
    apply bond.bind (bond.ofExcept _)
    intro name
    apply bond.bind (bond.ofExcept _)
    intro context
    apply bond.bind (operations.insertIf name context)
    intro rendered
    exact bond.pure _
  | get =>
    apply bond.bind (bond.ofExcept _)
    intro key
    let f (page : Page) := (page.get? key).getD (Page.argument args 1)
    exact operations.look fun page alias? => (rfl : f { page with alias? } = f page)
  | data =>
    let f (page : Page) := Value.object page.context
    exact operations.look fun page alias? => (rfl : f { page with alias? } = f page)

end Bond.Operations

/-- Two hosts with whom a page does alike whatever its body can ask for. -/
structure Bond.Calls {σ τ : Type} (bond : Bond (Session σ) (Session τ)) (left : Host σ)
    (right : Host τ) : Prop where
  disk : left.disk = right.disk
  look {α : Type} (f : Page → α) :
    bond.holds (Run.look fun session => f session.page) (Run.look fun session => f session.page)
  setLayout (name : String) : bond.holds (Page.setLayout left name) (Page.setLayout right name)
  supply (name : String) (fallback : Page → String) :
    bond.holds (Page.supply left name fallback) (Page.supply right name fallback)
  declare (name content : String) :
    bond.holds (Page.declareSection left name content) (Page.declareSection right name content)
  insert (name : String) (context : Fields) :
    bond.holds (Page.insert left name context) (Page.insert right name context)
  insertIf (name : String) (context : Fields) :
    bond.holds (Page.insertIf left name context) (Page.insertIf right name context)
  run (name : String) (args : List Value) :
    bond.holds (outside (left.run name args)) (outside (right.run name args))
  filter (name : String) (value : Value) (args : List Value) :
    bond.holds (outside (left.filter name value args)) (outside (right.filter name value args))

namespace Bond.Calls

variable {σ τ : Type} {bond : Bond (Session σ) (Session τ)} {left : Host σ} {right : Host τ}
  (calls : bond.Calls left right)
include calls

theorem operations : bond.Operations left right where
  look {_ f} _ := calls.look f
  setLayout := calls.setLayout
  supply name fallback := calls.supply name fun _ => fallback
  insert := calls.insert
  insertIf := calls.insertIf
  filter := calls.filter

theorem dispatch (name : String) (args : List Value) :
    bond.holds (Page.dispatch left name args) (Page.dispatch right name args) := by
  apply bond.bind (calls.look fun page => Page.callName page name)
  intro name
  cases Operation.ofName? name with
  | none => exact calls.run name args
  | some operation => exact calls.operations.operate operation args

theorem scopes : bond.Scopes (Page.scope left) (Page.scope right) where
  ask key := calls.look fun page => page.get? key
  invoke := calls.dispatch
  declare := calls.declare

theorem collect : bond.holds (Page.collect left) (Page.collect right) := by
  apply bond.bind (calls.look Page.path)
  intro path
  rw [calls.disk]
  cases right.disk.read path with
  | error error => exact bond.fail _
  | ok source => exact Bond.execute calls.scopes path source

end Bond.Calls

/-! ## The host of a page -/

/-- The bond of runs of a page that are bonded as runs of its host, whatever the page. -/
def Bond.sessions {σ τ : Type} (bond : Bond σ τ) : Bond (Session σ) (Session τ) where
  holds left right := ∀ page, bond.holds (carry page left) (carry page right)
  pure value page := bond.pure (value, page)
  fail error _ := bond.fail error
  bind := by
    intro α β left right next next' first second page
    rw [carry_bind, carry_bind]
    apply bond.bind (first page)
    intro ended
    exact second ended.1 ended.2

/-- Two hosts that do alike whatever a page asks them for. -/
structure Bond.Hosts {σ τ : Type} (bond : Bond σ τ) (left : Host σ) (right : Host τ) : Prop where
  disk : left.disk = right.disk
  seek (name : String) : bond.holds (left.seek name) (right.seek name)
  fire (event : Event) : bond.holds (Run.update (left.fire event)) (Run.update (right.fire event))
  collected (page : Page) (body : String) :
    bond.holds (Run.update (left.note (.collected page body)))
      (Run.update (right.note (.collected page body)))
  declare (name content : String) :
    bond.holds (left.declare name content) (right.declare name content)
  supply (name fallback : String) :
    bond.holds (left.supply name fallback) (right.supply name fallback)
  render (name : String) (context : Fields) :
    bond.holds (left.render name context) (right.render name context)
  renderLayout (path : Path) (context : Fields) (buffer : String) :
    bond.holds (left.renderLayout path context buffer) (right.renderLayout path context buffer)
  run (name : String) (args : List Value) : bond.holds (left.run name args) (right.run name args)
  filter (name : String) (value : Value) (args : List Value) :
    bond.holds (left.filter name value args) (right.filter name value args)

namespace Bond

variable {σ τ α : Type} (bond : Bond σ τ) {left : Host σ} {right : Host τ}

theorem sessions_look (f : Page → α) :
    bond.sessions.holds (Run.look fun session => f session.page)
      (Run.look fun session => f session.page) :=
  fun page => bond.pure (f page, page)

theorem sessions_updatePage (f : Page → Page) :
    bond.sessions.holds (updatePage f) (updatePage f) :=
  fun page => bond.pure ((), f page)

variable {bond}

theorem sessions_outside {run : Run σ α} {other : Run τ α} (h : bond.holds run other) :
    bond.sessions.holds (outside run) (outside other) := by
  intro page
  rw [carry_outside, carry_outside]
  exact bond.map _ h

namespace Hosts

variable (hosts : bond.Hosts left right)
include hosts

theorem sessions_fire (stage : Stage) :
    bond.sessions.holds (Session.fire left stage) (Session.fire right stage) := by
  intro page
  rw [carry_fire, carry_fire]
  exact bond.map _ (hosts.fire ⟨stage, page⟩)

theorem insert (name : String) (context : Fields) :
    bond.sessions.holds (Page.insert left name context) (Page.insert right name context) := by
  apply bond.sessions.bind (hosts.sessions_fire (.prepartial name context))
  intro _
  apply bond.sessions.bind (sessions_outside (hosts.render name context))
  intro rendered
  apply bond.sessions.bind (hosts.sessions_fire .afterpartial)
  intro _
  exact bond.sessions.pure rendered

theorem calls : bond.sessions.Calls left right where
  disk := hosts.disk
  look := bond.sessions_look
  setLayout name := by
    apply bond.sessions.bind (sessions_outside (hosts.seek name))
    rintro (_ | path)
    · exact bond.sessions.fail _
    · exact bond.sessions_updatePage _
  supply name fallback := by
    apply bond.sessions.bind (bond.sessions_look fallback)
    intro own
    exact sessions_outside (hosts.supply name own)
  declare name content := sessions_outside (hosts.declare name content)
  insert := hosts.insert
  insertIf name context := by
    apply bond.sessions.bind (sessions_outside (hosts.seek name))
    rintro (_ | path)
    · exact bond.sessions.pure ""
    · exact hosts.insert name context
  run name args := sessions_outside (hosts.run name args)
  filter name value args := sessions_outside (hosts.filter name value args)

theorem wrap (context : Fields) (body : String) (layout? : Option Path) :
    bond.sessions.holds (Page.wrap left context body layout?)
      (Page.wrap right context body layout?) := by
  cases layout? with
  | none => exact bond.sessions.pure body
  | some path =>
    apply bond.sessions.bind (hosts.sessions_fire (.layout path))
    intro _
    apply bond.sessions.bind (sessions_outside (hosts.renderLayout path context body))
    intro rendered
    apply bond.sessions.bind (hosts.sessions_fire (.renderlayout path))
    intro _
    exact bond.sessions.pure rendered

theorem page_render (context : Fields) :
    bond.sessions.holds (Page.render left context) (Page.render right context) := by
  apply bond.sessions.bind (bond.sessions_updatePage _)
  intro _
  apply bond.sessions.bind (hosts.sessions_fire .prerender)
  intro _
  apply bond.sessions.bind
  · intro page
    rw [carry_onError page (Page.collect left) (by intro session; rfl),
      carry_onError page (Page.collect right) (by intro session; rfl)]
    exact hosts.calls.collect page
  intro body
  apply bond.sessions.bind (bond.sessions_look id)
  intro page
  apply bond.sessions.bind
  · intro session
    rw [carry_note, carry_note]
    exact bond.map _ (hosts.collected page body)
  intro _
  apply bond.sessions.bind (bond.sessions_updatePage _)
  intro _
  apply bond.sessions.bind (hosts.wrap context body page.layout?)
  intro output
  apply bond.sessions.bind (hosts.sessions_fire .rendered)
  intro _
  exact bond.sessions.pure output

theorem ofPage (page : Page) (context : Fields) :
    bond.holds (Session.ofPage page (Page.render left context))
      (Session.ofPage page (Page.render right context)) := by
  rw [ofPage_eq, ofPage_eq]
  exact bond.map _ (hosts.page_render context page)

end Hosts

end Bond

end Folio
