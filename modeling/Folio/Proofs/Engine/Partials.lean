import Folio.Proofs.Engine.Climbing
import Folio.Proofs.Engine.Failures
import Folio.Proofs.Engine.Layouts

/-! A partial is rendered as a page of its own at the desk of the page that inserts it. All that the
two pages share are the sections, to which a partial only adds. -/

namespace Folio

open Relation (ReflTransGen)

/-! ## Sections -/

namespace Desk

/-- No step takes a section away or changes its content. -/
theorem get?_of_steps {desk later : Desk} (row : ReflTransGen Step desk later)
    {name content : String} (stored : desk.sections.get? name = some content) :
    later.sections.get? name = some content := by
  induction row with
  | refl => exact stored
  | tail _ step ih =>
    obtain ⟨moment, -, same, follows⟩ := step.moment
    rw [← same]
    exact (follows.keeps ih).present

/-- Desks with the same sections and as many open files differ in their past alone. -/
theorem alike_of_sections {desk desk' : Desk} (sections : desk.sections = desk'.sections)
    (depth : desk.depth = desk'.depth) : Alike desk.log desk'.log desk desk' :=
  ⟨sections, depth, [], rfl, rfl⟩

end Desk

namespace Engine

variable {engine : Engine}

/-! ## The depth of a call -/

/-- A job of a page is started while a file is open. The induction is on how it has come to be
started: the only job that is done at the desk is a file, which is a call itself. -/
theorem Running.busy {request : Request} {desk : Desk} {calls : Nat} {frame : Frame}
    (running : engine.Running request desk calls frame) (onPage : frame.place = .page) :
    0 < calls := by
  induction running with
  | request starts =>
    cases request with
    | render name context =>
      rw [requestPlan, namedPlan] at starts
      cases found : engine.find name with
      | none => rw [found] at starts; cases starts
      | some path => rw [found] at starts; cases starts; cases onPage
    | renderFile => cases starts; cases onPage
    | renderLayout => cases starts; cases onPage
    | put => cases starts
    | clear => cases starts
  | @job calls caller callee _ starts ih =>
    obtain ⟨job, state⟩ := caller
    cases job with
    | file => exact Nat.succ_pos _
    | _ => exact Nat.lt_of_lt_of_le (ih rfl) (Nat.le_add_right _ _)

/-! ## Files that are rendered apart -/

section
variable {file : Path} {context : Fields} {text : String} {desk desk' after : Desk}

/-- A file that is rendered while others are open is rendered by a fresh page, and what that makes
of it depends on the sections and the number of open files alone. -/
theorem fresh_of_outermost (busy : 0 < desk.depth)
    (ran : (engine.executeOutermost file context "").eval desk = (.ok text, after))
    (sections : desk'.sections = desk.sections) (depth : desk'.depth = desk.depth + 1) :
    ∃ left, (Session.ofPage (engine.page file "") (Page.render engine.pageHost context)).eval
        desk' = (.ok text, left) ∧ left.sections = after.sections := by
  have hosts (past past' : List Moment) :
      (Desk.alike past past').Hosts engine.pageHost engine.pageHost :=
    engine.hosts_stable Desk.Alike.stable (engine.execute_alike (engine.maxDepth + 1))
  have alike : Desk.Alike (desk.enter file).log desk'.log (desk.enter file) desk' := by
    apply Desk.alike_of_sections
    · rw [Desk.enter_of_pos file busy, sections]
      rfl
    · rw [Desk.depth_enter, depth]
  obtain ⟨same, alike'⟩ :=
    ((hosts _ _).ofPage (engine.page file "") context _ _ alike).of_no_excuse
  rcases Nat.lt_or_ge desk.depth engine.maxDepth with room | full
  · rw [eval_outermost_of_room room, Prod.mk.injEq] at ran
    obtain ⟨result, rfl⟩ := ran
    exact ⟨_, Prod.ext (same.symm.trans result) rfl, alike'.sections.symm⟩
  · rw [eval_outermost_of_full full] at ran
    cases ran

theorem outermost_of_alike
    (ran : (engine.executeOutermost file context "").eval desk = (.ok text, after))
    (sections : desk'.sections = desk.sections) (depth : desk'.depth = desk.depth) :
    ∃ left, (engine.executeOutermost file context "").eval desk' = (.ok text, left) ∧
      left.sections = after.sections := by
  obtain ⟨same, alike⟩ := (engine.execute_alike (engine.maxDepth + 1) file context "" desk desk'
    (Desk.alike_of_sections sections.symm depth.symm)).of_no_excuse
  rw [← executeOutermost, ran] at same alike
  exact ⟨((engine.executeOutermost file context "").eval desk').2, Prod.ext same.symm rfl,
    alike.sections.symm⟩

/-- A file that is rendered while others are open leaves them open, and the sections stored. -/
theorem kept_of_outermost (busy : 0 < desk.depth)
    (ran : (engine.executeOutermost file context "").eval desk = (.ok text, after)) :
    after.depth = desk.depth ∧ ∀ name content, desk.sections.get? name = some content →
      after.sections.get? name = some content := by
  obtain ⟨row, depth⟩ := engine.execute_steps (engine.maxDepth + 1) file context "" desk busy
  rw [← executeOutermost, ran] at row depth
  exact ⟨depth, fun name content stored => Desk.get?_of_steps row stored⟩

end

end Engine

/-! ## What a partial leaves as it is -/

/-- What the call of a partial leaves as it is: the page that makes the call, with its context, its
buffer and the layout that it has asked for; the values of keys, whatever loops are around the call;
the number of open files; and every section that is stored. -/
structure Session.Kept (host : Host Desk) (session ended : Session Desk) : Prop where
  page : ended.page = session.page
  keys (locals : Locals) (key : String) :
    ((Page.scope host).bindAll locals).lookup ended key =
      ((Page.scope host).bindAll locals).lookup session key
  depth : ended.world.depth = session.world.depth
  sections (name content : String) : session.world.sections.get? name = some content →
    ended.world.sections.get? name = some content

theorem Session.lookup_bindAll_of_page (host : Host Desk) {session ended : Session Desk}
    (page : ended.page = session.page) (locals : Locals) :
    ((Page.scope host).bindAll locals).lookup ended =
      ((Page.scope host).bindAll locals).lookup session := by
  induction locals with
  | nil => exact congrArg Page.get? page
  | cons bound outer ih =>
    funext key
    exact congrArg (Scope.lookupBound bound.1 bound.2 · key) ih

theorem Session.Kept.refl (host : Host Desk) (session : Session Desk) : Kept host session session :=
  ⟨rfl, fun _ _ => rfl, rfl, fun _ _ stored => stored⟩

namespace Engine

variable (engine : Engine)

/-- Where the text of a partial comes from: a fresh page of the file makes it of the context, at any
desk with the sections and the open files that the call has found, and one more file open; so do the
layouts around it, each of which is asked for by the body inside of it, the first one being that of
the partial. -/
structure RenderedApart (name : String) (context : Fields) (file : Path)
    (session ended : Session Desk) (text : String) : Prop where
  fresh (desk : Desk) : desk.sections = session.world.sections →
    desk.depth = session.world.depth + 1 →
    ∃ left, (Session.ofPage (engine.page file "") (Page.render engine.pageHost context)).eval
      desk = (.ok text, left) ∧ left.sections = ended.world.sections
  chain : ∃ links after, LayoutChain engine context file ""
      (session.world.note (.fired ⟨.prepartial name context, session.page⟩)) links text after ∧
    ended.world = after.note (.fired ⟨.afterpartial, session.page⟩)

/-- A run of the operation that inserts the partial or, if its name stands for no file and the
partial is optional, does nothing. -/
structure InsertsApart (operation : Operation) (name : String) (context : Fields)
    (run : Run (Session Desk) String) (session ended : Session Desk) (text : String) : Prop where
  kept : Session.Kept engine.pageHost session ended
  source : operation = .insertIf ∧ engine.find name = none ∧ text = "" ∧ ended = session ∨
    ∃ file, engine.find name = some file ∧
      engine.RenderedApart name context file session ended text
  /-- Nothing else of the caller and of what has been done before makes a difference. -/
  again (other : Session Desk) : other.world.sections = session.world.sections →
    other.world.depth = session.world.depth →
    ∃ after, run.eval other = (.ok text, ⟨other.page, after⟩) ∧
      after.sections = ended.world.sections

section
variable {engine} {name : String} {context : Fields} {text : String}
  {session ended : Session Desk}

theorem insertsApart_insert (operation : Operation) (busy : 0 < session.world.depth)
    (h : (Page.insert engine.pageHost name context).eval session = (.ok text, ended)) :
    engine.InsertsApart operation name context (Page.insert engine.pageHost name context) session
      ended text := by
  obtain ⟨file, links, after, found, chain, rfl⟩ := layoutChain_of_insert h
  let asked := session.world.note (.fired ⟨.prepartial name context, session.page⟩)
  have ran := chain.whole.eval chain.bound
  have waiting : 0 < asked.depth := busy
  obtain ⟨depth, sections⟩ := kept_of_outermost waiting ran
  constructor
  · let left : Session Desk := ⟨session.page, after.note (.fired ⟨.afterpartial, session.page⟩)⟩
    have page : left.page = session.page := rfl
    have keys (locals : Locals) := Session.lookup_bindAll_of_page engine.pageHost page locals
    exact ⟨page, fun locals key => congrFun (keys locals) key, depth, sections⟩
  · refine .inr ⟨file, found, ?_, links, after, chain, rfl⟩
    intro desk same deeper
    obtain ⟨left, rendered, alike⟩ := fresh_of_outermost waiting ran same deeper
    exact ⟨left, rendered, alike⟩
  · intro other same depth
    let asked' := other.world.note (.fired ⟨.prepartial name context, other.page⟩)
    have same' : asked'.sections = asked.sections := same
    have depth' : asked'.depth = asked.depth := depth
    obtain ⟨left, ran', alike⟩ := outermost_of_alike ran same' depth'
    exact ⟨_, eval_insert found ran', alike⟩

theorem insertsApart_insertIf (busy : 0 < session.world.depth)
    (h : (Page.insertIf engine.pageHost name context).eval session = (.ok text, ended)) :
    engine.InsertsApart .insertIf name context (Page.insertIf engine.pageHost name context) session
      ended text := by
  cases found : engine.find name with
  | none =>
    have nothing := (Unresolved.of_find found).insertIf engine.executeOutermost context
    rw [pageHost, nothing, Prod.mk.injEq, Except.ok.injEq] at h
    obtain ⟨rfl, rfl⟩ := h
    exact ⟨.refl _ _, .inl ⟨rfl, found, rfl, rfl⟩, fun other same _ => ⟨_, nothing other, same⟩⟩
  | some file =>
    have inserts : Page.insertIf engine.pageHost name context =
        Page.insert engine.pageHost name context := by
      apply Run.ext
      intro session
      have sought : (Session.find (engine.host engine.executeOutermost) name).eval session =
          (.ok (engine.find name), session) := eval_find_host _ session
      rw [pageHost, Page.insertIf, Run.bind_of_ok sought, found]
    rw [inserts] at h ⊢
    exact insertsApart_insert .insertIf busy h

end

end Engine

namespace Page

variable {σ : Type}

def onPartial (operation : Operation) (args : List Value)
    (run : String → Fields → Run (Session σ) String) : Run (Session σ) Value := do
  let name ← Run.ofExcept (textArg operation args 0)
  let context ← Run.ofExcept (contextArg operation args 1)
  let text ← run name context
  pure (.text text)

theorem operate_insert (host : Host σ) (args : List Value) :
    operate host .insert args = onPartial .insert args (insert host) := rfl

theorem operate_insertIf (host : Host σ) (args : List Value) :
    operate host .insertIf args = onPartial .insertIf args (insertIf host) := rfl

theorem onPartial_eq_ok_iff {operation : Operation} {args : List Value}
    {run : String → Fields → Run (Session σ) String} {session ended : Session σ} {value : Value} :
    (onPartial operation args run).eval session = (.ok value, ended) ↔
      ∃ name context text, argument args 0 = .text name ∧
        contextArg operation args 1 = .ok context ∧ value = .text text ∧
        (run name context).eval session = (.ok text, ended) := by
  constructor
  · intro h
    rw [onPartial] at h
    cases named : textArg operation args 0 with
    | error error => rw [named] at h; cases h
    | ok name =>
      cases given : contextArg operation args 1 with
      | error error => rw [named, given] at h; cases h
      | ok context =>
        rw [named, given] at h
        have shown : (run name context >>= fun text => pure (Value.text text)).eval session =
            (.ok value, ended) := h
        obtain ⟨text, last, ran, shown⟩ := Run.exists_of_bind_ok shown
        cases shown
        exact ⟨name, context, text, textArg_eq_ok_iff.mp named, rfl, rfl, ran⟩
  · rintro ⟨name, context, text, named, given, rfl, ran⟩
    rw [onPartial, textArg_eq_ok_iff.mpr named, given]
    exact Run.bind_of_ok ran _

end Page

namespace Engine

variable {engine : Engine}

/-! ## Calls of partials -/

variable (engine) in
/-- A call of a partial, wherever it is made, leaves the page that makes it as it is, with its
context, its buffer and its layout, and so the values of all keys, the number of open files and the
sections that are stored. Its text is what a fresh page makes of the file under the context of the
call, with the layouts that the partial asks for around it, and is empty if an optional partial does
not exist. A call from any other page comes to the same, if it finds the same sections and as many
open files. -/
theorem partial_apart (history : List Request) (request : Request) (calls : Nat) (called : String)
    (args : List Value) (session ended : Session Desk) (operation : Operation) (value : Value)
    (running : engine.Running request (engine.performAll history Desk.empty) calls
      ⟨.call called args, session⟩)
    (meant : Operation.ofName? (Page.callName session.page called) = some operation)
    (inserts : operation = .insert ∨ operation = .insertIf)
    (h : (Page.dispatch engine.pageHost called args).eval session = (.ok value, ended)) :
    Session.Kept engine.pageHost session ended ∧
    (∃ name context text, Page.argument args 0 = .text name ∧
      Page.contextArg operation args 1 = .ok context ∧ value = .text text ∧
      (operation = .insertIf ∧ engine.find name = none ∧ text = "" ∧ ended = session ∨
        ∃ file, engine.find name = some file ∧
          engine.RenderedApart name context file session ended text)) ∧
    ∀ other : Session Desk,
      Operation.ofName? (Page.callName other.page called) = some operation →
      other.world.sections = session.world.sections → other.world.depth = session.world.depth →
      ∃ after, (Page.dispatch engine.pageHost called args).eval other =
        (.ok value, ⟨other.page, after⟩) ∧ after.sections = ended.world.sections := by
  have busy : 0 < session.world.depth := by
    obtain ⟨depth, -⟩ := running.depth (engine.performAll_idle history rfl)
    rw [show session.world.depth = calls from depth]
    exact running.busy rfl
  rw [Page.eval_dispatch_operation engine.pageHost meant] at h
  -- both operations check their arguments and then go on with a run of their own
  obtain ⟨run, operate, apart⟩ : ∃ run : String → Fields → Run (Session Desk) String,
      Page.operate engine.pageHost operation args = Page.onPartial operation args run ∧
      ∀ name context text, (run name context).eval session = (.ok text, ended) →
        engine.InsertsApart operation name context (run name context) session ended text := by
    rcases inserts with rfl | rfl
    · exact ⟨_, Page.operate_insert _ args, fun _ _ _ => insertsApart_insert .insert busy⟩
    · exact ⟨_, Page.operate_insertIf _ args, fun _ _ _ => insertsApart_insertIf busy⟩
  rw [operate] at h
  obtain ⟨name, context, text, named, given, rfl, ran⟩ := Page.onPartial_eq_ok_iff.mp h
  have apart := apart name context text ran
  refine ⟨apart.kept, ⟨name, context, text, named, given, rfl, apart.source⟩, ?_⟩
  intro other meant' sections depth
  obtain ⟨after, ran', same⟩ := apart.again other sections depth
  refine ⟨after, ?_, same⟩
  rw [Page.eval_dispatch_operation engine.pageHost meant', operate]
  exact Page.onPartial_eq_ok_iff.mpr ⟨name, context, text, named, given, rfl, ran'⟩

theorem inserting_threeFiles : ∃ calls session ended text,
    (threeFiles 3).Running (.renderFile "a.tpl" []) ((threeFiles 3).performAll [] Desk.empty) calls
      ⟨.call "insert" [.text "b"], session⟩ ∧
    Operation.ofName? (Page.callName session.page "insert") = some .insert ∧
    (Page.dispatch (threeFiles 3).pageHost "insert" [.text "b"]).eval session =
      (.ok (.text text), ended) := by
  let engine := threeFiles 3
  let page : Page := { engine.page "a.tpl" "" with context := [] }
  let session : Session Desk := ⟨page, (Desk.empty.enter "a.tpl").note (.fired ⟨.prerender, page⟩)⟩
  have asked : engine.Running (.renderFile "a.tpl" []) (engine.performAll [] Desk.empty) 0
      ⟨.file "a.tpl" [] "", Desk.empty⟩ := .request (.start _ _)
  have room : Desk.empty.depth < engine.maxDepth := by decide
  obtain ⟨calls, running⟩ := asked.reached ((oneCall_threeFiles 3).reaches [] "" room)
  have meant : Operation.ofName? (Page.callName session.page "insert") = some .insert := by decide
  have chained : engine.Chained "b.tpl" [] 2 :=
    .layout (leaves_threeFiles 3) (.last (last_threeFiles 3))
  have takes := chained.takes "" (session.world.note (.fired ⟨.prepartial "b" [], page⟩))
  obtain ⟨text, rendered⟩ := takes.fits (by decide)
  have found : (threeFiles 0).find "b" = some "b.tpl" := by decide +kernel
  have inserted : ∃ ended, (Page.insert engine.pageHost "b" []).eval session = (.ok text, ended) :=
    ⟨_, eval_insert found (Prod.ext rendered rfl)⟩
  obtain ⟨ended, inserted⟩ := inserted
  refine ⟨calls, session, ended, text, running, meant, ?_⟩
  rw [Page.eval_dispatch_operation _ meant, Page.operate_insert, Page.onPartial_eq_ok_iff]
  exact ⟨"b", [], text, rfl, rfl, rfl, inserted⟩

theorem partial_apart_threeFiles : ∃ session ended text,
    (Page.dispatch (threeFiles 3).pageHost "insert" [.text "b"]).eval session =
      (.ok (.text text), ended) ∧
    ended.page = session.page ∧
    (threeFiles 3).RenderedApart "b" [] "b.tpl" session ended text := by
  obtain ⟨calls, session, ended, text, running, meant, inserted⟩ := inserting_threeFiles
  obtain ⟨kept, ⟨name, context, text', named, given, shown, source⟩, -⟩ :=
    (threeFiles 3).partial_apart [] (.renderFile "a.tpl" []) calls "insert" [.text "b"] session
      ended .insert (.text text) running meant (.inl rfl) inserted
  cases named
  cases given
  cases shown
  have found : (threeFiles 0).find "b" = some "b.tpl" := by decide +kernel
  obtain ⟨⟨⟩, -⟩ | ⟨file, found', apart⟩ := source
  cases found.symm.trans found'
  exact ⟨session, ended, text, inserted, kept.page, apart⟩

end Engine

end Folio
