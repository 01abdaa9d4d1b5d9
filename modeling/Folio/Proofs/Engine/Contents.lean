import Folio.Proofs.Engine.Calls
import Folio.Proofs.Engine.Strictness
import Mathlib

/-! What section blocks show and what questions for sections are answered with, at the places where
they are in the journal of a whole render. -/

namespace Folio

open Body

/-! ## Parts of a journal -/

/-- All that is done from `start` to `left` is done between the first desk and the last one. -/
structure Desk.Encloses (first last start left : Desk) : Prop where
  before : first.journal <+: start.journal
  after : left.journal <+: last.journal

theorem Desk.Encloses.trans {first last start left start' left' : Desk}
    (h : Encloses first last start left) (h' : Encloses start left start' left') :
    Encloses first last start' left' :=
  ⟨h.before.trans h'.before, h'.after.trans h.after⟩

theorem Desk.Closes.journal_grows {desk later : Desk} (closes : desk.Closes later) :
    desk.journal <+: later.journal := by
  obtain ⟨closings, journal, -⟩ := closes.journal
  exact ⟨closings, journal.symm⟩

namespace Engine

variable {engine : Engine}

theorem Ends.journal_grows {place : Place} {α : Type} {plan : Plan place α} {state : place.State}
    {outcome : place.Outcome α} (ends : engine.Ends plan state outcome)
    (steps : plan.Blames engine) (tidy : plan.Tidy) :
    (Place.world state).journal <+: (Place.world outcome.2).journal := by
  -- `Blamed` says of every part of a render that it adds to the journal; the error is not needed
  obtain ⟨moments, journal, -⟩ := ends.blamed steps tidy
  exact ⟨moments, journal.symm⟩

theorem journal_grows_run {place : Place} {α : Type} {plan : Plan place α}
    (steps : plan.Blames engine) (tidy : plan.Tidy) (state : place.State) :
    (Place.world state).journal <+:
      (Place.world ((plan.run engine.run).eval state).2).journal :=
  (engine.ends_run plan state).journal_grows steps tidy

/-- What is done for a job is done for the plan that starts it. The induction is on where in the
plan it is started. -/
theorem Starts.enclosed {place : Place} {α : Type} {plan : Plan place α} {state : place.State}
    {frame : Frame} (starts : engine.Starts plan state frame) (steps : plan.Blames engine)
    (tidy : plan.Tidy) :
    Desk.Encloses (Place.world state) (Place.world ((plan.run engine.run).eval state).2)
      (Place.world frame.state) (Place.world ((engine.run frame.job).eval frame.state).2) := by
  induction starts with
  | start job state => exact ⟨List.prefix_rfl, List.prefix_rfl⟩
  | @first _ _ _ first next state _ _ ih =>
    obtain ⟨before, after⟩ := ih steps.1 tidy.1
    refine ⟨before, after.trans ?_⟩
    rw [Plan.run, Run.eval_bind]
    rcases (first.run engine.run).eval state with ⟨error | value, between⟩
    · exact List.prefix_rfl
    · exact journal_grows_run (steps.2 value) (tidy.2 value) between
  | next ends _ ih =>
    obtain ⟨before, after⟩ := ih (steps.2 _) (tidy.2 _)
    rw [Plan.run, Run.eval_bind, ends.eval]
    exact ⟨(ends.journal_grows steps.1 tidy.1).trans before, after⟩
  | outside _ ih => exact ih steps tidy
  | ofPage _ ih => exact ih steps tidy
  | @onError _ _ plan cleanup state _ _ ih =>
    obtain ⟨before, after⟩ := ih steps tidy.1
    refine ⟨before, after.trans ?_⟩
    rw [Plan.run, Run.onError, Run.eval_of]
    rcases (plan.run engine.run).eval state with ⟨error | value, left⟩
    · exact (tidy.2 left).journal_grows
    · exact List.prefix_rfl
  | ensure _ ih =>
    obtain ⟨before, after⟩ := ih steps tidy.1
    exact ⟨before, after.trans (tidy.2 _).journal_grows⟩

section
variable {request : Request} {desk : Desk} {calls : Nat} {frame : Frame}

/-- What is done for a job that runs for a request is done for the request. -/
theorem Running.enclosed (running : engine.Running request desk calls frame) :
    Desk.Encloses desk ((engine.perform request).eval desk).2 (Place.world frame.state)
      (Place.world ((engine.run frame.job).eval frame.state).2) := by
  induction running with
  | request starts =>
    have part := starts.enclosed (blames_requestPlan request) (engine.tidy_requestPlan request)
    rwa [run_requestPlan] at part
  | @job _ caller _ _ starts ih =>
    have part := starts.enclosed (blames_plan caller.job) (engine.tidy_plan caller.job)
    rw [run_plan] at part
    exact ih.trans part

end

end Engine

/-! ## What is written for a section -/

/-- The desk is left with a remark, as one of the moments `done` since `start`, of which the ones
before it are `earlier`. Its sections are those that have been stored by then. -/
structure Desk.Remarked (start : Desk) (done : List Moment) (remark : Remark) (desk : Desk)
    (earlier : List Moment) : Prop where
  journal : desk.journal =
    start.journal ++ (earlier ++ [⟨.remarked remark, desk.sections, desk.depth⟩])
  part : earlier ++ [⟨.remarked remark, desk.sections, desk.depth⟩] <+: done
  stored (name content : String) : desk.sections.get? name = some content ↔
    ∃ moment ∈ earlier, moment.entry = .stored name content

theorem FirstKept.stored_iff {done earlier : List Moment} {sections sections' : Sections}
    {remark : Remark} {depth : Nat} (kept : FirstKept done sections)
    (part : earlier ++ [⟨.remarked remark, sections', depth⟩] <+: done) (name content : String) :
    sections'.get? name = some content ↔
      ∃ moment ∈ earlier, moment.entry = .stored name content := by
  constructor
  · intro present
    obtain ⟨moment, member, entry⟩ := kept.sourced earlier _ part name content present
    rcases List.mem_append.mp member with member | last
    · exact ⟨moment, member, entry⟩
    · cases List.mem_singleton.mp last
      cases entry
  · rintro ⟨moment, member, entry⟩
    have later := (List.pairwise_append.mp (kept.keeps.sublist part.sublist)).2.2
    exact (later moment member _ (List.mem_singleton_self _) name content entry).present

namespace Engine

variable (engine : Engine)

/-- What a section block comes to that ends well. It finds its name, then its own text, and then
shows the content of the section: the one that is there by then, or else its own text. After it that
is the content. -/
structure ShowsContent (path : Path) (locals : Locals) (line : Nat) (args inner : List Char)
    (session left : Session Desk) (shown : List Char) (name own written : String) : Prop where
  finds : ∃ named filled text,
    (sectionName path line ((Page.scope engine.pageHost).bindAll locals) args).eval session =
      (.ok name, named) ∧
    (runText path inner (line - 1) ((Page.scope engine.pageHost).bindAll locals)).eval named =
      (.ok text, filled) ∧
    own = String.ofList text ∧ written = (filled.world.sections.get? name).getD own
  shown : shown = written.toList
  content : left.world.sections.get? name = some written

/-- What a call comes to that asks for a section and ends well. It is answered with the content of
the section, if there is one, and otherwise with the text of the fallback. -/
structure GivesContent (args : List Value) (session left : Session Desk) (value : Value)
    (name written : String) : Prop where
  asked : Page.argument args 0 = .text name
  content : written =
    (session.world.sections.get? name).getD (Page.argument args 1).displayed
  value : value = .text written
  page : left.page = session.page
  sections : left.world.sections = session.world.sections

variable {engine}

/-- A section that is declared has a content, which is remarked. -/
theorem eval_declare_host {execute : Execute} {name own written : String} {desk after : Desk}
    (h : ((engine.host execute).declare name own).eval desk = (.ok written, after)) :
    written = (desk.sections.get? name).getD own ∧ after.sections.get? name = some written ∧
      ∃ base : Desk, desk.journal <+: base.journal ∧
        after = base.note (.remarked (.captured name own written)) := by
  rw [Host.eval_declare] at h
  simp only [host] at h
  cases found : desk.sections.get? name with
  | some kept =>
    rw [found] at h
    cases h
    exact ⟨rfl, found, desk, List.prefix_rfl, rfl⟩
  | none =>
    rw [found] at h
    cases h
    refine ⟨rfl, by simp, desk.store name own, ?_, rfl⟩
    rw [Desk.store, Desk.journal_note]
    exact ⟨_, rfl⟩

theorem Ends.capture {path : Path} {locals : Locals} {line : Nat} {args inner shown : List Char}
    {session left : Session Desk}
    (ends : engine.Ends (engine.blockPlan path locals line args inner .capture) session
      (.ok shown, left)) :
    ∃ name own written, engine.ShowsContent path locals line args inner session left shown name
        own written ∧
      ∃ base : Desk, session.world.journal <+: base.journal ∧
        left.world = base.note (.remarked (.captured name own written)) := by
  have tidy := engine.tidy_blockPlan path locals line .capture args inner
  have steps : (engine.blockPlan path locals line args inner .capture).Blames engine :=
    blames_blockPlan path locals line .capture args inner
  cases ends with
  | @next _ _ _ _ _ _ named name _ naming ends =>
    cases ends with
    | @next _ _ _ _ _ _ filled text _ filling ends =>
      cases ends with
      | @next _ _ _ _ _ _ after written _ declaring ends =>
        cases ends.eval
        have named' := naming.eval
        rw [run_sectionPlan] at named'
        have declared := declaring.eval
        rw [Plan.run, Page.declareSection, Session.outside, Run.within_apply,
          Prod.mk.injEq] at declared
        obtain ⟨result, rfl⟩ := declared
        obtain ⟨rfl, present, base, grown, noted⟩ := eval_declare_host (Prod.ext result rfl)
        refine ⟨name, String.ofList text, _, ⟨⟨named, filled, text, named', filling.eval, rfl, rfl⟩,
          rfl, present⟩, base, ?_, noted⟩
        have before := naming.journal_grows steps.1 tidy.1
        exact (before.trans (filling.journal_grows trivial trivial)).trans grown

theorem givesContent_of_dispatch {called : String} {args : List Value} {session left : Session Desk}
    {value : Value}
    (asks : Operation.ofName? (Page.callName session.page called) = some .supply)
    (ran : (Page.dispatch engine.pageHost called args).eval session = (.ok value, left)) :
    ∃ name written, GivesContent args session left value name written ∧
      left.world = session.world.note
        (.remarked (.supplied name (Page.argument args 1).displayed written)) := by
  rw [Page.eval_dispatch_operation engine.pageHost asks] at ran
  obtain ⟨name, start, checked, ran⟩ := Run.exists_of_bind_ok ran
  simp only [Run.ofExcept, Run.eval_of, Prod.mk.injEq] at checked
  obtain ⟨named, rfl⟩ := checked
  obtain ⟨written, last, supplied, ended⟩ := Run.exists_of_bind_ok ran
  cases ended
  cases supplied
  exact ⟨name, _, ⟨Page.textArg_eq_ok_iff.mp named, rfl, rfl, rfl, rfl⟩, rfl⟩

theorem Running.remarked {request : Request} {desk : Desk} {calls : Nat} {frame : Frame}
    {done : List Moment} {remark : Remark} {base left : Desk}
    (running : engine.Running request desk calls frame)
    (ended : Place.world ((engine.run frame.job).eval frame.state).2 = left)
    (whole : ((engine.perform request).eval desk).2.journal = desk.journal ++ done)
    (kept : FirstKept done ((engine.perform request).eval desk).2.sections)
    (grown : (Place.world frame.state).journal <+: base.journal)
    (noted : left = base.note (.remarked remark)) :
    ∃ earlier, Desk.Remarked desk done remark left earlier := by
  obtain ⟨before, after⟩ := running.enclosed
  obtain ⟨earlier, journal⟩ := before.trans grown
  have journal' : left.journal =
      desk.journal ++ (earlier ++ [⟨.remarked remark, left.sections, left.depth⟩]) := by
    rw [noted, Desk.journal_note, ← journal, List.append_assoc]
    rfl
  rw [ended, whole, journal'] at after
  have part := (List.prefix_append_right_inj _).mp after
  exact ⟨earlier, journal', part, kept.stored_iff part⟩

variable (engine) in
/-- Whatever an engine is asked for while no file is open, a section gets one content at most and
keeps it until the request is done. At any depth, every block for the section that ends after that
shows this content, and every question for it is answered with it; as long as there is none, the
answer is the text of the fallback. -/
theorem first_section_kept (request : Request) {desk : Desk} (idle : desk.depth = 0) :
    let ended := (engine.perform request).eval desk
    ∃ done, ended.2.journal = desk.journal ++ done ∧ FirstKept done ended.2.sections ∧
      (∀ calls path locals line args inner session shown left,
        engine.Running request desk calls ⟨.block path locals line .capture args inner, session⟩ →
        (engine.run (.block path locals line .capture args inner)).eval session =
          (.ok shown, left) →
        ∃ name own written earlier,
          engine.ShowsContent path locals line args inner session left shown name own written ∧
          Desk.Remarked desk done (.captured name own written) left.world earlier) ∧
      ∀ calls called args session value left,
        engine.Running request desk calls ⟨.call called args, session⟩ →
        Operation.ofName? (Page.callName session.page called) = some .supply →
        (engine.run (.call called args)).eval session = (.ok value, left) →
        ∃ name written earlier, GivesContent args session left value name written ∧
          Desk.Remarked desk done (.supplied name (Page.argument args 1).displayed written)
            left.world earlier := by
  intro ended
  obtain ⟨done, whole, kept⟩ := engine.firstKept_perform request idle
  refine ⟨done, whole, kept, ?_, ?_⟩
  · intro calls path locals line args inner session shown left running ran
    have ends := engine.plan_ends ⟨.block path locals line .capture args inner, session⟩
    rw [ran] at ends
    obtain ⟨name, own, written, shows, base, grown, noted⟩ := Ends.capture ends
    have ended := congrArg (fun outcome => outcome.2.world) ran
    obtain ⟨earlier, remarked⟩ := running.remarked ended whole kept grown noted
    exact ⟨name, own, written, earlier, shows, remarked⟩
  · intro calls called args session value left running asks ran
    obtain ⟨name, written, gives, noted⟩ := givesContent_of_dispatch asks ran
    have ended := congrArg (fun outcome => outcome.2.world) ran
    obtain ⟨earlier, remarked⟩ := running.remarked ended whole kept List.prefix_rfl noted
    exact ⟨name, written, earlier, gives, remarked⟩

/-! ## Two sections of one name -/

def sectionPieces : List Piece :=
  [⟨[], "section 'a'".toList⟩, ⟨"1".toList, "/section".toList⟩, ⟨[], "section 'a'".toList⟩,
    ⟨"2".toList, "/section".toList⟩, ⟨[], "supply('a')".toList⟩]

/-- An engine whose only file has two sections of one name and asks for it. -/
def twoSections : Engine where
  disk := ⟨.folder [("page.tpl", .file (some (String.ofList (joined sectionPieces []))))], []⟩
  finder := ⟨[""], ["tpl"]⟩
  commands := .empty true
  alias? := none
  maxDepth := 64

def openingA (start : Nat) : Tag := ⟨start, "section 'a'".toList, 0, 1⟩

def closingA (start : Nat) : Tag := ⟨start, "/section".toList, 0, 1⟩

def askingA : Tag := ⟨56, "supply('a')".toList, 0, 1⟩

theorem scan_sectionPieces : scan (joined sectionPieces []) =
    [openingA 0, closingA 16, openingA 28, closingA 44, askingA] := by cbv

theorem kind_openingA (start : Nat) : (openingA start).kind = .opening .capture "'a'".toList := by
  cbv

def namedA (inner : String) : Job .page (List Char) :=
  .block "page.tpl" [] 1 .capture "'a'".toList inner.toList

/-- The page of that file when its text is executed, after the first section and after the second
one. -/
def beforeOne : Session Desk :=
  let page := twoSections.page "page.tpl" ""
  ⟨page, (Desk.empty.enter "page.tpl").note (.fired ⟨.prerender, page⟩)⟩

def afterOne : Session Desk :=
  ((twoSections.run (namedA "1")).eval beforeOne).2

def afterTwo : Session Desk :=
  ((twoSections.run (namedA "2")).eval afterOne).2

theorem eval_first : (twoSections.run (namedA "1")).eval beforeOne = (.ok ['1'], afterOne) :=
  Prod.ext (by cbv) rfl

theorem eval_second : (twoSections.run (namedA "2")).eval afterOne = (.ok ['1'], afterTwo) :=
  Prod.ext (by cbv) rfl

/-- What is started after the first section is started by the text of the file. -/
theorem starts_afterOne {frame : Frame}
    (starts : twoSections.Starts (tagsPlan "page.tpl" [] (joined sectionPieces []) 0 28
      [openingA 28, closingA 44, askingA]) afterOne frame) :
    twoSections.Starts (twoSections.plan (.text "page.tpl" [] (joined sectionPieces []) 0))
      beforeOne frame := by
  have ends : findBlockEnd .capture ((joined sectionPieces []).drop (openingA 0).stop) =
      some (closingA 1) := by cbv
  rw [plan, scan_sectionPieces,
    tagsPlan_block (by decide) rfl (kind_openingA 0) ends (by cbv)]
  refine .after ['1'] eval_first (.first ?_)
  rwa [tagsPlan_skip (by decide)]

/-- The second section and the question at the end are started. -/
theorem running_twoSections :
    (∃ calls, twoSections.Running (.render "page" []) Desk.empty calls ⟨namedA "2", afterOne⟩) ∧
    ∃ calls, twoSections.Running (.render "page" []) Desk.empty calls
      ⟨.call "supply" [.text "a"], afterTwo⟩ := by
  have found : twoSections.find "page" = some "page.tpl" := by decide +kernel
  have start : twoSections.Running (.render "page" []) Desk.empty 0
      ⟨.file "page.tpl" [] "", Desk.empty⟩ := by
    refine .request ?_
    rw [requestPlan, namedPlan, found]
    exact .start _ _
  have read : twoSections.disk.read "page.tpl" = .ok (String.ofList (joined sectionPieces [])) :=
    rfl
  have room : Desk.empty.depth < twoSections.maxDepth := by decide
  have file := reaches_text read [] "" room
  rw [String.toList_ofList] at file
  obtain ⟨calls, running⟩ := start.reached file
  have ends : findBlockEnd .capture ((joined sectionPieces []).drop (openingA 28).stop) =
      some (closingA 1) := by cbv
  have rest : tagsPlan "page.tpl" [] (joined sectionPieces []) 0 28
      [openingA 28, closingA 44, askingA] = (do
        let shown ← .start (namedA "2")
        let after ← tagsPlan "page.tpl" [] (joined sectionPieces []) 0 56 [closingA 44, askingA]
        pure (lead (joined sectionPieces []) 28 (openingA 28) ++ shown ++ after)) :=
    tagsPlan_block (by decide) rfl (kind_openingA 28) ends (by cbv)
  constructor
  · refine ⟨_, running.job (starts_afterOne ?_)⟩
    rw [rest]
    exact .first (.start _ _)
  · have asks : askingA.kind = .expression "supply('a')".toList := by cbv
    have call : Expr.read "supply('a')".toList = .ok (.call "supply" [.literal (.text "a")]) := by
      cbv
    have expression : twoSections.Starts
        (tagsPlan "page.tpl" [] (joined sectionPieces []) 0 28 [openingA 28, closingA 44, askingA])
        afterOne
        ⟨.expression "page.tpl" [] 1 (.call "supply" [.literal (.text "a")]), afterTwo⟩ := by
      rw [rest]
      refine .after ['1'] eval_second (.first ?_)
      rw [tagsPlan_skip (by decide), tagsPlan_expression (by decide) rfl asks, shownPlan,
        sourcePlan, call]
      exact .first (.first (.start _ _))
    exact (running.job (starts_afterOne expression)).reached reaches_call

/-- The second section shows the content of the first one, which the question is answered with as
well. -/
theorem first_section_kept_twoSections :
    let ended := (twoSections.perform (.render "page" [])).eval Desk.empty
    ∃ done, ended.2.journal = done ∧ FirstKept done ended.2.sections ∧
      (∃ earlier,
        twoSections.ShowsContent "page.tpl" [] 1 "'a'".toList "2".toList afterOne afterTwo ['1']
          "a" "2" "1" ∧
        Desk.Remarked Desk.empty done (.captured "a" "2" "1") afterTwo.world earlier) ∧
      ∃ left earlier, GivesContent [.text "a"] afterTwo left (.text "1") "a" "1" ∧
        Desk.Remarked Desk.empty done (.supplied "a" "" "1") left.world earlier := by
  intro ended
  obtain ⟨done, journal, kept, blocks, questions⟩ :=
    first_section_kept twoSections (.render "page" []) (rfl : Desk.empty.depth = 0)
  obtain ⟨⟨calls, block⟩, calls', question⟩ := running_twoSections
  refine ⟨done, journal, kept, ?_, ?_⟩
  · obtain ⟨name, own, written, earlier, shows, remarked⟩ :=
      blocks _ _ _ _ _ _ _ _ _ block eval_second
    obtain ⟨named, filled, text, naming, filling, rfl, -⟩ := shows.finds
    let scope := (Page.scope twoSections.pageHost).bindAll []
    have name' : ((sectionName "page.tpl" 1 scope "'a'".toList).eval afterOne).1 = .ok "a" := by
      cbv
    have text' : ((runText "page.tpl" "2".toList 0 scope).eval named).1 = .ok ['2'] := by cbv
    rw [naming] at name'
    rw [filling] at text'
    cases name'
    cases text'
    obtain rfl : written = "1" := String.toList_injective shows.shown.symm
    exact ⟨earlier, shows, remarked⟩
  · have answers : (twoSections.run (.call "supply" [.text "a"])).eval afterTwo =
        (.ok (.text "1"), ((twoSections.run (.call "supply" [.text "a"])).eval afterTwo).2) :=
      Prod.ext (by cbv) rfl
    obtain ⟨name, written, earlier, gives, remarked⟩ :=
      questions _ _ _ _ _ _ question (by cbv) answers
    cases gives.asked
    cases gives.value
    exact ⟨_, earlier, gives, remarked⟩

end Engine

end Folio
