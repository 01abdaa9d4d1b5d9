import Folio.Proofs.Engine.Bodies
import Folio.Proofs.Engine.Termination
import Mathlib

/-! If anything in a render fails, the whole render fails with the same error, and nothing more is
done but to close the files that are open. What is done in a render can be told from the plans of
its jobs; which helpers and filters are run, from the journal as well. -/

namespace Folio

open Body

/-! ## Closing files -/

def Moment.IsClosing (moment : Moment) : Prop :=
  ∃ path, moment.entry = .closed path

/-- Between the two desks nothing is done but to close files. -/
structure Desk.Closes (desk later : Desk) : Prop where
  sections : later.sections = desk.sections
  journal : ∃ closings, later.journal = desk.journal ++ closings ∧
    ∀ moment ∈ closings, moment.IsClosing

theorem Desk.journal_leave (path : Path) (desk : Desk) :
    (desk.leave path).journal =
      desk.journal ++ [⟨.closed path, desk.sections, desk.depth - 1⟩] :=
  Desk.journal_note _ _

namespace Desk.Closes

@[refl] theorem refl (desk : Desk) : desk.Closes desk :=
  ⟨rfl, [], by simp, by simp⟩

theorem trans {desk later last : Desk} (h : desk.Closes later) (h' : later.Closes last) :
    desk.Closes last := by
  obtain ⟨closings, journal, closing⟩ := h.journal
  obtain ⟨closings', journal', closing'⟩ := h'.journal
  refine ⟨h'.sections.trans h.sections, closings ++ closings', ?_, ?_⟩
  · rw [journal', journal, List.append_assoc]
  · exact List.forall_mem_append.mpr ⟨closing, closing'⟩

theorem leave (path : Path) (desk : Desk) : desk.Closes (desk.leave path) := by
  refine ⟨rfl, _, Desk.journal_leave path desk, ?_⟩
  rintro moment mem
  cases List.mem_singleton.mp mem
  exact ⟨path, rfl⟩

end Desk.Closes

/-! ## What a plan does -/

/-- A part of a render, with the state in which it is done. -/
structure Deed where
  {place : Place}
  {α : Type}
  plan : Plan place α
  state : place.State

def Deed.IsStep (deed : Deed) : Prop :=
  ∃ run, deed.plan = .step run

namespace Engine

variable (engine : Engine)

def outcome (deed : Deed) : deed.place.Outcome deed.α :=
  (deed.plan.run engine.run).eval deed.state

/-- The parts that are done when a plan is carried out, at any depth: the plan itself, the plan of
a job that it starts, and one plan after another as long as they end with results. -/
inductive Does :
    {place : Place} → {α : Type} → Plan place α → place.State → Deed → Prop
  | whole {place : Place} {α : Type} (plan : Plan place α) (state : place.State) :
      Does plan state ⟨plan, state⟩
  | start {place : Place} {α : Type} {job : Job place α} {state : place.State} {deed : Deed} :
      Does (engine.plan job) state deed → Does (.start job) state deed
  | first {place : Place} {α β : Type} {first : Plan place α} {next : α → Plan place β}
      {state : place.State} {deed : Deed} :
      Does first state deed → Does (.bind first next) state deed
  | next {place : Place} {α β : Type} {first : Plan place α} {next : α → Plan place β}
      {state after : place.State} {value : α} {deed : Deed} :
      engine.Ends first state (.ok value, after) → Does (next value) after deed →
      Does (.bind first next) state deed
  | outside {α : Type} {plan : Plan .desk α} {session : Session Desk} {deed : Deed} :
      Does plan session.world deed → Does (.outside plan) session deed
  | ofPage {α : Type} {plan : Plan .page α} {page : Page} {world : Desk} {deed : Deed} :
      Does plan ⟨page, world⟩ deed → Does (.ofPage page plan) world deed
  | onError {place : Place} {α : Type} {plan : Plan place α}
      {cleanup : place.State → place.State} {state : place.State} {deed : Deed} :
      Does plan state deed → Does (.onError plan cleanup) state deed
  | ensure {place : Place} {α : Type} {plan : Plan place α}
      {cleanup : place.State → place.State} {state : place.State} {deed : Deed} :
      Does plan state deed → Does (.ensure plan cleanup) state deed

/-- Every plan ends with what the engine answers. -/
theorem ends_run {place : Place} {α : Type} (plan : Plan place α) (state : place.State) :
    engine.Ends plan state ((plan.run engine.run).eval state) := by
  obtain ⟨outcome, ends⟩ := ends_of_starts plan state fun frame _ => ⟨_, engine.plan_ends frame⟩
  rwa [ends.eval]

variable {engine}

theorem Does.after {place : Place} {α β : Type} {first : Plan place α} {next : α → Plan place β}
    {state after : place.State} {deed : Deed} (value : α)
    (h : (first.run engine.run).eval state = (.ok value, after))
    (does : engine.Does (next value) after deed) : engine.Does (first >>= next) state deed := by
  have ends := engine.ends_run first state
  rw [h] at ends
  exact .next ends does

variable (engine) in
/-- When a plan is carried out, one of the steps that are done fails with an error. -/
def FailsBy {place : Place} {α : Type} (plan : Plan place α) (state : place.State)
    (error : Error) : Prop :=
  ∃ deed : Deed, engine.Does plan state deed ∧ deed.IsStep ∧
    (engine.outcome deed).1 = .error error

theorem FailsBy.lift {place place' : Place} {α β : Type} {part : Plan place α}
    {plan : Plan place' β} {state : place.State} {state' : place'.State} {error : Error}
    (h : engine.FailsBy part state error)
    (within : ∀ deed, engine.Does part state deed → engine.Does plan state' deed) :
    engine.FailsBy plan state' error := by
  obtain ⟨deed, does, step, fails⟩ := h
  exact ⟨deed, within deed does, step, fails⟩

/-- A plan that fails does a step that fails with the same error. The induction is on how the plan
ends. -/
theorem Ends.failsBy {place : Place} {α : Type} {plan : Plan place α} {state : place.State}
    {outcome : place.Outcome α} (ends : engine.Ends plan state outcome) {error : Error}
    (h : outcome.1 = .error error) : engine.FailsBy plan state error := by
  induction ends with
  | step run state => exact ⟨⟨.step run, state⟩, .whole _ _, ⟨run, rfl⟩, h⟩
  | start _ ih => exact (ih h).lift fun _ => .start
  | next ends _ _ ih => exact (ih h).lift fun _ => .next ends
  | broken _ ih =>
    cases h
    exact (ih rfl).lift fun _ => .first
  | outside _ ih => exact (ih h).lift fun _ => .outside
  | ofPage _ ih => exact (ih h).lift fun _ => .ofPage
  | fine => cases h
  | cleaned _ ih => exact (ih h).lift fun _ => .onError
  | ensure _ ih => exact (ih h).lift fun _ => .ensure

end Engine

/-! ## Cleanups -/

/-- The cleanups in a plan do nothing to the desk but close files. -/
def Plan.Tidy : {place : Place} → {α : Type} → Plan place α → Prop
  | _, _, .step _ => True
  | _, _, .start _ => True
  | _, _, .bind first next => first.Tidy ∧ ∀ value, (next value).Tidy
  | _, _, .outside plan => plan.Tidy
  | _, _, .ofPage _ plan => plan.Tidy
  | _, _, .onError plan cleanup =>
    plan.Tidy ∧ ∀ state, (Place.world state).Closes (Place.world (cleanup state))
  | _, _, .ensure plan cleanup =>
    plan.Tidy ∧ ∀ state, (Place.world state).Closes (Place.world (cleanup state))

namespace Plan

variable {place : Place} {α β : Type}

@[simp] theorem tidy_step (run : Run place.State α) : (step run).Tidy := trivial

@[simp] theorem tidy_start (job : Job place α) : (start job).Tidy := trivial

@[simp] theorem tidy_pure (value : α) : (pure value : Plan place α).Tidy := trivial

@[simp] theorem tidy_bind (first : Plan place α) (next : α → Plan place β) :
    (first >>= next).Tidy ↔ first.Tidy ∧ ∀ value, (next value).Tidy := Iff.rfl

@[simp] theorem tidy_outside (plan : Plan .desk α) : (outside plan).Tidy ↔ plan.Tidy := Iff.rfl

theorem tidy_each {plan : α → Plan place β} (h : ∀ item, (plan item).Tidy) (items : List α) :
    (each plan items).Tidy := by
  induction items with
  | nil => exact tidy_pure []
  | cons item items ih => simp [each, h, ih]

end Plan

namespace Engine

variable (engine : Engine)

section
variable (path : Path) (locals : Locals) (line : Nat)

@[simp] theorem tidy_sourcePlan (source : List Char) :
    (sourcePlan path locals line source).Tidy := by
  unfold sourcePlan
  split <;> simp

theorem tidy_tagsPlan (text : List Char) (offset cursor : Nat) (tags : List Tag) :
    (tagsPlan path locals text offset cursor tags).Tidy := by
  induction tags generalizing cursor with
  | nil => simp [tagsPlan]
  | cons tag tags ih =>
    rw [tagsPlan]
    split
    · exact ih cursor
    split
    · simp [ih]
    cases tag.kind with
    | expression source => simp [shownPlan, ih]
    | closing keyword => simp
    | opening block args =>
      dsimp only
      split <;> simp [ih]

theorem tidy_blockPlan (block : BlockKind) (args inner : List Char) :
    (engine.blockPlan path locals line args inner block).Tidy := by
  cases block with
  | each =>
    unfold blockPlan
    cases eachArgs? args with
    | none => simp
    | some names => simp [Plan.tidy_each]
  | capture =>
    have name : (sectionPlan path locals line args).Tidy := by
      simp only [sectionPlan, Plan.tidy_bind, tidy_sourcePlan, true_and]
      rintro (_ | _) <;> simp
    simp [blockPlan, name]

theorem tidy_expressionPlan (expr : Expr) :
    (engine.expressionPlan path locals line expr).Tidy := by
  cases expr <;> simp [expressionPlan, Plan.tidy_each]

end

@[simp] theorem tidy_namedPlan (name : String) (context : Fields) :
    (engine.namedPlan name context).Tidy := by
  unfold namedPlan
  split <;> simp

theorem tidy_insertPlan (name : String) (context : Fields) :
    (engine.insertPlan name context).Tidy := by
  simp [insertPlan]

theorem tidy_callPlan (name : String) (args : List Value) :
    (engine.callPlan name args).Tidy := by
  simp only [callPlan, Plan.tidy_bind, Plan.tidy_step, true_and]
  intro name
  cases Operation.ofName? name with
  | none => simp
  | some operation =>
    cases operation with
    | insertIf =>
      have partialPlan (name : String) (context : Fields) :
          (engine.insertIfPlan name context).Tidy := by
        simp only [insertIfPlan, Plan.tidy_bind, Plan.tidy_step, true_and]
        rintro (_ | _) <;> simp
      simp [operationPlan, partialPlan]
    | _ => simp [operationPlan]

/-- A body that fails leaves its page without a layout; the desk stays as it is. -/
theorem tidy_pagePlan (context : Fields) : (engine.pagePlan context).Tidy := by
  have body : engine.bodyPlan.Tidy := by
    simp only [bodyPlan, Plan.tidy_bind, Plan.tidy_step, true_and]
    intro path
    cases engine.disk.read path <;> simp
  have wrap (text : String) (layout? : Option Path) :
      (engine.wrapPlan context text layout?).Tidy := by
    cases layout? <;> simp [wrapPlan]
  have collect (cleanup : Session Desk → Session Desk)
      (world : ∀ session, (cleanup session).world = session.world) :
      (Plan.onError engine.bodyPlan cleanup).Tidy :=
    ⟨body, fun session => by simp only [Place.world, world]; rfl⟩
  simp [pagePlan, wrap, collect]

theorem tidy_filePlan (path : Path) (context : Fields) (buffer : String) :
    (engine.filePlan path context buffer).Tidy :=
  ⟨trivial, fun _ => ⟨trivial, fun desk => .leave path desk⟩⟩

/-- After a failure of a part of a job nothing is done but to close files. -/
theorem tidy_plan {place : Place} {α : Type} (job : Job place α) : (engine.plan job).Tidy := by
  cases job with
  | file path context buffer => exact engine.tidy_filePlan path context buffer
  | page context => exact engine.tidy_pagePlan context
  | text path locals text offset => exact tidy_tagsPlan path locals text offset 0 (scan text)
  | block path locals line block args inner =>
    exact engine.tidy_blockPlan path locals line block args inner
  | expression path locals line expr => exact engine.tidy_expressionPlan path locals line expr
  | call name args => exact engine.tidy_callPlan name args
  | insert name context => exact engine.tidy_insertPlan name context

theorem tidy_requestPlan (request : Request) : (engine.requestPlan request).Tidy := by
  cases request with
  | render name context => exact engine.tidy_namedPlan name context
  | _ => trivial

variable {engine}

/-- If something that a plan does fails, the plan fails with the same error, and nothing is done in
between but to close files. The induction is on where in the plan it is done. -/
theorem Does.fails {place : Place} {α : Type} {plan : Plan place α} {state : place.State}
    {deed : Deed} (does : engine.Does plan state deed) (tidy : plan.Tidy) {error : Error}
    {failed : deed.place.State} (h : engine.outcome deed = (.error error, failed)) :
    ∃ after, (plan.run engine.run).eval state = (.error error, after) ∧
      (Place.world failed).Closes (Place.world after) := by
  induction does with
  | whole plan state => exact ⟨failed, h, .refl _⟩
  | @start _ _ job _ _ _ ih =>
    obtain ⟨after, fails, closes⟩ := ih (engine.tidy_plan job) h
    rw [run_plan] at fails
    exact ⟨after, fails, closes⟩
  | first _ ih =>
    obtain ⟨after, fails, closes⟩ := ih tidy.1 h
    exact ⟨after, Run.bind_of_error fails, closes⟩
  | next ends _ ih =>
    obtain ⟨after, fails, closes⟩ := ih (tidy.2 _) h
    refine ⟨after, ?_, closes⟩
    rw [Plan.run, Run.eval_bind, ends.eval]
    exact fails
  | @outside _ _ session _ _ ih =>
    obtain ⟨after, fails, closes⟩ := ih tidy h
    refine ⟨{ session with world := after }, ?_, closes⟩
    rw [Plan.run, Session.outside, Run.within_apply, fails]
  | ofPage _ ih =>
    obtain ⟨after, fails, closes⟩ := ih tidy h
    refine ⟨after.world, ?_, closes⟩
    rw [Plan.run, Session.ofPage, Run.eval_of, fails]
  | onError _ ih =>
    obtain ⟨after, fails, closes⟩ := ih tidy.1 h
    refine ⟨_, ?_, closes.trans (tidy.2 after)⟩
    rw [Plan.run, Run.onError, Run.eval_of, fails]
  | ensure _ ih =>
    obtain ⟨after, fails, closes⟩ := ih tidy.1 h
    refine ⟨_, ?_, closes.trans (tidy.2 after)⟩
    rw [Plan.run, Run.ensure, Run.eval_of, fails]

end Engine

/-! ## Commands that fail -/

def failure? {α : Type} : Except Error α → Option Error
  | .error error => some error
  | .ok _ => none

theorem eq_of_failure? {α : Type} {result : Except Error α} {error : Error}
    (h : failure? result = some error) : result = .error error := by
  cases result <;> cases h
  rfl

namespace Engine

def refusal? (engine : Engine) : Entry → Option Error
  | .ran name args => failure? (engine.commands.run name args)
  | .filtered name value args => failure? (engine.commands.filter name value args)
  | _ => none

/-- What is done in a render that ends with a result: after a command that answers with an error
files are closed and nothing else is done, and the error is the result. -/
inductive Heeds (engine : Engine) {α : Type} (result : Except Error α) : List Moment → Prop
  | nil : Heeds engine result []
  | fine {moment : Moment} {later : List Moment} : engine.refusal? moment.entry = none →
      Heeds engine result later → Heeds engine result (moment :: later)
  | refused {moment : Moment} {later : List Moment} {error : Error} :
      engine.refusal? moment.entry = some error → result = .error error →
      (∀ closing ∈ later, closing.IsClosing) → Heeds engine result (moment :: later)

namespace Heeds

variable {engine : Engine} {α β : Type} {result : Except Error α} {moments : List Moment}

theorem of_none (h : ∀ moment ∈ moments, engine.refusal? moment.entry = none) :
    engine.Heeds result moments := by
  induction moments with
  | nil => exact .nil
  | cons moment later ih =>
    obtain ⟨none, rest⟩ := List.forall_mem_cons.mp h
    exact .fine none (ih rest)

theorem command {moment : Moment}
    (h : ∀ error, engine.refusal? moment.entry = some error → result = .error error) :
    engine.Heeds result [moment] := by
  cases refused : engine.refusal? moment.entry with
  | none => exact .fine refused .nil
  | some error => exact .refused refused (h error refused) (by simp)

/-- An error is passed on, whatever a result would have been. -/
theorem error {error : Error} (h : engine.Heeds (.error error : Except Error α) moments) :
    engine.Heeds (.error error : Except Error β) moments := by
  induction h with
  | nil => exact .nil
  | fine none _ ih => exact .fine none ih
  | refused refused same closing =>
    cases same
    exact .refused refused rfl closing

/-- Where there is a result, no command has answered with an error. -/
theorem append {value : β} {more : List Moment} (h : engine.Heeds (.ok value) moments)
    (h' : engine.Heeds result more) : engine.Heeds result (moments ++ more) := by
  induction h with
  | nil => exact h'
  | fine none _ ih => exact .fine none ih
  | refused _ same => cases same

theorem close (h : engine.Heeds result moments) {closing : Moment} (closes : closing.IsClosing) :
    engine.Heeds result (moments ++ [closing]) := by
  induction h with
  | nil =>
    obtain ⟨path, entry⟩ := closes
    exact .fine (by rw [entry]; rfl) .nil
  | fine none _ ih => exact .fine none ih
  | refused refused same closing =>
    refine .refused refused same ?_
    exact List.forall_mem_append.mpr ⟨closing, List.forall_mem_singleton.mpr closes⟩

theorem idle (result : Except Error α) (desk : Desk) :
    ∃ moments, desk.journal = desk.journal ++ moments ∧ engine.Heeds result moments :=
  ⟨[], (List.append_nil _).symm, .nil⟩

theorem leave {start desk : Desk} (h : engine.Heeds result moments)
    (journal : desk.journal = start.journal ++ moments) (path : Path) :
    ∃ moments, (desk.leave path).journal = start.journal ++ moments ∧
      engine.Heeds result moments := by
  refine ⟨moments ++ [⟨.closed path, desk.sections, desk.depth - 1⟩], ?_, h.close ⟨path, rfl⟩⟩
  rw [Desk.journal_leave, journal, List.append_assoc]

end Heeds

/-- The runs that end with the first error of a command. -/
def heeding (engine : Engine) : Bond Desk Desk where
  holds run _ := ∀ desk, ∃ moments, (run.eval desk).2.journal = desk.journal ++ moments ∧
    engine.Heeds (run.eval desk).1 moments
  pure _ desk := Heeds.idle _ desk
  fail _ desk := Heeds.idle _ desk
  bind := by
    intro α β run _ next _ first second desk
    obtain ⟨moments, journal, heeds⟩ := first desk
    rw [Run.eval_bind]
    generalize run.eval desk = ended at journal heeds ⊢
    obtain ⟨error | value, after⟩ := ended
    · exact ⟨moments, journal, heeds.error⟩
    · obtain ⟨more, journal', heeds'⟩ := second value after
      refine ⟨moments ++ more, ?_, heeds.append heeds'⟩
      rw [journal', journal, List.append_assoc]

variable (engine : Engine)

theorem heeding_note {entry : Entry} (none : engine.refusal? entry = none) :
    engine.heeding.holds (Run.update fun desk => desk.note entry)
      (Run.update fun desk => desk.note entry) :=
  fun desk => ⟨_, Desk.journal_note desk entry, .fine none .nil⟩

theorem heeding_command {α : Type} {entry : Entry} {result : Except Error α}
    (h : ∀ error, engine.refusal? entry = some error → result = .error error) :
    engine.heeding.holds
      (do Run.update fun desk => desk.note entry
          Run.ofExcept result)
      (do Run.update fun desk => desk.note entry
          Run.ofExcept result) :=
  fun desk => ⟨_, Desk.journal_note desk entry, .command h⟩

theorem hosts_heeding {execute : Execute}
    (nested : ∀ path context buffer,
      engine.heeding.holds (execute path context buffer) (execute path context buffer)) :
    engine.heeding.Hosts (engine.host execute) (engine.host execute) where
  disk := rfl
  seek _ desk := Heeds.idle _ desk
  fire event := engine.heeding_note rfl
  collected page body := engine.heeding_note rfl
  declare name content := by
    have note (content kept : String) :=
      engine.heeding_note (show engine.refusal? (.remarked (.captured name content kept)) = none
        from rfl)
    have look (f : Desk → Option String) : engine.heeding.holds (Run.look f) (Run.look f) :=
      fun desk => Heeds.idle _ desk
    apply engine.heeding.bind (look _)
    rintro (_ | kept)
    · have store : engine.heeding.holds (Run.update (Desk.store name content))
          (Run.update (Desk.store name content)) :=
        fun desk => ⟨_, Desk.journal_note _ (.stored name content), .fine rfl .nil⟩
      apply engine.heeding.bind store
      intro _
      exact engine.heeding.bind (note content content) fun _ => engine.heeding.pure content
    · exact engine.heeding.bind (note content kept) fun _ => engine.heeding.pure kept
  supply name fallback desk := ⟨_, Desk.journal_note _ _, .fine rfl .nil⟩
  render := engine.bonded_renderBy nested
  renderLayout := nested
  run name args := engine.heeding_command fun _ => eq_of_failure?
  filter name value args := engine.heeding_command fun _ => eq_of_failure?

/-- When a file is opened, no command is run. -/
theorem exists_journal_enter (path : Path) (desk : Desk) :
    ∃ moments, (desk.enter path).journal = desk.journal ++ moments ∧
      ∀ moment ∈ moments, engine.refusal? moment.entry = none := by
  rcases Nat.eq_zero_or_pos desk.depth with idle | busy
  · rw [Desk.enter_of_idle path idle, Desk.journal_note, Desk.clear, Desk.journal_note,
      List.append_assoc]
    refine ⟨_, rfl, ?_⟩
    simp [refusal?]
  · rw [Desk.enter_of_pos path busy, Desk.journal_note]
    refine ⟨_, rfl, ?_⟩
    simp [refusal?]

/-- A render of a file ends with the first error of a command. The induction is on the levels. -/
theorem execute_heeding (levels : Nat) (path : Path) (context : Fields) (buffer : String) :
    engine.heeding.holds (engine.execute levels path context buffer)
      (engine.execute levels path context buffer) := by
  induction levels generalizing path context buffer with
  | zero => exact engine.heeding.fail _
  | succ levels ih =>
    intro desk
    by_cases room : desk.depth < engine.maxDepth
    · obtain ⟨opening, opened, none⟩ := engine.exists_journal_enter path desk
      obtain ⟨moments, journal, heeds⟩ :=
        (engine.hosts_heeding ih).ofPage (engine.page path buffer) context (desk.enter path)
      have heeds := Heeds.append (.of_none none : engine.Heeds (.ok ()) opening) heeds
      rw [opened, List.append_assoc] at journal
      rw [eval_execute_of_room room]
      exact heeds.leave journal path
    · rw [eval_execute_of_full (by omega)]
      exact Heeds.idle _ desk

theorem perform_heeding (request : Request) :
    engine.heeding.holds (engine.perform request) (engine.perform request) := by
  cases request with
  | render name context => exact engine.bonded_renderBy (engine.execute_heeding _) name context
  | renderFile path context => exact engine.execute_heeding _ path context ""
  | renderLayout path context buffer => exact engine.execute_heeding _ path context buffer
  | put name content => exact fun desk => Heeds.idle _ desk
  | clear => exact fun desk => Heeds.idle _ desk

/-! ## Files of one call -/

section
variable {engine}

theorem tagsPlan_skip {path : Path} {locals : Locals} {text : List Char} {offset cursor : Nat}
    {tag : Tag} {tags : List Tag} (behind : tag.start < cursor) :
    tagsPlan path locals text offset cursor (tag :: tags) =
      tagsPlan path locals text offset cursor tags := by
  rw [tagsPlan, if_pos behind]

theorem tagsPlan_block {path : Path} {locals : Locals} {text args inner : List Char}
    {offset cursor : Nat} {tag close : Tag} {tags : List Tag} {block : BlockKind}
    (ahead : cursor ≤ tag.start) (plain : tag.isEscaped = false)
    (kind : tag.kind = .opening block args)
    (found : findBlockEnd block (text.drop tag.stop) = some close)
    (inside : (text.drop tag.stop).take close.start = inner) :
    tagsPlan path locals text offset cursor (tag :: tags) = (do
      let shown ← .start (.block path locals (offset + tag.line) block args inner)
      let after ← tagsPlan path locals text offset (tag.stop + close.stop) tags
      pure (lead text cursor tag ++ shown ++ after)) := by
  rw [tagsPlan, if_neg (Nat.not_lt.mpr ahead), if_neg (by simp [plain])]
  simp only [kind, found, inside]

theorem tagsPlan_expression {path : Path} {locals : Locals} {text source : List Char}
    {offset cursor : Nat} {tag : Tag} {tags : List Tag} (ahead : cursor ≤ tag.start)
    (plain : tag.isEscaped = false) (kind : tag.kind = .expression source) :
    tagsPlan path locals text offset cursor (tag :: tags) = (do
      let shown ← shownPlan path locals (offset + tag.line) source
      let after ← tagsPlan path locals text offset tag.stop tags
      pure (lead text cursor tag ++ shown ++ after)) := by
  rw [tagsPlan, if_neg (Nat.not_lt.mpr ahead), if_neg (by simp [plain])]
  simp only [kind]

theorem Starts.does {place : Place} {α : Type} {plan : Plan place α} {state : place.State}
    {frame : Frame} (starts : engine.Starts plan state frame) {deed : Deed}
    (does : engine.Does (engine.plan frame.job) frame.state deed) :
    engine.Does plan state deed := by
  induction starts with
  | start job state => exact .start does
  | first _ ih => exact .first (ih does)
  | next ends _ ih => exact .next ends (ih does)
  | outside _ ih => exact .outside (ih does)
  | ofPage _ ih => exact .ofPage (ih does)
  | onError _ ih => exact .onError (ih does)
  | ensure _ ih => exact .ensure (ih does)

theorem Starts.after {place : Place} {α β : Type} {first : Plan place α} {next : α → Plan place β}
    {state after : place.State} {frame : Frame} (value : α)
    (h : (first.run engine.run).eval state = (.ok value, after))
    (starts : engine.Starts (next value) after frame) :
    engine.Starts (first >>= next) state frame := by
  have ends := engine.ends_run first state
  rw [h] at ends
  exact .next ends starts

theorem Reaches.does {caller callee : Frame} (reaches : engine.Reaches caller callee) {deed : Deed}
    (does : engine.Does (engine.plan callee.job) callee.state deed) :
    engine.Does (engine.plan caller.job) caller.state deed := by
  induction reaches with
  | refl => exact does
  | tail _ starts ih => exact ih (starts.does does)

/-- The text of a file is executed on the page of the file, after the first event of the page. -/
theorem reaches_text {path : Path} {source : String} (read : engine.disk.read path = .ok source)
    (context : Fields) (buffer : String) {desk : Desk} (room : desk.depth < engine.maxDepth) :
    let page : Page := { engine.page path buffer with context }
    engine.Reaches ⟨.file path context buffer, desk⟩ ⟨.text path [] source.toList 0,
      ⟨page, (desk.enter path).note (.fired ⟨.prerender, page⟩)⟩⟩ := by
  intro page
  let session : Session Desk := ⟨page, (desk.enter path).note (.fired ⟨.prerender, page⟩)⟩
  have taken : (Desk.takeLevel engine.maxDepth path).eval desk = (.ok (), desk.enter path) := by
    have fits : ¬ engine.maxDepth < desk.depth + 1 := by omega
    rw [Desk.takeLevel, Run.eval_of, if_neg fits]
  have file : engine.Starts (engine.plan (.file path context buffer)) desk
      ⟨.page context, ⟨engine.page path buffer, desk.enter path⟩⟩ :=
    .after _ taken (.ensure (.ofPage (.start _ _)))
  have body : engine.Starts engine.bodyPlan session ⟨.text path [] source.toList 0, session⟩ := by
    apply Starts.after path rfl
    simp only [read]
    exact .first (.start _ _)
  have text : engine.Starts (engine.plan (.page context)) ⟨engine.page path buffer, desk.enter path⟩
      ⟨.text path [] source.toList 0, session⟩ :=
    .after _ rfl (.after _ rfl (.first (.onError body)))
  exact .tail (.single file) text

theorem reaches_call {path : Path} {name arg : String} {line : Nat} {session : Session Desk} :
    engine.Reaches ⟨.expression path [] line (.call name [.literal (.text arg)]), session⟩
      ⟨.call name [.text arg], session⟩ :=
  .single (.after _ rfl (.start _ _))

theorem OneCall.reaches {path : Path} {name arg : String} (one : engine.OneCall path name arg)
    (context : Fields) (buffer : String) {desk : Desk} (room : desk.depth < engine.maxDepth) :
    let page : Page := { engine.page path buffer with context }
    engine.Reaches ⟨.file path context buffer, desk⟩ ⟨.call name [.text arg],
      ⟨page, (desk.enter path).note (.fired ⟨.prerender, page⟩)⟩⟩ := by
  intro page
  obtain ⟨content, source, read, proper, kind, call⟩ := one
  let session : Session Desk := ⟨page, (desk.enter path).note (.fired ⟨.prerender, page⟩)⟩
  have text := reaches_text read context buffer room
  rw [String.toList_ofList] at text
  have tags : scan (Piece.mk [] content).text = [(Piece.mk [] content).tag 0 1] := by
    have noTag : Untagged [] := by simp [Untagged]
    have scanned := scan_joined (List.forall_mem_singleton.mpr proper) noTag
    rwa [joined_cons, joined, List.append_nil] at scanned
  have tag : ((Piece.mk [] content).tag 0 1).kind = .expression source := kind
  have expression : ∃ line, engine.Starts
      (engine.plan (.text path [] (Piece.mk [] content).text 0)) session
      ⟨.expression path [] line (.call name [.literal (.text arg)]), session⟩ := by
    rw [plan, tags, tagsPlan_expression (Nat.zero_le _) rfl tag, shownPlan, sourcePlan, call]
    exact ⟨_, .first (.first (.start _ _))⟩
  obtain ⟨line, expression⟩ := expression
  exact (text.tail expression).trans reaches_call

theorem OneCall.does {path : Path} {name arg : String} (one : engine.OneCall path name arg)
    {context : Fields} {buffer : String} {desk : Desk} (room : desk.depth < engine.maxDepth)
    {deed : Deed}
    (does : let page : Page := { engine.page path buffer with context }
      engine.Does (engine.callPlan name [.text arg])
        ⟨page, (desk.enter path).note (.fired ⟨.prerender, page⟩)⟩ deed) :
    engine.Does (.start (.file path context buffer)) desk deed :=
  .start ((one.reaches context buffer room).does does)

end

/-- An engine with a helper that always fails, and two files: the first one inserts the second one,
and that calls the helper. -/
def hoarse : Engine where
  disk := ⟨.folder [
    ("a.tpl", .file (some "\x7b\x7binsert('b')\x7d\x7d")),
    ("b.tpl", .file (some "\x7b\x7bshout('x')\x7d\x7d"))], []⟩
  finder := ⟨[""], ["tpl"]⟩
  commands := (Commands.empty true).addHelper "shout" fun _ =>
    .error (.helperFailed "shout" "hoarse")
  alias? := none
  maxDepth := 2

def shout : Deed where
  place := .page
  plan := .step (Session.outside (hoarse.stepHost.run "shout" [.text "x"]))
  state :=
    let page := hoarse.page "a.tpl" ""
    let next := hoarse.page "b.tpl" ""
    let before := (Desk.empty.enter "a.tpl").note (.fired ⟨.prerender, page⟩)
    let inserted := before.note (.fired ⟨.prepartial "b" [], page⟩)
    ⟨next, (inserted.enter "b.tpl").note (.fired ⟨.prerender, next⟩)⟩

theorem does_shout :
    hoarse.Does (hoarse.requestPlan (.renderFile "a.tpl" [])) Desk.empty shout := by
  have found : hoarse.find "b" = some "b.tpl" := by decide +kernel
  have inserts : hoarse.OneCall "a.tpl" "insert" "b" :=
    ⟨"insert('b')".toList, "insert('b')".toList, rfl, by unfold Piece.Proper; decide, by cbv,
      by cbv⟩
  have shouts : hoarse.OneCall "b.tpl" "shout" "x" :=
    ⟨"shout('x')".toList, "shout('x')".toList, rfl, by unfold Piece.Proper; decide, by cbv,
      by cbv⟩
  have insert : Operation.ofName? "insert" = some .insert := by decide
  have helper : Operation.ofName? "shout" = none := by decide
  apply inserts.does (by decide)
  apply Does.after "insert" rfl
  rw [insert]
  refine .after _ rfl (.after _ rfl (.first (.start (.after _ rfl (.first (.outside ?_))))))
  rw [namedPlan, found]
  apply shouts.does (by decide)
  apply Does.after "shout" rfl
  rw [helper]
  exact .whole _ _

/-! ## Requests -/

/-- If anything that is done for a request fails, whatever it is and however deep, then the request
ends with the same error, and after the failure nothing is done but to close files: the sections
stay as they are, and nothing else is added to the journal. The request fails only if one of the
steps that are done for it does. When a helper or a filter answers with an error, that is the error
of the request and the last entry of the journal but for closed files. -/
theorem failure_ends_request (request : Request) (desk : Desk) :
    let ended := (engine.perform request).eval desk
    (∀ (deed : Deed) (error : Error) (failed : deed.place.State),
      engine.Does (engine.requestPlan request) desk deed →
      engine.outcome deed = (.error error, failed) →
      ended.1 = .error error ∧ (Place.world failed).Closes ended.2) ∧
    (∀ error, ended.1 = .error error → engine.FailsBy (engine.requestPlan request) desk error) ∧
    ∃ moments, ended.2.journal = desk.journal ++ moments ∧ engine.Heeds ended.1 moments := by
  intro ended
  refine ⟨?_, ?_, engine.perform_heeding request desk⟩
  · intro deed error failed does fails
    obtain ⟨after, same, closes⟩ := does.fails (engine.tidy_requestPlan request) fails
    rw [run_requestPlan] at same
    rw [show ended = (.error error, after) from same]
    exact ⟨rfl, closes⟩
  · intro error fails
    have ends := engine.ends_run (engine.requestPlan request) desk
    rw [run_requestPlan] at ends
    exact ends.failsBy fails

theorem failure_ends_request_hoarse :
    let ended := (hoarse.perform (.renderFile "a.tpl" [])).eval Desk.empty
    ended.1 = .error (.helperFailed "shout" "hoarse") ∧
      (Place.world (hoarse.outcome shout).2).Closes ended.2 ∧
      hoarse.FailsBy (hoarse.requestPlan (.renderFile "a.tpl" [])) Desk.empty
        (.helperFailed "shout" "hoarse") := by
  intro ended
  obtain ⟨ends, step, -⟩ := failure_ends_request hoarse (.renderFile "a.tpl" []) Desk.empty
  obtain ⟨same, closes⟩ := ends shout _ _ does_shout rfl
  exact ⟨same, closes, step _ same⟩

end Engine

end Folio
