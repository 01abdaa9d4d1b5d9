import Folio.Proofs.Engine.Failures
import Folio.Proofs.Engine.Limits
import Mathlib

/-! A strict engine refuses the names of helpers and filters that nobody has registered; a lenient
one goes on with null. Up to the first such name their renders are the same, and a lenient engine
never refuses a name by itself. -/

namespace Folio

open Body

def Error.IsUnknown : Error → Prop
  | .helperNotFound _ => True
  | .filterNotFound _ => True
  | _ => False

namespace Engine

def withStrict (engine : Engine) (strict : Bool) : Engine :=
  { engine with commands := { engine.commands with strict } }

theorem looser_withStrict (engine : Engine) :
    Looser Error.IsUnknown (engine.withStrict true) (engine.withStrict false) where
  disk := rfl
  finder := rfl
  called := rfl
  run name args := by
    have same (strict : Bool) :
        (engine.withStrict strict).commands.helper? name = engine.commands.helper? name := rfl
    cases found : engine.commands.helper? name with
    | some helper =>
      rw [Commands.run_of_lookup ((same true).trans found),
        Commands.run_of_lookup ((same false).trans found)]
      exact .inl rfl
    | none =>
      rw [Commands.run_unknown ((same true).trans found)]
      exact .inr ⟨.helperNotFound name, rfl, trivial⟩
  filter name value args := by
    unfold Commands.filter
    have same (strict : Bool) :
        (engine.withStrict strict).commands.filter? name = engine.commands.filter? name := rfl
    rw [same, same]
    cases engine.commands.filter? name with
    | some filter => exact .inl rfl
    | none => exact .inr ⟨.filterNotFound name, rfl, trivial⟩
  limit := Nat.le_refl _
  deep := .inl rfl

/-! ## Where an error about an unknown name comes from -/

variable {engine : Engine}

/-- A part of a render has led from one desk to another. If it has ended with an error about an
unknown name, it has run a command that answers with that error. -/
def Blamed (engine : Engine) {α : Type} (desk : Desk) (result : Except Error α) (after : Desk) :
    Prop :=
  ∃ moments, after.journal = desk.journal ++ moments ∧
    ∀ error, result = .error error → error.IsUnknown →
      ∃ moment ∈ moments, engine.refusal? moment.entry = some error

namespace Blamed

variable {α β : Type} {desk after last : Desk} {result : Except Error α}

theorem ok {value : α} {moments : List Moment} (journal : after.journal = desk.journal ++ moments) :
    engine.Blamed desk (.ok value) after :=
  ⟨moments, journal, by rintro _ ⟨⟩⟩

theorem still (value : α) : engine.Blamed desk (.ok value) desk :=
  ok (List.append_nil _).symm

theorem refuse {error : Error} (known : ¬ error.IsUnknown) :
    engine.Blamed desk (.error error : Except Error α) desk := by
  refine ⟨[], (List.append_nil _).symm, ?_⟩
  rintro _ ⟨rfl⟩ unknown
  exact absurd unknown known

theorem error {error : Error} (h : engine.Blamed desk (.error error : Except Error α) after) :
    engine.Blamed desk (.error error : Except Error β) after := by
  obtain ⟨moments, journal, blames⟩ := h
  refine ⟨moments, journal, ?_⟩
  rintro _ ⟨rfl⟩ unknown
  exact blames error rfl unknown

theorem append {value : β} (h : engine.Blamed desk (.ok value) after)
    (h' : engine.Blamed after result last) : engine.Blamed desk result last := by
  obtain ⟨moments, journal, -⟩ := h
  obtain ⟨more, journal', blames⟩ := h'
  refine ⟨moments ++ more, by rw [journal', journal, List.append_assoc], ?_⟩
  intro error ends unknown
  obtain ⟨moment, member, refused⟩ := blames error ends unknown
  exact ⟨moment, List.mem_append_right _ member, refused⟩

theorem close (h : engine.Blamed desk result after) (closes : after.Closes last) :
    engine.Blamed desk result last := by
  obtain ⟨moments, journal, blames⟩ := h
  obtain ⟨closings, journal', -⟩ := closes.journal
  refine ⟨moments ++ closings, by rw [journal', journal, List.append_assoc], ?_⟩
  intro error ends unknown
  obtain ⟨moment, member, refused⟩ := blames error ends unknown
  exact ⟨moment, List.mem_append_left _ member, refused⟩

end Blamed

def Blames (engine : Engine) (place : Place) {α : Type} (run : Run place.State α) : Prop :=
  ∀ state, engine.Blamed (Place.world state) (run.eval state).1 (Place.world (run.eval state).2)

namespace Blames

variable {place : Place} {α β : Type}

theorem pure (value : α) : engine.Blames place (pure value) :=
  fun _ => .still value

theorem fail {error : Error} (known : ¬ error.IsUnknown) :
    engine.Blames place (Run.fail error : Run place.State α) :=
  fun _ => .refuse known

theorem look (f : place.State → α) : engine.Blames place (Run.look f) :=
  fun _ => .still _

theorem bind {first : Run place.State α} {next : α → Run place.State β}
    (h : engine.Blames place first) (h' : ∀ value, engine.Blames place (next value)) :
    engine.Blames place (first >>= next) := by
  intro state
  have blamed := h state
  rw [Run.eval_bind]
  generalize first.eval state = ended at blamed ⊢
  obtain ⟨error | value, after⟩ := ended
  · exact blamed.error
  · exact blamed.append (h' value after)

theorem note (entry : Entry) :
    engine.Blames .desk (Run.update fun desk => desk.note entry) :=
  fun desk => .ok (Desk.journal_note desk entry)

theorem command {entry : Entry} {result : Except Error α}
    (h : ∀ error, result = .error error → engine.refusal? entry = some error) :
    engine.Blames .desk (do
      Run.update fun desk => desk.note entry
      Run.ofExcept result) := by
  intro desk
  refine ⟨_, Desk.journal_note desk entry, ?_⟩
  intro error ends _
  exact ⟨_, List.mem_singleton_self _, h error ends⟩

theorem outside {run : Run Desk α} (h : engine.Blames .desk run) :
    engine.Blames .page (Session.outside run) :=
  fun session => h session.world

theorem updatePage (f : Page → Page) : engine.Blames .page (Session.updatePage f) :=
  fun _ => .still ()

end Blames

end Engine

/-- The steps of a plan that fail because of an unknown name run a command that answers so. -/
def Plan.Blames (engine : Engine) : {place : Place} → {α : Type} → Plan place α → Prop
  | place, _, .step run => engine.Blames place run
  | _, _, .start _ => True
  | _, _, .bind first next => first.Blames engine ∧ ∀ value, (next value).Blames engine
  | _, _, .outside plan => plan.Blames engine
  | _, _, .ofPage _ plan => plan.Blames engine
  | _, _, .onError plan _ => plan.Blames engine
  | _, _, .ensure plan _ => plan.Blames engine

namespace Plan

variable {engine : Engine} {place : Place} {α β : Type}

@[simp] theorem blames_step (run : Run place.State α) :
    (step run).Blames engine ↔ engine.Blames place run := Iff.rfl

@[simp] theorem blames_start (job : Job place α) : (start job).Blames engine := trivial

@[simp] theorem blames_pure (value : α) : (pure value : Plan place α).Blames engine :=
  Engine.Blames.pure value

@[simp] theorem blames_bind (first : Plan place α) (next : α → Plan place β) :
    (first >>= next).Blames engine ↔
      first.Blames engine ∧ ∀ value, (next value).Blames engine := Iff.rfl

@[simp] theorem blames_outside (plan : Plan .desk α) :
    (outside plan).Blames engine ↔ plan.Blames engine := Iff.rfl

theorem blames_each {plan : α → Plan place β} (h : ∀ item, (plan item).Blames engine)
    (items : List α) : (each plan items).Blames engine := by
  induction items with
  | nil => exact blames_pure []
  | cons item items ih => simp [each, h, ih]

end Plan

namespace Engine

variable {engine : Engine}

/-! ### The steps -/

section
variable {α : Type} (path : Path) (locals : Locals) (line : Nat)

@[simp] theorem blames_malformed (fault : BodyFault) :
    engine.Blames .page (malformed path line fault : Run (Session Desk) α) :=
  .fail id

@[simp] theorem blames_output (source : List Char) (value : Value) :
    engine.Blames .page (output path source value : Run (Session Desk) (List Char)) := by
  cases value with
  | list items => exact .fail id
  | object fields => exact .fail id
  | _ => exact .pure _

@[simp] theorem blames_trailing (text : List Char) (offset cursor : Nat) :
    engine.Blames .page (trailing path text offset cursor : Run (Session Desk) (List Char)) := by
  unfold trailing
  dsimp only
  split
  · exact .fail id
  · exact .pure _

theorem blames_ask (key : String) :
    engine.Blames .page (((Page.scope engine.stepHost).bindAll locals).ask key) := by
  induction locals with
  | nil =>
    exact (fun _ => .still _ : engine.Blames .page
      ((Page.scope engine.stepHost).ask key : Run (Session Desk) (Option Value)))
  | cons bound outer ih =>
    rw [Scope.bindAll, Scope.ask_bind]
    split
    · exact ih
    · split
      · exact .pure _
      · exact ih

theorem blames_loopItems (key : String) :
    let items : Run (Session Desk) (List Value) :=
      loopItems path line ((Page.scope engine.stepHost).bindAll locals) key
    engine.Blames .page items := by
  apply Blames.bind (blames_ask locals key)
  rintro (_ | value)
  · exact .fail id
  · cases value with
    | list items => exact .pure items
    | _ => exact .fail id

theorem blames_declare (name content : String) :
    engine.Blames .page (Page.declareSection engine.stepHost name content) := by
  apply Blames.outside
  intro desk
  rw [Host.eval_declare]
  simp only [stepHost, host]
  cases desk.sections.get? name with
  | some kept => exact .ok (Desk.journal_note _ _)
  | none =>
    have stored := Desk.journal_note { desk with sections := desk.sections.put name content }
      (.stored name content)
    have journal := Desk.journal_note (desk.store name content)
      (.remarked (.captured name content content))
    rw [Desk.store, stored, List.append_assoc] at journal
    exact .ok journal

theorem blames_seek (name : String) :
    engine.Blames .page (Session.find engine.stepHost name) :=
  .outside fun _ => .still _

theorem blames_fire (stage : Stage) : engine.Blames .page (Session.fire engine.stepHost stage) :=
  fun _ => .ok (Desk.journal_note _ _)

theorem blames_textArg (operation : Operation) (args : List Value) (position : Nat) :
    engine.Blames .page
      (Run.ofExcept (Page.textArg operation args position) : Run (Session Desk) String) := by
  unfold Page.textArg
  split
  · exact .pure _
  all_goals exact .fail id

theorem blames_contextArg (operation : Operation) (args : List Value) (position : Nat) :
    engine.Blames .page
      (Run.ofExcept (Page.contextArg operation args position) : Run (Session Desk) Fields) := by
  unfold Page.contextArg
  split
  · exact .pure _
  · exact .pure _
  · exact .fail id

theorem blames_stagesArg (operation : Operation) (args : List Value) (position : Nat) :
    engine.Blames .page
      (Run.ofExcept (Page.stagesArg operation args position) :
        Run (Session Desk) (List (List Value))) := by
  unfold Page.stagesArg
  split
  · exact .pure _
  · exact .pure _
  · exact .fail id

theorem blames_run (name : String) (args : List Value) :
    engine.Blames .page (Session.outside (engine.stepHost.run name args)) :=
  .outside (.command fun error ends => by rw [refusal?, ends]; rfl)

theorem blames_runStages (value : Value) (stages : List String) (args : List (List Value)) :
    engine.Blames .desk (Page.runStages engine.stepHost value stages args) := by
  induction stages generalizing value args with
  | nil => exact .pure value
  | cons stage stages ih =>
    simp only [Page.runStages]
    split
    · exact ih value args.tail
    · apply Blames.bind
      · exact .command fun error ends => by rw [refusal?, ends]; rfl
      intro filtered
      cases filtered with
      | null => exact ih value args.tail
      | _ => exact ih _ args.tail

theorem blames_operate {operation : Operation} (args : List Value)
    (alone : operation ≠ .insert ∧ operation ≠ .insertIf) :
    engine.Blames .page (Page.operate engine.stepHost operation args) := by
  cases operation with
  | insert => exact absurd rfl alone.1
  | insertIf => exact absurd rfl alone.2
  | filter =>
    apply Blames.bind (blames_textArg _ args 0)
    intro pipeline
    apply Blames.bind (blames_stagesArg _ args 2)
    intro stages
    exact .outside (blames_runStages _ _ stages)
  | layout =>
    apply Blames.bind (blames_textArg _ args 0)
    intro name
    apply Blames.bind
    · apply Blames.bind (blames_seek name)
      rintro (_ | path)
      · exact .fail id
      · exact .updatePage _
    intro _
    exact .pure _
  | supply =>
    apply Blames.bind (blames_textArg _ args 0)
    intro name
    apply Blames.bind
    · apply Blames.bind (.look _)
      intro own
      exact .outside fun _ => .ok (Desk.journal_note _ _)
    intro content
    exact .pure _
  | get =>
    apply Blames.bind (blames_textArg _ args 0)
    intro key
    exact .look _
  | lastBuffer => exact .look _
  | data => exact .look _

theorem blames_takeLevel (limit : Nat) :
    engine.Blames .desk (Desk.takeLevel limit path) := by
  intro desk
  rw [Desk.takeLevel, Run.eval_of]
  split
  · exact .refuse id
  · obtain ⟨moments, journal, -⟩ := engine.exists_journal_enter path desk
    exact .ok journal

/-! ### The plans -/

theorem blames_sourcePlan (source : List Char) :
    (sourcePlan path locals line source).Blames engine := by
  unfold sourcePlan
  split <;> simp

theorem blames_tagsPlan (text : List Char) (offset cursor : Nat) (tags : List Tag) :
    (tagsPlan path locals text offset cursor tags).Blames engine := by
  induction tags generalizing cursor with
  | nil => simp [tagsPlan]
  | cons tag tags ih =>
    rw [tagsPlan]
    split
    · exact ih cursor
    split
    · simp [ih]
    cases tag.kind with
    | expression source => simp [shownPlan, blames_sourcePlan, ih]
    | closing keyword => simp
    | opening block args =>
      dsimp only
      split <;> simp [ih]

theorem blames_blockPlan (block : BlockKind) (args inner : List Char) :
    (engine.blockPlan path locals line args inner block).Blames engine := by
  cases block with
  | each =>
    unfold blockPlan
    cases eachArgs? args with
    | none => simp
    | some names => simp [blames_loopItems, Plan.blames_each]
  | capture =>
    have name : (sectionPlan path locals line args).Blames engine := by
      simp only [sectionPlan, Plan.blames_bind, blames_sourcePlan, true_and]
      rintro (_ | _) <;> simp
    simp [blockPlan, name, blames_declare]

theorem blames_expressionPlan (expr : Expr) :
    (engine.expressionPlan path locals line expr).Blames engine := by
  cases expr with
  | literal value =>
    rw [expressionPlan, Plan.blames_step, evaluate]
    · exact .pure value
    all_goals simp
  | key key =>
    rw [expressionPlan, Plan.blames_step, evaluate]
    · apply Blames.bind (blames_ask locals key)
      rintro (_ | value)
      · exact .fail id
      · exact .pure value
    all_goals simp
  | _ => simp [expressionPlan, Plan.blames_each]

end

theorem blames_namedPlan (name : String) (context : Fields) :
    (engine.namedPlan name context).Blames engine := by
  unfold namedPlan
  split
  · exact Blames.fail id
  · simp

theorem blames_insertPlan (name : String) (context : Fields) :
    (engine.insertPlan name context).Blames engine := by
  simp [insertPlan, blames_fire, blames_namedPlan]

theorem blames_operationPlan (operation : Operation) (args : List Value) :
    (engine.operationPlan operation args).Blames engine := by
  cases operation with
  | insert => simp [operationPlan, blames_textArg, blames_contextArg]
  | insertIf =>
    have partialPlan (name : String) (context : Fields) :
        (engine.insertIfPlan name context).Blames engine := by
      simp only [insertIfPlan, Plan.blames_bind, Plan.blames_step, blames_seek, true_and]
      rintro (_ | _) <;> simp
    simp [operationPlan, blames_textArg, blames_contextArg, partialPlan]
  | _ => exact blames_operate args (by decide)

theorem blames_callPlan (name : String) (args : List Value) :
    (engine.callPlan name args).Blames engine := by
  simp only [callPlan, Plan.blames_bind, Plan.blames_step]
  refine ⟨.look _, ?_⟩
  intro name
  cases Operation.ofName? name with
  | none => exact blames_run name args
  | some operation => exact blames_operationPlan operation args

theorem blames_pagePlan (context : Fields) : (engine.pagePlan context).Blames engine := by
  have body : engine.bodyPlan.Blames engine := by
    simp only [bodyPlan, Plan.blames_bind, Plan.blames_step]
    refine ⟨.look _, ?_⟩
    intro path
    cases engine.disk.read path with
    | error error => exact Blames.fail id
    | ok source => simp
  have wrap (text : String) (layout? : Option Path) :
      (engine.wrapPlan context text layout?).Blames engine := by
    cases layout? <;> simp [wrapPlan, blames_fire]
  have remark (page : Page) (text : String) :
      engine.Blames .page (Session.note engine.stepHost (.collected page text)) :=
    fun _ => .ok (Desk.journal_note _ _)
  have look : engine.Blames .page (Run.look Session.page) := .look _
  have collect (cleanup : Session Desk → Session Desk) :
      (Plan.onError engine.bodyPlan cleanup).Blames engine := body
  simp [pagePlan, Blames.updatePage, blames_fire, collect, look, remark, wrap]

/-- The steps of every job run a command that answers with an error about an unknown name, if they
fail with one. -/
theorem blames_plan {place : Place} {α : Type} (job : Job place α) :
    (engine.plan job).Blames engine := by
  cases job with
  | file path context buffer => exact ⟨blames_takeLevel path _, fun _ => trivial⟩
  | page context => exact blames_pagePlan context
  | text path locals text offset => exact blames_tagsPlan path locals text offset 0 (scan text)
  | block path locals line block args inner =>
    exact blames_blockPlan path locals line block args inner
  | expression path locals line expr => exact blames_expressionPlan path locals line expr
  | call name args => exact blames_callPlan name args
  | insert name context => exact blames_insertPlan name context

theorem blames_requestPlan (request : Request) : (engine.requestPlan request).Blames engine := by
  cases request with
  | render name context => exact blames_namedPlan name context
  | put name content => exact fun _ => .still _
  | clear => exact fun _ => .still _
  | _ => trivial

/-! ### What a plan ends with -/

/-- If a plan ends with an error about an unknown name, a command has answered with it. The
induction is on how the plan ends. -/
theorem Ends.blamed {place : Place} {α : Type} {plan : Plan place α} {state : place.State}
    {outcome : place.Outcome α} (ends : engine.Ends plan state outcome)
    (steps : plan.Blames engine) (tidy : plan.Tidy) :
    engine.Blamed (Place.world state) outcome.1 (Place.world outcome.2) := by
  induction ends with
  | step run state => exact steps state
  | @start _ _ job _ _ _ ih => exact ih (blames_plan job) (engine.tidy_plan job)
  | next _ _ ih ih' => exact (ih steps.1 tidy.1).append (ih' (steps.2 _) (tidy.2 _))
  | broken _ ih => exact (ih steps.1 tidy.1).error
  | outside _ ih => exact ih steps tidy
  | ofPage _ ih => exact ih steps tidy
  | fine _ ih => exact ih steps tidy.1
  | @cleaned _ _ _ _ _ after _ _ ih => exact (ih steps tidy.1).close (tidy.2 after)
  | @ensure _ _ _ _ _ after _ _ ih => exact (ih steps tidy.1).close (tidy.2 after)

theorem blamed_perform (request : Request) (desk : Desk) :
    let ended := (engine.perform request).eval desk
    engine.Blamed desk ended.1 ended.2 := by
  intro ended
  have ends := engine.ends_run (engine.requestPlan request) desk
  rw [run_requestPlan] at ends
  exact ends.blamed (blames_requestPlan request) (engine.tidy_requestPlan request)

/-! ## Requests to a strict and to a lenient engine -/

/-- A command is registered under the name that the entry tells of, and answers with the error. -/
def Answers (engine : Engine) (error : Error) : Entry → Prop
  | .ran name args =>
    ∃ helper, engine.commands.helper? name = some helper ∧ helper args = .error error
  | .filtered name value args =>
    ∃ filter, engine.commands.filter? name = some filter ∧ filter value args = .error error
  | _ => False

/-- In a lenient engine every error of a command is one that a registered command answers with. -/
theorem answers_of_refusal? {entry : Entry} {error : Error}
    (h : (engine.withStrict false).refusal? entry = some error) : engine.Answers error entry := by
  cases entry with
  | ran name args =>
    have failed := eq_of_failure? h
    cases found : (engine.withStrict false).commands.helper? name with
    | some helper =>
      rw [Commands.run_of_lookup found] at failed
      exact ⟨helper, found, failed⟩
    | none =>
      rw [Commands.run_unknown found] at failed
      cases failed
  | filtered name value args =>
    have failed := eq_of_failure? h
    unfold Commands.filter at failed
    split at failed
    · rename_i filter found
      exact ⟨filter, found, failed⟩
    · cases failed
  | _ => cases h

variable (engine) in
/-- Being strict only adds errors. What a request to a strict engine ends with, other than with an
error about an unknown name, a request to a lenient one ends with as well: the same output or error,
the same journal and the same sections. A request to a lenient engine ends with an error about an
unknown name only if it has run a registered command that answers with that error. -/
theorem strict_only_refuses (request : Request) (desk : Desk) :
    let strict := ((engine.withStrict true).perform request).eval desk
    let lenient := ((engine.withStrict false).perform request).eval desk
    (∀ output, strict.1 = .ok output → lenient = strict) ∧
    (∀ error, strict.1 = .error error → ¬ error.IsUnknown → lenient = strict) ∧
    ∃ moments, lenient.2.journal = desk.journal ++ moments ∧
      ∀ error, lenient.1 = .error error → error.IsUnknown →
        ∃ moment ∈ moments, engine.Answers error moment.entry := by
  intro strict lenient
  have alike : EndAlike (· = ·) Error.IsUnknown strict lenient :=
    engine.looser_withStrict.perform request desk desk rfl
  refine ⟨?_, ?_, ?_⟩
  · intro output rendered
    apply alike.eq_of_not_excused
    intro error failed
    cases rendered.symm.trans failed
  · intro error failed known
    apply alike.eq_of_not_excused
    intro error' failed'
    cases failed.symm.trans failed'
    exact known
  · obtain ⟨moments, journal, blames⟩ :=
      (blamed_perform request desk : (engine.withStrict false).Blamed desk lenient.1 lenient.2)
    refine ⟨moments, journal, ?_⟩
    intro error failed unknown
    obtain ⟨moment, member, refused⟩ := blames error failed unknown
    exact ⟨moment, member, answers_of_refusal? refused⟩

/-- Three files are rendered by a lenient engine as by a strict one, and a helper that fails ends
the render of both. -/
theorem strict_only_refuses_hoarse :
    (((threeFiles 3).withStrict false).perform (.renderFile "a.tpl" [])).eval Desk.empty =
      (((threeFiles 3).withStrict true).perform (.renderFile "a.tpl" [])).eval Desk.empty ∧
    ((hoarse.withStrict false).perform (.renderFile "a.tpl" [])).eval Desk.empty =
      ((hoarse.withStrict true).perform (.renderFile "a.tpl" [])).eval Desk.empty := by
  constructor
  · have chained : (threeFiles 3).Chained "a.tpl" [] 3 :=
      .insert (inserts_threeFiles 3) (.layout (leaves_threeFiles 3) (.last (last_threeFiles 3)))
    obtain ⟨output, rendered⟩ := (chained.takes "" Desk.empty).fits (by decide)
    exact (strict_only_refuses (threeFiles 3) _ _).1 output rendered
  · have same : hoarse.withStrict true = hoarse := rfl
    obtain ⟨after, failed, -⟩ := does_shout.fails (hoarse.tidy_requestPlan _) rfl
    rw [run_requestPlan, ← same] at failed
    exact (strict_only_refuses hoarse _ _).2.1 _ (congrArg Prod.fst failed) id

end Engine

end Folio
