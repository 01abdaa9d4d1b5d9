import Folio.Proofs.Engine.Jobs

/-!
# Every render ends

A plan ends if it has a derivation, in which every job that is started ends in its turn. Nothing in
the rules bounds how deep derivations are. But every job that a job starts is smaller: on a deeper
level, of which there are `maxDepth`, or in a shorter text, or in a smaller expression.

* `Engine.Ends.eval`: a plan that ends does so with what the engine answers;
* `Engine.Starts.smaller`: every job that a job starts is smaller;
* `Engine.requests_end`: every request ends, whatever the files and the context are.
-/

namespace Folio

open Body

abbrev Place.Outcome (place : Place) (α : Type) := Except Error α × place.State

namespace Engine

variable (engine : Engine)

/-- How a plan ends: with a result or an error, in a state. A job ends as its plan does. -/
inductive Ends :
    {place : Place} → {α : Type} → Plan place α → place.State → place.Outcome α → Prop
  | step {place : Place} {α : Type} (run : Run place.State α) (state : place.State) :
      Ends (.step run) state (run.eval state)
  | start {place : Place} {α : Type} {job : Job place α} {state : place.State}
      {outcome : place.Outcome α} :
      Ends (engine.plan job) state outcome → Ends (.start job) state outcome
  | next {place : Place} {α β : Type} {first : Plan place α} {next : α → Plan place β}
      {state after : place.State} {value : α} {outcome : place.Outcome β} :
      Ends first state (.ok value, after) → Ends (next value) after outcome →
      Ends (.bind first next) state outcome
  | broken {place : Place} {α β : Type} {first : Plan place α} {next : α → Plan place β}
      {state after : place.State} {error : Error} :
      Ends first state (.error error, after) → Ends (.bind first next) state (.error error, after)
  | outside {α : Type} {plan : Plan .desk α} {session : Session Desk} {result : Except Error α}
      {world : Desk} :
      Ends plan session.world (result, world) →
      Ends (.outside plan) session (result, { session with world })
  | ofPage {α : Type} {plan : Plan .page α} {page : Page} {world : Desk}
      {result : Except Error α} {session : Session Desk} :
      Ends plan ⟨page, world⟩ (result, session) →
      Ends (.ofPage page plan) world (result, session.world)
  | fine {place : Place} {α : Type} {plan : Plan place α} {cleanup : place.State → place.State}
      {state after : place.State} {value : α} :
      Ends plan state (.ok value, after) → Ends (.onError plan cleanup) state (.ok value, after)
  | cleaned {place : Place} {α : Type} {plan : Plan place α} {cleanup : place.State → place.State}
      {state after : place.State} {error : Error} :
      Ends plan state (.error error, after) →
      Ends (.onError plan cleanup) state (.error error, cleanup after)
  | ensure {place : Place} {α : Type} {plan : Plan place α} {cleanup : place.State → place.State}
      {state after : place.State} {result : Except Error α} :
      Ends plan state (result, after) → Ends (.ensure plan cleanup) state (result, cleanup after)

variable {engine}

/-- A plan ends in one way, which is what the engine answers. -/
theorem Ends.eval {place : Place} {α : Type} {plan : Plan place α} {state : place.State}
    {outcome : place.Outcome α} (ends : engine.Ends plan state outcome) :
    (plan.run engine.run).eval state = outcome := by
  induction ends with
  | step run state => rfl
  | @start _ _ job _ _ _ ih => rwa [run_plan] at ih
  | next _ _ ih ih' =>
    rw [Plan.run, Run.eval_bind, ih]
    exact ih'
  | broken _ ih => rw [Plan.run, Run.eval_bind, ih]
  | outside _ ih => rw [Plan.run, Session.outside, Run.within_apply, ih]
  | ofPage _ ih => rw [Plan.run, Session.ofPage, Run.eval_of, ih]
  | fine _ ih => rw [Plan.run, Run.onError, Run.eval_of, ih]
  | cleaned _ ih => rw [Plan.run, Run.onError, Run.eval_of, ih]
  | ensure _ ih => rw [Plan.run, Run.ensure, Run.eval_of, ih]

end Engine

structure Frame where
  {place : Place}
  {α : Type}
  job : Job place α
  state : place.State

namespace Engine

variable (engine : Engine)

/-- The jobs that a plan starts itself, each with the state in which it is started. -/
inductive Starts :
    {place : Place} → {α : Type} → Plan place α → place.State → Frame → Prop
  | start {place : Place} {α : Type} (job : Job place α) (state : place.State) :
      Starts (.start job) state ⟨job, state⟩
  | first {place : Place} {α β : Type} {first : Plan place α} {next : α → Plan place β}
      {state : place.State} {frame : Frame} :
      Starts first state frame → Starts (.bind first next) state frame
  | next {place : Place} {α β : Type} {first : Plan place α} {next : α → Plan place β}
      {state after : place.State} {value : α} {frame : Frame} :
      engine.Ends first state (.ok value, after) → Starts (next value) after frame →
      Starts (.bind first next) state frame
  | outside {α : Type} {plan : Plan .desk α} {session : Session Desk} {frame : Frame} :
      Starts plan session.world frame → Starts (.outside plan) session frame
  | ofPage {α : Type} {plan : Plan .page α} {page : Page} {world : Desk} {frame : Frame} :
      Starts plan ⟨page, world⟩ frame → Starts (.ofPage page plan) world frame
  | onError {place : Place} {α : Type} {plan : Plan place α}
      {cleanup : place.State → place.State} {state : place.State} {frame : Frame} :
      Starts plan state frame → Starts (.onError plan cleanup) state frame
  | ensure {place : Place} {α : Type} {plan : Plan place α}
      {cleanup : place.State → place.State} {state : place.State} {frame : Frame} :
      Starts plan state frame → Starts (.ensure plan cleanup) state frame

def Reaches : Frame → Frame → Prop :=
  Relation.ReflTransGen fun caller callee =>
    engine.Starts (engine.plan caller.job) caller.state callee

variable {engine}

/-- A plan ends if all jobs that it starts end. The induction is on the plan. -/
theorem ends_of_starts {place : Place} {α : Type} (plan : Plan place α) (state : place.State)
    (h : ∀ frame, engine.Starts plan state frame →
      ∃ outcome, engine.Ends (engine.plan frame.job) frame.state outcome) :
    ∃ outcome, engine.Ends plan state outcome := by
  induction plan with
  | step run => exact ⟨_, .step run state⟩
  | start job =>
    obtain ⟨outcome, ends⟩ := h _ (.start job state)
    exact ⟨outcome, .start ends⟩
  | bind first next ih ih' =>
    obtain ⟨⟨error | value, after⟩, ends⟩ := ih state fun frame starts => h frame (.first starts)
    · exact ⟨_, .broken ends⟩
    · obtain ⟨outcome, ends'⟩ := ih' value after fun frame starts => h frame (.next ends starts)
      exact ⟨outcome, .next ends ends'⟩
  | outside plan ih =>
    obtain ⟨⟨result, world⟩, ends⟩ := ih state.world fun frame starts => h frame (.outside starts)
    exact ⟨_, .outside ends⟩
  | ofPage page plan ih =>
    obtain ⟨⟨result, session⟩, ends⟩ := ih ⟨page, state⟩ fun frame starts =>
      h frame (.ofPage starts)
    exact ⟨_, .ofPage ends⟩
  | onError plan cleanup ih =>
    obtain ⟨⟨error | value, after⟩, ends⟩ := ih state fun frame starts => h frame (.onError starts)
    · exact ⟨_, .cleaned ends⟩
    · exact ⟨_, .fine ends⟩
  | ensure plan cleanup ih =>
    obtain ⟨⟨result, after⟩, ends⟩ := ih state fun frame starts => h frame (.ensure starts)
    exact ⟨_, .ensure ends⟩

/-! ## No job changes how many files are open -/

end Engine

def Desk.balanced : Bond Desk Desk where
  holds run _ := ∀ desk, (run.eval desk).2.depth = desk.depth
  pure _ _ := rfl
  fail _ _ := rfl
  bind := by
    intro α β run _ next _ first second desk
    rw [Run.eval_bind]
    have depth := first desk
    generalize run.eval desk = ended at depth ⊢
    obtain ⟨error | value, after⟩ := ended
    · exact depth
    · exact (second value after).trans depth

theorem Desk.balanced_sessions {α : Type} {run : Run (Session Desk) α}
    (h : Desk.balanced.sessions.holds run run) (session : Session Desk) :
    (run.eval session).2.world.depth = session.world.depth := by
  have depth := h session.page session.world
  rw [Session.carry, Run.eval_of] at depth
  generalize run.eval session = ended at depth ⊢
  obtain ⟨error | value, after⟩ := ended <;> exact depth

namespace Engine

variable (engine : Engine)

/-- A page opens and closes no file but those that it renders. -/
theorem hosts_balanced {execute : Execute}
    (nested : ∀ path context buffer,
      Desk.balanced.holds (execute path context buffer) (execute path context buffer)) :
    Desk.balanced.Hosts (engine.host execute) (engine.host execute) where
  disk := rfl
  seek _ _ := rfl
  fire _ _ := rfl
  collected _ _ _ := rfl
  declare name content desk := by
    rw [Host.eval_declare]
    simp only [host]
    cases desk.sections.get? name <;> rfl
  supply _ _ _ := rfl
  render := engine.bonded_renderBy nested
  renderLayout := nested
  run name args := by
    apply Desk.balanced.bind (fun _ => rfl)
    exact fun _ => Desk.balanced.ofExcept _
  filter name value args := by
    apply Desk.balanced.bind (fun _ => rfl)
    exact fun _ => Desk.balanced.ofExcept _

theorem balanced_hosts (levels : Nat) :
    Desk.balanced.Hosts (engine.host (engine.execute levels))
      (engine.host (engine.execute levels)) :=
  engine.hosts_balanced (engine.depth_execute levels)

variable {engine} in
/-- A body leaves as many files open as it finds, if the files that it renders do. -/
theorem depth_of_collect {execute : Execute} {page : Page} {desk : Desk}
    {result : Except Error String} {ended : Session Desk}
    (nested : ∀ path context buffer,
      Desk.balanced.holds (execute path context buffer) (execute path context buffer))
    (h : (Page.collect (engine.host execute)).eval ⟨page, desk⟩ = (result, ended)) :
    ended.world.depth = desk.depth := by
  have depth := Desk.balanced_sessions (engine.hosts_balanced nested).calls.collect ⟨page, desk⟩
  rwa [h] at depth

theorem balanced_scopes (levels : Nat) (locals : Locals) :
    Desk.balanced.sessions.Scopes
      ((Page.scope (engine.host (engine.execute levels))).bindAll locals)
      ((Page.scope (engine.host (engine.execute levels))).bindAll locals) :=
  (engine.balanced_hosts levels).calls.scopes.bindAll locals

end Engine

def Place.world : {place : Place} → place.State → Desk
  | .desk, state => state
  | .page, state => state.world

def Frame.depth (frame : Frame) : Nat :=
  (Place.world frame.state).depth

/-- How many calls to render a file a job is: a file is one, all other jobs are parts of one. -/
def Job.calls : {place : Place} → {α : Type} → Job place α → Nat
  | _, _, .file _ _ _ => 1
  | _, _, _ => 0

namespace Engine

variable (engine : Engine)

theorem depth_run {place : Place} {α : Type} (job : Job place α) (state : place.State) :
    (Place.world ((engine.run job).eval state).2).depth = (Place.world state).depth := by
  have hosts : Desk.balanced.Hosts engine.pageHost engine.pageHost :=
    engine.balanced_hosts (engine.maxDepth + 1)
  have scopes (locals : Locals) :
      Desk.balanced.sessions.Scopes ((Page.scope engine.pageHost).bindAll locals)
        ((Page.scope engine.pageHost).bindAll locals) :=
    engine.balanced_scopes (engine.maxDepth + 1) locals
  cases job with
  | file path context buffer => exact engine.depth_execute _ path context buffer state
  | page context => exact Desk.balanced_sessions (hosts.page_render context) state
  | text path locals text offset =>
    exact Desk.balanced_sessions
      (Bond.runTags (scopes locals) path text offset 0 (scan text)) state
  | block path locals line block args inner =>
    have texts {left right : Scope (Session Desk)}
        (scopes : Desk.balanced.sessions.Scopes left right) :
        Desk.balanced.sessions.holds (runText path inner (line - 1) left)
          (runText path inner (line - 1) right) :=
      Bond.runTags scopes path inner (line - 1) 0 (scan inner)
    exact Desk.balanced_sessions (Bond.runBlock (scopes locals) path line texts args block) state
  | expression path locals line expr =>
    exact Desk.balanced_sessions (Bond.evaluate (scopes locals) path line expr) state
  | call name args => exact Desk.balanced_sessions (hosts.calls.dispatch name args) state
  | insert name context => exact Desk.balanced_sessions (hosts.insert name context) state

/-! ## Every job that is started is smaller -/

end Engine

/-- What is left of a job on its level: the text of a page, then the text of a block, then the
expression, in which calls and partials come last. -/
noncomputable def Job.left : {place : Place} → {α : Type} → Job place α → Nat × Nat
  | _, _, .page _ => (2, 0)
  | _, _, .text _ _ source _ => (1, 2 * source.length)
  | _, _, .block _ _ _ _ _ inner => (1, 2 * inner.length + 1)
  | _, _, .expression _ _ _ expr => (0, 3 + sizeOf expr)
  | _, _, .call _ _ => (0, 2)
  | _, _, .insert _ _ => (0, 1)
  | _, _, .file _ _ _ => (0, 0)

abbrev LessLeft : Nat × Nat → Nat × Nat → Prop := Prod.Lex (· < ·) (· < ·)

namespace Engine

variable (engine : Engine)

/-- How many more files may be opened in a job, and what is left of the job on its level. -/
noncomputable def measure (frame : Frame) : Nat × Nat × Nat :=
  (engine.maxDepth - frame.depth, frame.job.left)

def Smaller (frame other : Frame) : Prop :=
  Prod.Lex (· < ·) LessLeft (engine.measure frame) (engine.measure other)

theorem smaller_wellFounded : WellFounded engine.Smaller :=
  InvImage.wf engine.measure
    (Prod.lex Nat.lt_wfRel (Prod.lex Nat.lt_wfRel Nat.lt_wfRel)).wf

/-- A plan of a page that stays on its level and starts jobs of which less is left than `bound`. -/
def Within {α : Type} (bound : Nat × Nat) (plan : Plan .page α) : Prop :=
  ∀ session,
    (∀ outcome, engine.Ends plan session outcome →
      outcome.2.world.depth = session.world.depth) ∧
    ∀ frame, engine.Starts plan session frame →
      frame.depth = session.world.depth ∧ LessLeft frame.job.left bound

namespace Within

variable {engine} {bound : Nat × Nat} {α β : Type}

theorem step {run : Run (Session Desk) α} (h : Desk.balanced.sessions.holds run run) :
    engine.Within bound (.step run) := by
  intro session
  constructor
  · intro outcome ends
    rw [← ends.eval]
    exact Desk.balanced_sessions h session
  · intro frame starts
    cases starts

theorem start {job : Job .page α} (h : LessLeft job.left bound) :
    engine.Within bound (.start job) := by
  intro session
  constructor
  · intro outcome ends
    rw [← ends.eval]
    exact engine.depth_run job session
  · intro frame starts
    cases starts
    exact ⟨rfl, h⟩

theorem bind {first : Plan .page α} {next : α → Plan .page β}
    (h : engine.Within bound first) (h' : ∀ value, engine.Within bound (next value)) :
    engine.Within bound (first >>= next) := by
  intro session
  constructor
  · intro outcome ends
    cases ends with
    | next ends ends' => exact ((h' _ _).1 _ ends').trans ((h session).1 _ ends)
    | broken ends => exact (h session).1 _ ends
  · intro frame starts
    cases starts with
    | first starts => exact (h session).2 frame starts
    | next ends starts =>
      obtain ⟨depth, less⟩ := (h' _ _).2 frame starts
      exact ⟨depth.trans ((h session).1 _ ends), less⟩

theorem pure (value : α) : engine.Within bound (pure value : Plan .page α) :=
  step (Desk.balanced.sessions.pure value)

theorem each {plan : β → Plan .page α} {items : List β}
    (h : ∀ item ∈ items, engine.Within bound (plan item)) :
    engine.Within bound (.each plan items) := by
  induction items with
  | nil => exact pure []
  | cons item items ih =>
    obtain ⟨first, rest⟩ := List.forall_mem_cons.mp h
    apply bind first
    intro value
    apply bind (ih rest)
    intro values
    exact pure (value :: values)

theorem onError {plan : Plan .page α} {cleanup : Session Desk → Session Desk}
    (h : engine.Within bound plan) (world : ∀ session, (cleanup session).world = session.world) :
    engine.Within bound (.onError plan cleanup) := by
  intro session
  constructor
  · intro outcome ends
    cases ends with
    | fine ends => exact (h session).1 _ ends
    | cleaned ends => exact (congrArg Desk.depth (world _)).trans ((h session).1 _ ends)
  · intro frame starts
    cases starts with
    | onError starts => exact (h session).2 frame starts

theorem outside_step {run : Run Desk α} (h : Desk.balanced.holds run run) :
    engine.Within bound (.outside (.step run)) := by
  intro session
  constructor
  · intro outcome ends
    rw [← ends.eval]
    exact h session.world
  · intro frame starts
    cases starts with
    | outside starts => cases starts

theorem outside_file (path : Path) (context : Fields) (buffer : String)
    (h : LessLeft (0, 0) bound) :
    engine.Within bound (.outside (.start (.file path context buffer))) := by
  intro session
  constructor
  · intro outcome ends
    rw [← ends.eval]
    exact engine.depth_run (.file path context buffer) session.world
  · intro frame starts
    cases starts with
    | outside starts =>
      cases starts
      exact ⟨rfl, h⟩

end Within

section
variable {bound : Nat × Nat} (path : Path) (locals : Locals) (line : Nat)

theorem within_sourcePlan (source : List Char) (n : Nat) :
    engine.Within (1, n) (sourcePlan path locals line source) := by
  unfold sourcePlan
  cases Expr.read source with
  | error error => exact .step (Desk.balanced.sessions.fail _)
  | ok expr => exact .start (Prod.Lex.left _ _ Nat.zero_lt_one)

theorem within_shownPlan (source : List Char) (n : Nat) :
    engine.Within (1, n) (shownPlan path locals line source) := by
  apply Within.bind (engine.within_sourcePlan path locals line source n)
  intro value
  cases value with
  | list items => exact .step (Desk.balanced.sessions.fail _)
  | object fields => exact .step (Desk.balanced.sessions.fail _)
  | _ => exact .step (Desk.balanced.sessions.pure _)

/-- The text of a block is shorter than the text that the block stands in. -/
theorem within_tagsPlan (text : List Char) (offset cursor : Nat) (tags : List Tag) :
    engine.Within (1, 2 * text.length) (tagsPlan path locals text offset cursor tags) := by
  induction tags generalizing cursor with
  | nil =>
    rw [tagsPlan]
    unfold trailing
    dsimp only
    split
    · exact .step (Desk.balanced.sessions.fail _)
    · exact .step (Desk.balanced.sessions.pure _)
  | cons tag tags ih =>
    rw [tagsPlan]
    split
    · exact ih cursor
    split
    · exact .bind (ih tag.stop) fun _ => .pure _
    cases tag.kind with
    | expression source =>
      apply Within.bind (engine.within_shownPlan path locals _ source _)
      intro shown
      exact .bind (ih tag.stop) fun _ => .pure _
    | closing keyword => exact .step (Desk.balanced.sessions.fail _)
    | opening block args =>
      dsimp only
      split
      · exact .step (Desk.balanced.sessions.fail _)
      · rename_i close found
        have shorter := length_inner_lt found
        have less : LessLeft (1, 2 * ((text.drop tag.stop).take close.start).length + 1)
            (1, 2 * text.length) := Prod.Lex.right _ (by omega)
        apply Within.bind
        · exact .start less
        intro shown
        exact .bind (ih (tag.stop + close.stop)) fun _ => .pure _

theorem within_blockPlan (block : BlockKind) (args inner : List Char) :
    engine.Within (1, 2 * inner.length + 1)
      (engine.blockPlan path locals line args inner block) := by
  have text (locals : Locals) : engine.Within (1, 2 * inner.length + 1)
      (.start (.text path locals inner (line - 1))) :=
    .start (Prod.Lex.right _ (Nat.lt_succ_self _))
  cases block with
  | each =>
    unfold blockPlan
    cases eachArgs? args with
    | none => exact .step (Desk.balanced.sessions.fail _)
    | some names =>
      obtain ⟨key, name⟩ := names
      apply Within.bind (.step (Bond.loopItems (engine.balanced_scopes 0 locals) path line key))
      intro items
      exact .bind (.each fun item _ => text ((name, item) :: locals)) fun _ => .pure _
  | capture =>
    apply Within.bind
    · apply Within.bind (engine.within_sourcePlan path locals line args _)
      intro value
      cases value with
      | text name => exact .pure name
      | _ => exact .step (Desk.balanced.sessions.fail _)
    intro name
    apply Within.bind (text locals)
    intro content
    have declare := (engine.balanced_hosts 0).calls.declare name (String.ofList content)
    exact .bind (.step declare) fun _ => .pure _

theorem within_expressionPlan (expr : Expr) :
    engine.Within (0, 3 + sizeOf expr) (engine.expressionPlan path locals line expr) := by
  have part {item : Expr} (smaller : sizeOf item < sizeOf expr) :
      engine.Within (0, 3 + sizeOf expr) (.start (.expression path locals line item)) :=
    .start (Prod.Lex.right _ (Nat.add_lt_add_left smaller 3))
  have step : engine.Within (0, 3 + sizeOf expr)
      (.step (evaluate path line ((Page.scope engine.stepHost).bindAll locals) expr)) :=
    .step (Bond.evaluate (engine.balanced_scopes 0 locals) path line expr)
  cases expr with
  | literal value => exact step
  | key key => exact step
  | list items =>
    refine .bind (.each fun item member => part ?_) fun _ => .pure _
    have smaller := List.sizeOf_lt_of_mem member
    simp only [Expr.list.sizeOf_spec]
    omega
  | object fields =>
    refine .bind (.each fun field member => .bind (part ?_) fun _ => .pure _) fun _ => .pure _
    have smaller := List.sizeOf_lt_of_mem member
    obtain ⟨name, item⟩ := field
    simp only [Expr.object.sizeOf_spec, Prod.mk.sizeOf_spec] at smaller ⊢
    omega
  | call name args =>
    refine .bind (.each fun item member => part ?_) fun values =>
      .start (Prod.Lex.right _ (Nat.lt_of_lt_of_le (Nat.lt_succ_self 2) (Nat.le_add_right 3 _)))
    have smaller := List.sizeOf_lt_of_mem member
    simp only [Expr.call.sizeOf_spec]
    omega

end

theorem within_operationPlan (operation : Operation) (args : List Value) :
    engine.Within (0, 2) (engine.operationPlan operation args) := by
  have hosts := engine.balanced_hosts 0
  have insert (name : String) (context : Fields) :
      engine.Within (0, 2) (.start (.insert name context)) :=
    .start (Prod.Lex.right _ (Nat.lt_succ_self 1))
  have checked {α : Type} (result : Except Error α) :
      engine.Within (0, 2) (.step (Run.ofExcept result)) :=
    .step (Desk.balanced.sessions.ofExcept result)
  cases operation with
  | insert =>
    apply Within.bind (checked _)
    intro name
    apply Within.bind (checked _)
    intro context
    exact .bind (insert name context) fun _ => .pure _
  | insertIf =>
    apply Within.bind (checked _)
    intro name
    apply Within.bind (checked _)
    intro context
    apply Within.bind
    · apply Within.bind (.step (Bond.sessions_outside (hosts.seek name)))
      rintro (_ | path)
      · exact .pure ""
      · exact insert name context
    · intro rendered
      exact .pure _
  | _ => exact .step (hosts.calls.operations.operate _ args)

theorem within_callPlan (name : String) (args : List Value) :
    engine.Within (0, 2) (engine.callPlan name args) := by
  have hosts := engine.balanced_hosts 0
  apply Within.bind (.step (hosts.calls.look fun page => Page.callName page name))
  intro name
  cases Operation.ofName? name with
  | none => exact .step (hosts.calls.run name args)
  | some operation => exact engine.within_operationPlan operation args

theorem within_insertPlan (name : String) (context : Fields) :
    engine.Within (0, 1) (engine.insertPlan name context) := by
  have hosts := engine.balanced_hosts 0
  apply Within.bind (.step (hosts.sessions_fire (.prepartial name context)))
  intro _
  apply Within.bind
  · unfold namedPlan
    cases engine.find name with
    | none => exact .outside_step (Desk.balanced.fail _)
    | some path => exact .outside_file path context "" (Prod.Lex.right _ Nat.zero_lt_one)
  intro rendered
  exact .bind (.step (hosts.sessions_fire .afterpartial)) fun _ => .pure _

theorem within_bodyPlan : engine.Within (2, 0) engine.bodyPlan := by
  apply Within.bind (.step (Desk.balanced.sessions_look Page.path))
  intro path
  cases engine.disk.read path with
  | error error => exact .step (Desk.balanced.sessions.fail _)
  | ok source =>
    exact .bind (.start (Prod.Lex.left _ _ (Nat.lt_succ_self 1))) fun _ => .pure _

theorem within_pagePlan (context : Fields) : engine.Within (2, 0) (engine.pagePlan context) := by
  have hosts := engine.balanced_hosts 0
  apply Within.bind (.step (Desk.balanced.sessions_updatePage _))
  intro _
  apply Within.bind (.step (hosts.sessions_fire .prerender))
  intro _
  apply Within.bind
  · exact engine.within_bodyPlan.onError fun _ => rfl
  intro body
  apply Within.bind (.step (Desk.balanced.sessions_look id))
  intro page
  apply Within.bind
  · apply Within.step
    intro session
    rw [Session.carry_note]
    exact Desk.balanced.map _ (hosts.collected page body)
  intro _
  apply Within.bind (.step (Desk.balanced.sessions_updatePage _))
  intro _
  apply Within.bind
  · cases page.layout? with
    | none => exact .pure body
    | some path =>
      apply Within.bind (.step (hosts.sessions_fire (.layout path)))
      intro _
      apply Within.bind (.outside_file path context body (Prod.Lex.left _ _ Nat.zero_lt_two))
      intro rendered
      exact .bind (.step (hosts.sessions_fire (.renderlayout path))) fun _ => .pure _
  intro output
  exact .bind (.step (hosts.sessions_fire .rendered)) fun _ => .pure _

/-! ## Every job ends -/

variable {engine}

/-- A file starts its page with one more file open, for which there has been room. Any other job
starts jobs with as many files open, of which less is left. -/
theorem Starts.level {caller callee : Frame}
    (starts : engine.Starts (engine.plan caller.job) caller.state callee) :
    (callee.depth = caller.depth + 1 ∧ caller.depth < engine.maxDepth ∧ caller.job.calls = 1) ∨
      callee.depth = caller.depth ∧ LessLeft callee.job.left caller.job.left ∧
        caller.job.calls = 0 := by
  obtain ⟨job, state⟩ := caller
  have sameLevel {α : Type} {job : Job .page α} {session : Session Desk}
      (within : engine.Within job.left (engine.plan job)) (none : job.calls = 0)
      (starts : engine.Starts (engine.plan job) session callee) :
      callee.depth = session.world.depth ∧ LessLeft callee.job.left job.left ∧ job.calls = 0 := by
    obtain ⟨depth, less⟩ := (within session).2 callee starts
    exact ⟨depth, less, none⟩
  cases job with
  | file path context buffer =>
    cases starts with
    | first starts => cases starts
    | @next _ _ _ _ _ _ after _ _ opened starts =>
      cases starts with
      | ensure starts =>
        cases starts with
        | ofPage starts =>
          cases starts
          have taken : (Desk.takeLevel engine.maxDepth path).eval state = _ := opened.eval
          simp only [Desk.takeLevel, Run.eval_of] at taken
          split at taken
          · cases taken
          · cases taken
            have room : Frame.depth ⟨.file path context buffer, state⟩ < engine.maxDepth := by
              simp only [Frame.depth, Place.world]
              omega
            exact .inl ⟨Desk.depth_enter state path, room, rfl⟩
  | page context => exact .inr (sameLevel (engine.within_pagePlan context) rfl starts)
  | text path locals text offset =>
    exact .inr (sameLevel (engine.within_tagsPlan path locals text offset 0 (scan text)) rfl starts)
  | block path locals line block args inner =>
    exact .inr
      (sameLevel (engine.within_blockPlan path locals line block args inner) rfl starts)
  | expression path locals line expr =>
    exact .inr (sameLevel (engine.within_expressionPlan path locals line expr) rfl starts)
  | call name args => exact .inr (sameLevel (engine.within_callPlan name args) rfl starts)
  | insert name context => exact .inr (sameLevel (engine.within_insertPlan name context) rfl starts)

/-- Every job that a job starts is smaller. -/
theorem Starts.smaller {caller callee : Frame}
    (starts : engine.Starts (engine.plan caller.job) caller.state callee) :
    engine.Smaller callee caller := by
  unfold Smaller measure
  rcases starts.level with ⟨deeper, room, -⟩ | ⟨level, less, -⟩
  · apply Prod.Lex.left
    omega
  · rw [level]
    exact Prod.Lex.right _ less

variable (engine)

/-- Every job ends, and does so with what the engine answers. The induction is on the order of
jobs. -/
theorem plan_ends (frame : Frame) :
    engine.Ends (engine.plan frame.job) frame.state
      ((engine.run frame.job).eval frame.state) := by
  have ends : ∃ outcome, engine.Ends (engine.plan frame.job) frame.state outcome := by
    induction frame using engine.smaller_wellFounded.induction with
    | _ frame ih => exact ends_of_starts _ _ fun callee starts => ih callee starts.smaller
  obtain ⟨outcome, ends⟩ := ends
  have answer := ends.eval
  rw [run_plan] at answer
  rwa [answer]

def requestPlan : Request → Plan .desk String
  | .render name context => engine.namedPlan name context
  | .renderFile path context => .start (.file path context "")
  | .renderLayout path context buffer => .start (.file path context buffer)
  | request => .step (engine.perform request)

theorem run_requestPlan (request : Request) :
    (engine.requestPlan request).run engine.run = engine.perform request := by
  cases request with
  | render name context => exact engine.run_namedPlan name context
  | _ => rfl

/-- Every request ends, whatever the files, the context and the number of open files are. A job
only starts jobs that are smaller: more files are open in them, or as many and less is left of the
text or the expression. No job is smaller than another one without end, so every job ends, and
every request does, in exactly one way, which is what the engine answers. -/
theorem requests_end :
    WellFounded engine.Smaller ∧
      (∀ caller callee : Frame,
        engine.Starts (engine.plan caller.job) caller.state callee →
          engine.Smaller callee caller) ∧
      (∀ frame : Frame, engine.Ends (engine.plan frame.job) frame.state
        ((engine.run frame.job).eval frame.state)) ∧
      ∀ (request : Request) (desk : Desk) (outcome : Except Error String × Desk),
        engine.Ends (engine.requestPlan request) desk outcome ↔
          outcome = (engine.perform request).eval desk := by
  refine ⟨engine.smaller_wellFounded, fun _ _ => Starts.smaller, engine.plan_ends, ?_⟩
  intro request desk outcome
  constructor
  · intro ends
    rw [← ends.eval, run_requestPlan]
  · rintro rfl
    obtain ⟨outcome, ends⟩ := ends_of_starts (engine.requestPlan request) desk
      fun frame _ => ⟨_, engine.plan_ends frame⟩
    have answer := ends.eval
    rw [run_requestPlan] at answer
    rwa [answer]

end Engine

end Folio
