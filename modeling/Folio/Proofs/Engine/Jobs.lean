import Folio.Engine.Request
import Folio.Proofs.Body.Rescan
import Folio.Proofs.Engine.Coupling

/-! A render is a number of jobs that start one another: rendering a file, rendering a page,
executing a text, a block or an expression, a call, a partial. What a job does is a plan, in which
other jobs stand by their names alone, so that nothing in a plan bounds how deep jobs are nested. -/

namespace Folio

open Body

/-! ## Every file is rendered in the same way -/

namespace Engine

variable (engine : Engine)

/-- The host of the pages of the engine, whatever the number of open files is. -/
def pageHost : Host Desk := engine.host engine.executeOutermost

variable {engine} {path : Path} {context : Fields} {buffer : String} {desk : Desk}

theorem eval_outermost_of_full (full : engine.maxDepth ≤ desk.depth) :
    (engine.executeOutermost path context buffer).eval desk =
      (.error (.tooDeep path engine.maxDepth), desk) :=
  eval_execute_of_full (Nat.lt_succ_of_le full)

/-- A file that is opened is rendered as a page, of which the host is the same for all files. -/
theorem eval_outermost_of_room (room : desk.depth < engine.maxDepth) :
    (engine.executeOutermost path context buffer).eval desk =
      let inner := (Session.ofPage (engine.page path buffer)
        (Page.render engine.pageHost context)).eval (desk.enter path)
      (inner.1, inner.2.leave path) := by
  have enough : engine.maxDepth < (desk.enter path).depth + engine.maxDepth := by
    rw [Desk.depth_enter]
    omega
  have enough' : engine.maxDepth < (desk.enter path).depth + (engine.maxDepth + 1) := by omega
  rw [executeOutermost, eval_execute_of_room room, engine.page_eq_of_levels enough enough']
  rfl

end Engine

/-! ## Plans -/

/-- The variables that the loops around a text bind, the innermost first. -/
abbrev Locals := List (String × Value)

def Scope.bindAll {σ : Type} (scope : Scope σ) : Locals → Scope σ
  | [] => scope
  | (name, item) :: outer => (scope.bindAll outer).bind name item

@[simp] theorem Scope.invoke_bindAll {σ : Type} (scope : Scope σ) (locals : Locals) :
    (scope.bindAll locals).invoke = scope.invoke := by
  induction locals with
  | nil => rfl
  | cons bound outer ih => exact ih

@[simp] theorem Scope.declare_bindAll {σ : Type} (scope : Scope σ) (locals : Locals) :
    (scope.bindAll locals).declare = scope.declare := by
  induction locals with
  | nil => rfl
  | cons bound outer ih => exact ih

theorem Bond.Scopes.bindAll {σ τ : Type} {bond : Bond σ τ} {left : Scope σ} {right : Scope τ}
    (scopes : bond.Scopes left right) (locals : Locals) :
    bond.Scopes (left.bindAll locals) (right.bindAll locals) := by
  induction locals with
  | nil => exact scopes
  | cons bound outer ih => exact ih.bind bound.1 bound.2

/-- Where a part of a render is done: at the desk, or on a page, which is laid on the desk. -/
inductive Place where
  | desk
  | page

abbrev Place.State : Place → Type
  | .desk => Desk
  | .page => Session Desk

/-- A part of a render, with the place where it is done and the type of its result. -/
inductive Job : Place → Type → Type
  | file (path : Path) (context : Fields) (buffer : String) : Job .desk String
  | page (context : Fields) : Job .page String
  /-- A text that follows `offset` lines of its file. -/
  | text (path : Path) (locals : Locals) (text : List Char) (offset : Nat) :
      Job .page (List Char)
  | block (path : Path) (locals : Locals) (line : Nat) (block : BlockKind)
      (args inner : List Char) : Job .page (List Char)
  | expression (path : Path) (locals : Locals) (line : Nat) (expr : Expr) : Job .page Value
  | call (name : String) (args : List Value) : Job .page Value
  | insert (name : String) (context : Fields) : Job .page String

/-- What a job does: steps that start no job, and other jobs, one after the other. -/
inductive Plan : Place → Type → Type 1
  | step {place : Place} {α : Type} (run : Run place.State α) : Plan place α
  | start {place : Place} {α : Type} (job : Job place α) : Plan place α
  | bind {place : Place} {α β : Type} (first : Plan place α) (next : α → Plan place β) :
      Plan place β
  | outside {α : Type} (plan : Plan .desk α) : Plan .page α
  | ofPage {α : Type} (page : Page) (plan : Plan .page α) : Plan .desk α
  | onError {place : Place} {α : Type} (plan : Plan place α)
      (cleanup : place.State → place.State) : Plan place α
  | ensure {place : Place} {α : Type} (plan : Plan place α)
      (cleanup : place.State → place.State) : Plan place α

namespace Plan

instance (place : Place) : Monad (Plan place) where
  pure value := .step (pure value)
  bind := .bind

variable {place : Place} {α β : Type}

def each (plan : α → Plan place β) : List α → Plan place (List β)
  | [] => pure []
  | item :: items => do
    let value ← plan item
    let values ← each plan items
    pure (value :: values)

/-- What a plan does if `answer` is what the jobs do. -/
def run (answer : {place : Place} → {α : Type} → Job place α → Run place.State α) :
    {place : Place} → {α : Type} → Plan place α → Run place.State α
  | _, _, .step run => run
  | _, _, .start job => answer job
  | _, _, .bind first next => first.run answer >>= fun value => (next value).run answer
  | _, _, .outside plan => Session.outside (plan.run answer)
  | _, _, .ofPage page plan => Session.ofPage page (plan.run answer)
  | _, _, .onError plan cleanup => Run.onError (plan.run answer) cleanup
  | _, _, .ensure plan cleanup => Run.ensure (plan.run answer) cleanup

variable {answer : {place : Place} → {α : Type} → Job place α → Run place.State α}

theorem run_bind {first : Plan place α} {next : α → Plan place β} {run : Run place.State α}
    {next' : α → Run place.State β} (h : first.run answer = run)
    (h' : ∀ value, (next value).run answer = next' value) :
    (first >>= next).run answer = run >>= next' := by
  subst h
  exact congrArg (first.run answer >>= ·) (funext h')

theorem run_step (run : Run place.State α) : (step run).run answer = run := rfl

theorem run_outside {plan : Plan .desk α} {run : Run Desk α} (h : plan.run answer = run) :
    (outside plan).run answer = Session.outside run :=
  congrArg Session.outside h

theorem run_onError {plan : Plan place α} {run : Run place.State α} (h : plan.run answer = run)
    (cleanup : place.State → place.State) :
    (onError plan cleanup).run answer = Run.onError run cleanup :=
  congrArg (Run.onError · cleanup) h

theorem run_each {plan : α → Plan place β} {next : α → Run place.State β}
    (h : ∀ item, (plan item).run answer = next item) (items : List α) :
    (each plan items).run answer = items.mapM next := by
  induction items with
  | nil => rfl
  | cons item items ih =>
    rw [List.mapM_cons]
    exact run_bind (h item) fun value => run_bind ih fun values => rfl

end Plan

namespace Engine

variable (engine : Engine)

/-- The host of the steps of a page. It renders no file. -/
def stepHost : Host Desk := engine.host (engine.execute 0)

def sourcePlan (path : Path) (locals : Locals) (line : Nat) (source : List Char) :
    Plan .page Value :=
  match Expr.read source with
  | .error error => .step (malformed path line (.expression error))
  | .ok expr => .start (.expression path locals line expr)

def shownPlan (path : Path) (locals : Locals) (line : Nat) (source : List Char) :
    Plan .page (List Char) := do
  let value ← sourcePlan path locals line source
  .step (output path source value)

def tagsPlan (path : Path) (locals : Locals) (text : List Char) (offset cursor : Nat) :
    List Tag → Plan .page (List Char)
  | [] => .step (trailing path text offset cursor)
  | tag :: tags =>
    if tag.start < cursor then tagsPlan path locals text offset cursor tags
    else if tag.isEscaped then do
      let after ← tagsPlan path locals text offset tag.stop tags
      pure (lead text cursor tag ++ text.extract tag.start tag.stop ++ after)
    else
      let line := offset + tag.line
      match tag.kind with
      | .expression source => do
        let shown ← shownPlan path locals line source
        let after ← tagsPlan path locals text offset tag.stop tags
        pure (lead text cursor tag ++ shown ++ after)
      | .closing keyword => .step (malformed path line (.strayClosing keyword))
      | .opening block args =>
        match findBlockEnd block (text.drop tag.stop) with
        | none => .step (malformed path line (.openBlock block))
        | some close => do
          let inner := (text.drop tag.stop).take close.start
          let shown ← .start (.block path locals line block args inner)
          let after ← tagsPlan path locals text offset (tag.stop + close.stop) tags
          pure (lead text cursor tag ++ shown ++ after)

def sectionPlan (path : Path) (locals : Locals) (line : Nat) (source : List Char) :
    Plan .page String := do
  match ← sourcePlan path locals line source with
  | .text name => pure name
  | value => .step (malformed path line (.sectionName value))

def blockPlan (path : Path) (locals : Locals) (line : Nat) (args inner : List Char) :
    BlockKind → Plan .page (List Char)
  | .each =>
    match eachArgs? args with
    | none => .step (malformed path line (.eachArgs (String.ofList args)))
    | some (key, name) => do
      let scope := (Page.scope engine.stepHost).bindAll locals
      let items ← .step (loopItems path line scope key)
      let shown ← Plan.each
        (fun item => .start (.text path ((name, item) :: locals) inner (line - 1))) items
      pure shown.flatten
  | .capture => do
    let name ← sectionPlan path locals line args
    let content ← .start (.text path locals inner (line - 1))
    let shown ← .step (Page.declareSection engine.stepHost name (String.ofList content))
    pure shown.toList

def expressionPlan (path : Path) (locals : Locals) (line : Nat) :
    Expr → Plan .page Value
  | .list items => do
    let values ← Plan.each (fun item => .start (.expression path locals line item)) items
    pure (.list values)
  | .object fields => do
    let values ← Plan.each (fun field => do
      let value ← .start (.expression path locals line field.2)
      pure (field.1, value)) fields
    pure (.ofFields values)
  | .call name args => do
    let values ← Plan.each (fun item => .start (.expression path locals line item)) args
    .start (.call name values)
  | expr => .step (evaluate path line ((Page.scope engine.stepHost).bindAll locals) expr)

def insertIfPlan (name : String) (context : Fields) : Plan .page String := do
  match ← .step (Session.find engine.stepHost name) with
  | none => pure ""
  | some _ => .start (.insert name context)

/-- An operation. The only ones that start a job are those for partials. -/
def operationPlan (operation : Operation) (args : List Value) : Plan .page Value :=
  match operation with
  | .insert => do
    let name ← .step (Run.ofExcept (Page.textArg operation args 0))
    let context ← .step (Run.ofExcept (Page.contextArg operation args 1))
    let rendered ← .start (.insert name context)
    pure (.text rendered)
  | .insertIf => do
    let name ← .step (Run.ofExcept (Page.textArg operation args 0))
    let context ← .step (Run.ofExcept (Page.contextArg operation args 1))
    let rendered ← engine.insertIfPlan name context
    pure (.text rendered)
  | operation => .step (Page.operate engine.stepHost operation args)

def callPlan (name : String) (args : List Value) : Plan .page Value := do
  let name ← .step (Run.look fun session => Page.callName session.page name)
  match Operation.ofName? name with
  | some operation => engine.operationPlan operation args
  | none => .step (Session.outside (engine.stepHost.run name args))

def namedPlan (name : String) (context : Fields) : Plan .desk String :=
  match engine.find name with
  | none => .step (Run.fail (.templateNotFound name))
  | some path => .start (.file path context "")

def insertPlan (name : String) (context : Fields) : Plan .page String := do
  .step (Session.fire engine.stepHost (.prepartial name context))
  let rendered ← .outside (engine.namedPlan name context)
  .step (Session.fire engine.stepHost .afterpartial)
  pure rendered

def bodyPlan : Plan .page String := do
  let path ← .step (Run.look fun session => session.page.path)
  match engine.disk.read path with
  | .error error => .step (Run.fail (.file error))
  | .ok source => do
    let text ← .start (.text path [] source.toList 0)
    pure (String.ofList text)

def wrapPlan (context : Fields) (body : String) : Option Path → Plan .page String
  | none => pure body
  | some path => do
    .step (Session.fire engine.stepHost (.layout path))
    let rendered ← .outside (.start (.file path context body))
    .step (Session.fire engine.stepHost (.renderlayout path))
    pure rendered

def pagePlan (context : Fields) : Plan .page String := do
  .step (Session.updatePage fun page => { page with context })
  .step (Session.fire engine.stepHost .prerender)
  let body ← .onError engine.bodyPlan fun session =>
    { session with page := { session.page with layout? := none } }
  let page ← .step (Run.look Session.page)
  .step (Session.note engine.stepHost (.collected page body))
  .step (Session.updatePage fun page => { page with buffer := body, layout? := none })
  let output ← engine.wrapPlan context body page.layout?
  .step (Session.fire engine.stepHost .rendered)
  pure output

def filePlan (path : Path) (context : Fields) (buffer : String) : Plan .desk String := do
  .step (Desk.takeLevel engine.maxDepth path)
  .ensure (.ofPage (engine.page path buffer) (.start (.page context))) (Desk.leave path)

def plan : {place : Place} → {α : Type} → Job place α → Plan place α
  | _, _, .file path context buffer => engine.filePlan path context buffer
  | _, _, .page context => engine.pagePlan context
  | _, _, .text path locals text offset => tagsPlan path locals text offset 0 (scan text)
  | _, _, .block path locals line block args inner =>
    engine.blockPlan path locals line args inner block
  | _, _, .expression path locals line expr => engine.expressionPlan path locals line expr
  | _, _, .call name args => engine.callPlan name args
  | _, _, .insert name context => engine.insertPlan name context

def run : {place : Place} → {α : Type} → Job place α → Run place.State α
  | _, _, .file path context buffer => engine.executeOutermost path context buffer
  | _, _, .page context => Page.render engine.pageHost context
  | _, _, .text path locals text offset =>
    runText path text offset ((Page.scope engine.pageHost).bindAll locals)
  | _, _, .block path locals line block args inner =>
    runBlock path line ((Page.scope engine.pageHost).bindAll locals) args
      (fun scope => runText path inner (line - 1) scope) block
  | _, _, .expression path locals line expr =>
    evaluate path line ((Page.scope engine.pageHost).bindAll locals) expr
  | _, _, .call name args => Page.dispatch engine.pageHost name args
  | _, _, .insert name context => Page.insert engine.pageHost name context

/-! ## The engine does what the plans say -/

section
variable {path : Path} {locals : Locals} {line : Nat}

/-- A key has the same value on every host. -/
theorem ask_bindAll {σ : Type} (host host' : Host σ) (locals : Locals) (key : String) :
    ((Page.scope host).bindAll locals).ask key = ((Page.scope host').bindAll locals).ask key := by
  induction locals with
  | nil => simp only [Scope.bindAll, Scope.ask, Page.scope]
  | cons bound outer ih =>
    obtain ⟨name, item⟩ := bound
    rw [Scope.bindAll, Scope.bindAll, Scope.ask_bind, Scope.ask_bind, ih]

theorem run_sourcePlan (source : List Char) :
    (sourcePlan path locals line source).run engine.run =
      evaluateSource path line ((Page.scope engine.pageHost).bindAll locals) source := by
  unfold sourcePlan evaluateSource
  cases Expr.read source <;> rfl

theorem run_shownPlan (source : List Char) :
    (shownPlan path locals line source).run engine.run =
      shownSource path line ((Page.scope engine.pageHost).bindAll locals) source :=
  Plan.run_bind (engine.run_sourcePlan source) fun _ => rfl

theorem run_sectionPlan (source : List Char) :
    (sectionPlan path locals line source).run engine.run =
      sectionName path line ((Page.scope engine.pageHost).bindAll locals) source := by
  apply Plan.run_bind (engine.run_sourcePlan source)
  intro value
  cases value <;> rfl

/-- The induction is on the tags. -/
theorem run_tagsPlan (text : List Char) (offset cursor : Nat) (tags : List Tag) :
    (tagsPlan path locals text offset cursor tags).run engine.run =
      runTags path text offset ((Page.scope engine.pageHost).bindAll locals) cursor tags := by
  induction tags generalizing cursor with
  | nil =>
    rw [runTags]
    rfl
  | cons tag tags ih =>
    rw [tagsPlan]
    by_cases skipped : tag.start < cursor
    · rw [if_pos skipped, runTags_skip skipped]
      exact ih cursor
    rw [if_neg skipped]
    have ahead : cursor ≤ tag.start := Nat.le_of_not_lt skipped
    cases escaped : tag.isEscaped with
    | true =>
      rw [if_pos rfl, runTags_escaped ahead escaped]
      exact Plan.run_bind (ih tag.stop) fun _ => rfl
    | false =>
      rw [if_neg Bool.false_ne_true]
      cases kind : tag.kind with
      | expression source =>
        rw [runTags_expression ahead escaped kind]
        exact Plan.run_bind (engine.run_shownPlan source) fun _ =>
          Plan.run_bind (ih tag.stop) fun _ => rfl
      | closing keyword =>
        rw [runTags_closing ahead escaped kind]
        rfl
      | opening block args =>
        cases found : findBlockEnd block (text.drop tag.stop) with
        | none =>
          rw [runTags_open ahead escaped kind found]
          simp only [found]
          rfl
        | some close =>
          rw [runTags_block ahead escaped kind found]
          simp only [found]
          exact Plan.run_bind rfl fun _ => Plan.run_bind (ih _) fun _ => rfl

theorem run_blockPlan (args inner : List Char) (block : BlockKind) :
    (engine.blockPlan path locals line args inner block).run engine.run =
      runBlock path line ((Page.scope engine.pageHost).bindAll locals) args
        (fun scope => runText path inner (line - 1) scope) block := by
  cases block with
  | each =>
    unfold blockPlan runBlock
    cases eachArgs? args with
    | none => rfl
    | some names =>
      obtain ⟨key, name⟩ := names
      have items : loopItems path line ((Page.scope engine.stepHost).bindAll locals) key =
          loopItems path line ((Page.scope engine.pageHost).bindAll locals) key := by
        rw [loopItems, ask_bindAll engine.stepHost engine.pageHost]
        rfl
      apply Plan.run_bind ((Plan.run_step _).trans items)
      intro items
      exact Plan.run_bind (Plan.run_each (fun _ => rfl) items) fun _ => rfl
  | capture =>
    apply Plan.run_bind (engine.run_sectionPlan args)
    intro name
    apply Plan.run_bind rfl
    intro content
    rw [Scope.declare_bindAll]
    exact Plan.run_bind rfl fun _ => rfl

theorem mapM_evaluate (scope : Scope (Session Desk)) (items : List Expr) :
    items.mapM (evaluate path line scope) = evaluateAll path line scope items := by
  induction items with
  | nil =>
    rw [evaluateAll]
    rfl
  | cons item items ih => rw [List.mapM_cons, evaluateAll, ih]

theorem mapM_evaluate_fields (scope : Scope (Session Desk)) (fields : List (String × Expr)) :
    fields.mapM (fun field => do
      let value ← evaluate path line scope field.2
      pure (field.1, value)) = evaluateFields path line scope fields := by
  induction fields with
  | nil =>
    rw [evaluateFields]
    rfl
  | cons field fields ih =>
    rw [List.mapM_cons, evaluateFields, ih]
    simp

theorem run_expressionPlan (expr : Expr) :
    (engine.expressionPlan path locals line expr).run engine.run =
      evaluate path line ((Page.scope engine.pageHost).bindAll locals) expr := by
  cases expr with
  | literal value =>
    rw [evaluate]
    exact evaluate.eq_1 _ _ _ _
  | key key =>
    rw [evaluate, ask_bindAll engine.pageHost engine.stepHost]
    exact evaluate.eq_2 _ _ _ _
  | list items =>
    rw [evaluate, ← mapM_evaluate]
    exact Plan.run_bind (Plan.run_each (fun _ => rfl) items) fun _ => rfl
  | object fields =>
    rw [evaluate, ← mapM_evaluate_fields]
    refine Plan.run_bind (Plan.run_each (fun field => ?_) fields) fun _ => rfl
    exact Plan.run_bind rfl fun _ => rfl
  | call name args =>
    rw [evaluate, ← mapM_evaluate]
    refine Plan.run_bind (Plan.run_each (fun _ => rfl) args) fun values => ?_
    rw [Scope.invoke_bindAll]
    rfl

end

/-- The stages of a pipeline are the same on all hosts of the engine. -/
theorem runStages_host (execute execute' : Execute) (value : Value) (stages : List String)
    (args : List (List Value)) :
    Page.runStages (engine.host execute) value stages args =
      Page.runStages (engine.host execute') value stages args := by
  induction stages generalizing value args with
  | nil => rfl
  | cons stage stages ih =>
    simp only [Page.runStages, ih]
    rfl

theorem run_operationPlan (operation : Operation) (args : List Value) :
    (engine.operationPlan operation args).run engine.run =
      Page.operate engine.pageHost operation args := by
  cases operation with
  | insert =>
    exact Plan.run_bind rfl fun _ => Plan.run_bind rfl fun _ => Plan.run_bind rfl fun _ => rfl
  | insertIf =>
    apply Plan.run_bind rfl
    intro name
    apply Plan.run_bind rfl
    intro context
    apply Plan.run_bind
    · apply Plan.run_bind rfl
      rintro (_ | _) <;> rfl
    · intro rendered
      rfl
  | filter =>
    have stages := engine.runStages_host (engine.execute 0) engine.executeOutermost
    simp only [operationPlan, Plan.run, Page.operate, Page.filter, stepHost, pageHost, stages]
  | _ => rfl

theorem run_callPlan (name : String) (args : List Value) :
    (engine.callPlan name args).run engine.run = Page.dispatch engine.pageHost name args := by
  apply Plan.run_bind rfl
  intro name
  cases Operation.ofName? name with
  | none => rfl
  | some operation => exact engine.run_operationPlan operation args

theorem run_namedPlan (name : String) (context : Fields) :
    (engine.namedPlan name context).run engine.run =
      engine.renderBy engine.executeOutermost name context := by
  unfold namedPlan renderBy
  cases engine.find name <;> rfl

theorem run_insertPlan (name : String) (context : Fields) :
    (engine.insertPlan name context).run engine.run =
      Page.insert engine.pageHost name context := by
  apply Plan.run_bind rfl
  intro _
  apply Plan.run_bind (Plan.run_outside (engine.run_namedPlan name context))
  intro rendered
  exact Plan.run_bind rfl fun _ => rfl

theorem run_bodyPlan : engine.bodyPlan.run engine.run = Page.collect engine.pageHost := by
  apply Plan.run_bind rfl
  intro path
  unfold pageHost host
  cases engine.disk.read path <;> rfl

theorem run_wrapPlan (context : Fields) (body : String) (layout? : Option Path) :
    (engine.wrapPlan context body layout?).run engine.run =
      Page.wrap engine.pageHost context body layout? := by
  cases layout? <;> rfl

theorem run_pagePlan (context : Fields) :
    (engine.pagePlan context).run engine.run = Page.render engine.pageHost context := by
  apply Plan.run_bind rfl
  intro _
  apply Plan.run_bind rfl
  intro _
  apply Plan.run_bind (Plan.run_onError engine.run_bodyPlan _)
  intro body
  apply Plan.run_bind rfl
  intro page
  apply Plan.run_bind rfl
  intro _
  apply Plan.run_bind rfl
  intro _
  apply Plan.run_bind (engine.run_wrapPlan context body page.layout?)
  intro output
  exact Plan.run_bind rfl fun _ => rfl

theorem run_filePlan (path : Path) (context : Fields) (buffer : String) :
    (engine.filePlan path context buffer).run engine.run =
      engine.executeOutermost path context buffer := by
  apply Run.ext
  intro desk
  by_cases room : desk.depth < engine.maxDepth
  · have fits : ¬ engine.maxDepth < desk.depth + 1 := by omega
    rw [eval_outermost_of_room room, filePlan, Plan.run_bind (Plan.run_step _) fun _ => rfl,
      Run.eval_bind]
    simp only [Desk.takeLevel, Run.eval_of, if_neg fits]
    rfl
  · have full : engine.maxDepth < desk.depth + 1 := by omega
    rw [eval_outermost_of_full (by omega), filePlan,
      Plan.run_bind (Plan.run_step _) fun _ => rfl, Run.eval_bind]
    simp only [Desk.takeLevel, Run.eval_of, if_pos full]

/-- What the engine does for a job is what the plan of the job says. -/
theorem run_plan {place : Place} {α : Type} (job : Job place α) :
    (engine.plan job).run engine.run = engine.run job := by
  cases job with
  | file path context buffer => exact engine.run_filePlan path context buffer
  | page context => exact engine.run_pagePlan context
  | text path locals text offset => exact engine.run_tagsPlan text offset 0 (scan text)
  | block path locals line block args inner => exact engine.run_blockPlan args inner block
  | expression path locals line expr => exact engine.run_expressionPlan expr
  | call name args => exact engine.run_callPlan name args
  | insert name context => exact engine.run_insertPlan name context

end Engine

end Folio
