import Folio.Engine.Basic
import Folio.Proofs.Page.Bond
import Mathlib.Logic.Relation

namespace Folio

open Relation (ReflTransGen)

/-- A step of a render while a file is open. A section is only stored under a name that has none;
what is written for a captured section is what is stored; what is asked for is what is stored or
else the fallback. -/
inductive Desk.Step : Desk → Desk → Prop
  | enter {desk : Desk} (path : Path) : 0 < desk.depth → Step desk (desk.enter path)
  | leave (desk : Desk) (path : Path) : Step desk (desk.leave path)
  | fire (desk : Desk) (event : Event) : Step desk (desk.note (.fired event))
  | collect (desk : Desk) (page : Page) (body : String) :
      Step desk (desk.note (.remarked (.collected page body)))
  | run (desk : Desk) (name : String) (args : List Value) : Step desk (desk.note (.ran name args))
  | filter (desk : Desk) (name : String) (value : Value) (args : List Value) :
      Step desk (desk.note (.filtered name value args))
  | store {desk : Desk} {name : String} (content : String) :
      desk.sections.get? name = none → Step desk (desk.store name content)
  | capture {desk : Desk} {name written : String} (own : String) :
      desk.sections.get? name = some written →
      Step desk (desk.note (.remarked (.captured name own written)))
  | supply (desk : Desk) (name fallback : String) :
      Step desk (desk.note (.remarked
        (.supplied name fallback ((desk.sections.get? name).getD fallback))))

namespace Desk

@[simp] theorem depth_clear (desk : Desk) : desk.clear.depth = desk.depth := rfl

@[simp] theorem depth_store (desk : Desk) (name content : String) :
    (desk.store name content).depth = desk.depth := rfl

@[simp] theorem sections_store (desk : Desk) (name content : String) :
    (desk.store name content).sections = desk.sections.put name content := rfl

@[simp] theorem depth_enter (desk : Desk) (path : Path) :
    (desk.enter path).depth = desk.depth + 1 := by
  unfold enter
  dsimp only
  split <;> rfl

@[simp] theorem depth_leave (desk : Desk) (path : Path) :
    (desk.leave path).depth = desk.depth - 1 := rfl

@[simp] theorem sections_leave (desk : Desk) (path : Path) :
    (desk.leave path).sections = desk.sections := rfl

theorem enter_of_pos {desk : Desk} (path : Path) (h : 0 < desk.depth) :
    desk.enter path = { desk with depth := desk.depth + 1 }.note (.opened path) := by
  have busy : desk.depth ≠ 0 := by omega
  simp [enter, busy]

theorem enter_of_idle {desk : Desk} (path : Path) (h : desk.depth = 0) :
    desk.enter path = ({ desk with depth := 1 }.clear).note (.opened path) := by
  unfold enter
  simp only [h]
  rfl

/-- The runs that are rows of steps and close the files that they open. -/
def steps : Bond Desk Desk where
  holds run _ := ∀ desk, 0 < desk.depth →
    ReflTransGen Step desk (run.eval desk).2 ∧ (run.eval desk).2.depth = desk.depth
  pure _ _ _ := ⟨.refl, rfl⟩
  fail _ _ _ := ⟨.refl, rfl⟩
  bind := by
    intro α β run _ next _ first second desk busy
    obtain ⟨row, depth⟩ := first desk busy
    rw [Run.eval_bind]
    generalize run.eval desk = ended at row depth ⊢
    obtain ⟨error | value, after⟩ := ended
    · exact ⟨row, depth⟩
    · obtain ⟨more, depth'⟩ := second value after (by rw [depth]; exact busy)
      exact ⟨row.trans more, depth'.trans depth⟩

theorem steps_update {f : Desk → Desk} (step : ∀ desk, Step desk (f desk))
    (depth : ∀ desk, (f desk).depth = desk.depth) :
    steps.holds (Run.update f) (Run.update f) :=
  fun desk _ => ⟨.single (step desk), depth desk⟩

end Desk

namespace Engine

@[simp] theorem host_render (engine : Engine) (execute : Execute) :
    (engine.host execute).render = engine.renderBy execute := rfl

theorem renderBy_of_none {engine : Engine} {execute : Execute} {name : String}
    (h : engine.find name = none) (context : Fields) :
    engine.renderBy execute name context = Run.fail (.templateNotFound name) := by
  simp [renderBy, h]

theorem renderBy_of_some {engine : Engine} {execute : Execute} {name : String} {path : Path}
    (h : engine.find name = some path) (context : Fields) :
    engine.renderBy execute name context = execute path context "" := by
  simp [renderBy, h]

variable (engine : Engine)

/-- What holds of all renders of files holds of the renders of templates. -/
theorem bonded_renderBy {bond : Bond Desk Desk} {execute execute' : Execute}
    (nested : ∀ path context buffer,
      bond.holds (execute path context buffer) (execute' path context buffer))
    (name : String) (context : Fields) :
    bond.holds (engine.renderBy execute name context) (engine.renderBy execute' name context) := by
  cases found : engine.find name with
  | none =>
    rw [renderBy_of_none found, renderBy_of_none found]
    exact bond.fail _
  | some path =>
    rw [renderBy_of_some found, renderBy_of_some found]
    exact nested path context ""

/-- A page does to the desk what the files that it renders do, and steps of its own. -/
theorem hosts_steps {execute : Execute}
    (nested : ∀ path context buffer,
      Desk.steps.holds (execute path context buffer) (execute path context buffer)) :
    Desk.steps.Hosts (engine.host execute) (engine.host execute) where
  disk := rfl
  seek _ _ _ := ⟨.refl, rfl⟩
  fire event := Desk.steps_update (fun desk => .fire desk event) fun _ => rfl
  collected page body := Desk.steps_update (fun desk => .collect desk page body) fun _ => rfl
  declare name content := by
    intro desk _
    rw [Host.eval_declare]
    simp only [host]
    cases found : desk.sections.get? name with
    | some kept => exact ⟨.single (.capture content found), rfl⟩
    | none =>
      have stored : (desk.store name content).sections.get? name = some content := by simp
      exact ⟨.tail (.single (.store content found)) (.capture content stored), rfl⟩
  supply name fallback := by
    intro desk _
    exact ⟨.single (.supply desk name fallback), rfl⟩
  render := engine.bonded_renderBy nested
  renderLayout := nested
  run name args := by
    apply Desk.steps.bind (Desk.steps_update (fun desk => .run desk name args) fun _ => rfl)
    intro _
    exact Desk.steps.ofExcept _
  filter name value args := by
    apply Desk.steps.bind
      (Desk.steps_update (fun desk => .filter desk name value args) fun _ => rfl)
    intro _
    exact Desk.steps.ofExcept _

variable {engine} {levels : Nat} {path : Path} {context : Fields} {buffer : String} {desk : Desk}

theorem eval_execute_of_full (full : engine.maxDepth < desk.depth + 1) :
    (engine.execute (levels + 1) path context buffer).eval desk =
      (.error (.tooDeep path engine.maxDepth), desk) := by
  rw [execute, Run.eval_bind]
  simp only [Desk.takeLevel, Run.eval_of, if_pos full]

theorem eval_execute_of_room (room : desk.depth < engine.maxDepth) :
    (engine.execute (levels + 1) path context buffer).eval desk =
      let inner := (Session.ofPage (engine.page path buffer)
        (Page.render (engine.host (engine.execute levels)) context)).eval (desk.enter path)
      (inner.1, inner.2.leave path) := by
  have fits : ¬ engine.maxDepth < desk.depth + 1 := by omega
  rw [execute, Run.eval_bind]
  simp only [Desk.takeLevel, Run.eval_of, if_neg fits, Run.ensure]

variable (engine) (levels) (path) (context) (buffer)

/-- A nested render is a row of steps and closes what it opens. -/
theorem execute_steps :
    Desk.steps.holds (engine.execute levels path context buffer)
      (engine.execute levels path context buffer) := by
  induction levels generalizing path context buffer with
  | zero => exact Desk.steps.fail _
  | succ levels ih =>
    intro desk busy
    by_cases room : desk.depth < engine.maxDepth
    · have page := (engine.hosts_steps ih).ofPage (engine.page path buffer) context
        (desk.enter path) (by simp)
      rw [eval_execute_of_room room]
      refine ⟨.head (.enter path busy) (.tail page.1 (.leave _ path)), ?_⟩
      simp [page.2]
    · rw [eval_execute_of_full (by omega)]
      exact ⟨.refl, rfl⟩

/-- A render is refused, or else it goes on in steps after opening its file and closes what it
opens. -/
theorem execute_cases (desk : Desk) :
    let ended := (engine.execute (levels + 1) path context buffer).eval desk
    ended = (.error (.tooDeep path engine.maxDepth), desk) ∨
      ReflTransGen Desk.Step (desk.enter path) ended.2 ∧ ended.2.depth = desk.depth := by
  intro ended
  by_cases room : desk.depth < engine.maxDepth
  · have page := (engine.hosts_steps (engine.execute_steps levels)).ofPage
      (engine.page path buffer) context (desk.enter path) (by simp)
    simp only [ended, eval_execute_of_room room]
    refine .inr ⟨.tail page.1 (.leave _ path), ?_⟩
    simp [page.2]
  · exact .inl (eval_execute_of_full (by omega))

theorem depth_execute (desk : Desk) :
    ((engine.execute levels path context buffer).eval desk).2.depth = desk.depth := by
  cases levels with
  | zero => rfl
  | succ levels =>
    rcases engine.execute_cases levels path context buffer desk with refused | ⟨_, depth⟩
    · rw [refused]
    · exact depth

end Engine

end Folio
