import Folio.Engine.Request
import Folio.Proofs.Engine.Coupling

namespace Folio

/-- The desks that differ in their past alone, which is `past` and `past'`. -/
structure Desk.Alike (past past' : List Moment) (desk desk' : Desk) : Prop where
  sections : desk.sections = desk'.sections
  depth : desk.depth = desk'.depth
  log : ∃ done, desk.log = done ++ past ∧ desk'.log = done ++ past'

namespace Desk.Alike

variable {past past' : List Moment} {desk desk' : Desk}

theorem note (alike : Alike past past' desk desk') (entry : Entry) :
    Alike past past' (desk.note entry) (desk'.note entry) where
  sections := alike.sections
  depth := alike.depth
  log := by
    obtain ⟨done, log, log'⟩ := alike.log
    refine ⟨⟨entry, desk.sections, desk.depth⟩ :: done, ?_, ?_⟩
    · rw [Desk.note, log, List.cons_append]
    · rw [Desk.note, log', alike.sections, alike.depth, List.cons_append]

theorem withSections (alike : Alike past past' desk desk') (sections : Sections) :
    Alike past past' { desk with sections } { desk' with sections } :=
  ⟨rfl, alike.depth, alike.log⟩

theorem withDepth (alike : Alike past past' desk desk') (depth : Nat) :
    Alike past past' { desk with depth } { desk' with depth } :=
  ⟨alike.sections, rfl, alike.log⟩

theorem store (alike : Alike past past' desk desk') (name content : String) :
    Alike past past' (desk.store name content) (desk'.store name content) := by
  have stored := (alike.withSections (desk.sections.put name content)).note (.stored name content)
  unfold Desk.store
  rwa [← alike.sections]

theorem enter (alike : Alike past past' desk desk') (path : Path) :
    Alike past past' (desk.enter path) (desk'.enter path) := by
  have further := alike.withDepth (desk.depth + 1)
  unfold Desk.enter
  rw [← alike.depth]
  by_cases first : desk.depth + 1 = 1
  · simp only [first, if_true]
    rw [first] at further
    exact ((further.withSections .empty).note .cleared).note (.opened path)
  · simp only [first, if_false]
    exact further.note (.opened path)

theorem leave (alike : Alike past past' desk desk') (path : Path) :
    Alike past past' (desk.leave path) (desk'.leave path) := by
  have less := (alike.withDepth (desk.depth - 1)).note (.closed path)
  unfold Desk.leave
  rwa [← alike.depth]

theorem stable : Desk.Stable (Alike past past') where
  sections := Alike.sections
  note entry alike := alike.note entry
  store name content alike := alike.store name content

theorem journal (alike : Alike past [] desk desk') :
    desk.journal = past.reverse ++ desk'.journal := by
  obtain ⟨done, log, log'⟩ := alike.log
  rw [Desk.journal, Desk.journal, log, log', List.reverse_append, List.append_nil]

end Desk.Alike

/-- The first file that is opened leaves nothing but the past of a desk. -/
theorem Desk.alike_enter {desk desk' : Desk} (idle : desk.depth = 0) (idle' : desk'.depth = 0)
    (path : Path) : Alike desk.log desk'.log (desk.enter path) (desk'.enter path) := by
  rw [enter_of_idle path idle, enter_of_idle path idle']
  have empty : Alike desk.log desk'.log ⟨.empty, 1, desk.log⟩ ⟨.empty, 1, desk'.log⟩ :=
    ⟨rfl, rfl, [], rfl, rfl⟩
  exact (empty.note .cleared).note (.opened path)

/-- The runs that end alike from desks that differ in their past alone. -/
abbrev Desk.alike (past past' : List Moment) : Bond Desk Desk :=
  .ofStates (Alike past past') fun _ => False

namespace Engine

variable (engine : Engine) {past past' : List Moment}

/-- Renders from desks that differ in their past alone end alike. -/
theorem execute_alike (levels : Nat) (path : Path) (context : Fields) (buffer : String) :
    (Desk.alike past past').holds (engine.execute levels path context buffer)
      (engine.execute levels path context buffer) := by
  induction levels generalizing path context buffer with
  | zero => exact (Desk.alike past past').fail _
  | succ levels ih =>
    intro desk desk' alike
    by_cases room : desk.depth < engine.maxDepth
    · have coupled := engine.hosts_stable Desk.Alike.stable ih
      have page := coupled.ofPage (engine.page path buffer) context (desk.enter path)
        (desk'.enter path) (alike.enter path)
      obtain ⟨same, alike'⟩ := page.of_no_excuse
      rw [eval_execute_of_room room, eval_execute_of_room (alike.depth ▸ room)]
      dsimp only
      rw [same]
      exact .same (alike'.leave path)
    · rw [eval_execute_of_full (by omega), eval_execute_of_full (by rw [← alike.depth]; omega)]
      exact .same alike

/-- An outermost render ends alike from all desks on which no file is open. -/
theorem outermost_alike (path : Path) (context : Fields) (buffer : String) {desk desk' : Desk}
    (idle : desk.depth = 0) (idle' : desk'.depth = 0) :
    let ended := (engine.executeOutermost path context buffer).eval desk
    let ended' := (engine.executeOutermost path context buffer).eval desk'
    ended = (.error (.tooDeep path engine.maxDepth), desk) ∧
        ended' = (.error (.tooDeep path engine.maxDepth), desk') ∨
      ended.1 = ended'.1 ∧ Desk.Alike desk.log desk'.log ended.2 ended'.2 := by
  unfold executeOutermost
  by_cases room : desk.depth < engine.maxDepth
  · let execute := engine.execute engine.maxDepth
    have coupled : (Desk.alike desk.log desk'.log).Hosts (engine.host execute)
        (engine.host execute) :=
      engine.hosts_stable Desk.Alike.stable (engine.execute_alike engine.maxDepth)
    have page := coupled.ofPage (engine.page path buffer) context (desk.enter path)
      (desk'.enter path) (Desk.alike_enter idle idle' path)
    obtain ⟨same, alike⟩ := page.of_no_excuse
    rw [eval_execute_of_room room, eval_execute_of_room (by omega)]
    exact .inr ⟨same, alike.leave path⟩
  · exact .inl ⟨eval_execute_of_full (by omega), eval_execute_of_full (by omega)⟩

/-! ## Requests -/

theorem perform_idle (request : Request) {desk : Desk} (idle : desk.depth = 0) :
    ((engine.perform request).eval desk).2.depth = 0 := by
  cases request with
  | render name context =>
    rw [perform, render]
    cases found : engine.find name with
    | none =>
      rw [renderBy_of_none found]
      exact idle
    | some path =>
      rw [renderBy_of_some found]
      exact (engine.depth_execute _ path context "" desk).trans idle
  | renderFile path context => exact (engine.depth_execute _ path context "" desk).trans idle
  | renderLayout path context buffer =>
    exact (engine.depth_execute _ path context buffer desk).trans idle
  | put name content => exact idle
  | clear => exact idle

theorem performAll_idle (requests : List Request) {desk : Desk} (idle : desk.depth = 0) :
    (engine.performAll requests desk).depth = 0 := by
  induction requests generalizing desk with
  | nil => exact idle
  | cons request requests ih => exact ih (engine.perform_idle request idle)

/-- A render after any requests ends as one on a new engine: with the same output or error, after
doing the same, and if it has an output with the same sections. -/
theorem render_after (history : List Request) (name : String) (context : Fields) :
    let used := engine.performAll history Desk.empty
    let ended := (engine.render name context).eval used
    let fresh := (engine.render name context).eval Desk.empty
    ended.1 = fresh.1 ∧ ended.2.journal = used.journal ++ fresh.2.journal ∧
      ended.2.events = used.events ++ fresh.2.events ∧
      ∀ output, fresh.1 = .ok output → ended.2.sections = fresh.2.sections := by
  intro used ended fresh
  have idle : used.depth = 0 := engine.performAll_idle history rfl
  have main : ended.1 = fresh.1 ∧ ended.2.journal = used.journal ++ fresh.2.journal ∧
      ∀ output, fresh.1 = .ok output → ended.2.sections = fresh.2.sections := by
    simp only [ended, fresh, render]
    cases found : engine.find name with
    | none =>
      rw [renderBy_of_none found]
      refine ⟨rfl, (List.append_nil _).symm, ?_⟩
      intro output h
      cases h
    | some path =>
      rw [renderBy_of_some found]
      have ends := engine.outermost_alike path context "" idle (rfl : Desk.empty.depth = 0)
      rcases ends with ⟨refused, refused'⟩ | ⟨same, alike⟩
      · rw [refused, refused']
        refine ⟨rfl, (List.append_nil _).symm, ?_⟩
        intro output h
        cases h
      · exact ⟨same, alike.journal, fun _ _ => alike.sections⟩
  refine ⟨main.1, main.2.1, ?_, main.2.2⟩
  rw [Desk.events, main.2.1, List.filterMap_append]
  rfl

end Engine

end Folio
