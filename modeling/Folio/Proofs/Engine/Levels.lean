import Folio.Proofs.Engine.Bodies
import Folio.Proofs.Engine.Calls
import Folio.Proofs.Page.Layout

namespace Folio

namespace Engine

/-- A chain of a number of templates, each with the context that it is rendered under. Each reaches
the next one, by one partial or as its layout, and can fail with that one alone; the last one
reaches none. -/
inductive Chained (engine : Engine) : Path → Fields → Nat → Prop
  | last {path : Path} {context : Fields} :
      engine.Leaves path context none → Chained engine path context 1
  | insert {path next : Path} {context nextContext : Fields} {length : Nat} :
      engine.Inserts path context next nextContext → Chained engine next nextContext length →
      Chained engine path context (length + 1)
  | layout {path next : Path} {context : Fields} {length : Nat} :
      engine.Leaves path context (some next) → Chained engine next context length →
      Chained engine path context (length + 1)

/-- How a render ends that takes a number of levels: with an output if there are as many left, and
too deep if there are not. -/
structure Takes (engine : Engine) (levels : Nat) (desk : Desk) (result : Except Error String) :
    Prop where
  fits : desk.depth + levels ≤ engine.maxDepth → ∃ output, result = .ok output
  deep : engine.maxDepth < desk.depth + levels →
    ∃ path, result = .error (.tooDeep path engine.maxDepth)

variable {engine : Engine} {path : Path} {context : Fields}

/-- The other file is rendered with as many files open as the body finds. To see that, let it fail
where it is asked for. -/
theorem Inserts.depth_asked {next : Path} {nextContext : Fields} {buffer : String}
    {desk asked : Desk}
    (h : ∀ execute : Execute,
      match (execute next nextContext "").eval asked with
      | (.ok _, _) => ∃ body left after,
          (Page.collect (engine.host execute)).eval
            ⟨{ engine.page path buffer with context }, desk⟩ = (.ok body, ⟨left, after⟩) ∧
          left.layout? = none
      | (.error error, after) => ∃ left,
          (Page.collect (engine.host execute)).eval
            ⟨{ engine.page path buffer with context }, desk⟩ = (.error error, ⟨left, after⟩)) :
    asked.depth = desk.depth := by
  let refuse : Execute := fun path _ _ => Run.fail (.tooDeep path 0)
  obtain ⟨left, ran⟩ := h refuse
  exact depth_of_collect (fun _ _ _ => Desk.balanced.fail _) ran

/-- A call takes one level, and all that its page takes with one more open file. -/
theorem takes_of_page {levels : Nat} {buffer : String} {desk : Desk}
    (page : desk.depth < engine.maxDepth → engine.Takes levels (desk.enter path)
      ((Page.render (engine.host engine.executeOutermost) context).eval
        ⟨engine.page path buffer, desk.enter path⟩).1) :
    engine.Takes (levels + 1) desk
      ((engine.executeOutermost path context buffer).eval desk).1 := by
  rcases Nat.lt_or_ge desk.depth engine.maxDepth with room | full
  · have taken := page room
    have depth := Desk.depth_enter desk path
    rw [eval_outermost_of_room room]
    exact ⟨fun fits => taken.fits (by omega), fun deep => taken.deep (by omega)⟩
  · rw [eval_outermost_of_full full]
    exact ⟨fun fits => by omega, fun _ => ⟨path, rfl⟩⟩

/-- What takes some levels from one desk takes as many from another one with as many open files. -/
theorem Takes.of_depth {levels : Nat} {desk desk' : Desk} {result : Except Error String}
    (h : engine.Takes levels desk result) (depth : desk.depth = desk'.depth) :
    engine.Takes levels desk' result :=
  ⟨fun fits => h.fits (depth ▸ fits), fun deep => h.deep (depth ▸ deep)⟩

theorem Leaves.takes (leaves : engine.Leaves path context none) (buffer : String) (desk : Desk) :
    engine.Takes 1 desk ((engine.executeOutermost path context buffer).eval desk).1 := by
  apply takes_of_page
  intro room
  obtain ⟨body, left, after, ran, bare⟩ := leaves engine.executeOutermost buffer
    ((desk.enter path).note (.fired ⟨.prerender, { engine.page path buffer with context }⟩))
  rw [Page.eval_render_bare ran bare]
  refine ⟨fun _ => ⟨body, rfl⟩, fun deep => ?_⟩
  rw [Desk.depth_enter] at deep
  omega

theorem Leaves.takes_layout {next : Path} {levels : Nat}
    (leaves : engine.Leaves path context (some next))
    (inner : ∀ (buffer : String) (desk : Desk), engine.Takes levels desk
      ((engine.executeOutermost next context buffer).eval desk).1)
    (buffer : String) (desk : Desk) : engine.Takes (levels + 1) desk
      ((engine.executeOutermost path context buffer).eval desk).1 := by
  apply takes_of_page
  intro room
  obtain ⟨body, left, after, ran, wrapped⟩ := leaves engine.executeOutermost buffer
    ((desk.enter path).note (.fired ⟨.prerender, { engine.page path buffer with context }⟩))
  have depth := depth_of_collect (engine.depth_execute _) ran
  let around := (after.note (.remarked (.collected left body))).note
    (.fired ⟨.layout next, { left with buffer := body, layout? := none }⟩)
  have taken : engine.Takes levels (desk.enter path) _ := (inner body around).of_depth depth
  cases nested : (engine.executeOutermost next context body).eval around with
  | mk result ended =>
    rw [nested] at taken
    cases result with
    | ok output =>
      rw [Page.eval_render_wrapped ran wrapped nested]
      exact taken
    | error error =>
      rw [Page.eval_render_broken ran wrapped nested]
      exact taken

theorem Inserts.takes {next : Path} {nextContext : Fields} {levels : Nat}
    (inserts : engine.Inserts path context next nextContext)
    (inner : ∀ (buffer : String) (desk : Desk), engine.Takes levels desk
      ((engine.executeOutermost next nextContext buffer).eval desk).1)
    (buffer : String) (desk : Desk) : engine.Takes (levels + 1) desk
      ((engine.executeOutermost path context buffer).eval desk).1 := by
  apply takes_of_page
  intro room
  obtain ⟨asked, answers⟩ := inserts buffer
    ((desk.enter path).note (.fired ⟨.prerender, { engine.page path buffer with context }⟩))
  have taken := (inner "" asked).of_depth (Inserts.depth_asked answers)
  have answer := answers engine.executeOutermost
  cases nested : (engine.executeOutermost next nextContext "").eval asked with
  | mk result ended =>
    rw [nested] at taken answer
    cases result with
    | ok output =>
      obtain ⟨body, left, after, ran, bare⟩ := answer
      rw [Page.eval_render_bare ran bare]
      refine ⟨fun _ => ⟨body, rfl⟩, fun deep => ?_⟩
      obtain ⟨file, deep⟩ := taken.deep deep
      cases deep
    | error error =>
      obtain ⟨left, ran⟩ := answer
      rw [Page.eval_render_failed ran]
      refine ⟨fun fits => ?_, taken.deep⟩
      obtain ⟨output, fits⟩ := taken.fits fits
      cases fits

/-- A chain takes as many levels as it has templates. The induction is on the chain. -/
theorem Chained.takes {length : Nat} (chain : Chained engine path context length)
    (buffer : String) (desk : Desk) : engine.Takes length desk
      ((engine.executeOutermost path context buffer).eval desk).1 := by
  induction chain generalizing buffer desk with
  | last leaves => exact leaves.takes buffer desk
  | insert inserts _ ih => exact inserts.takes ih buffer desk
  | layout leaves _ ih => exact leaves.takes_layout ih buffer desk

/-! ## The guard -/

variable (engine) in
/-- The number of open files is that of the calls in progress, at every moment that the journal
tells of and whenever a part of a render is started or has ended, and never exceeds the number of
levels. A call is refused, as if it had not been made, exactly if as many calls are in progress as
there are levels. So a chain of templates is rendered exactly if there is a level for each. -/
theorem depth_guard :
    (∀ (history : List Request) (earlier : List Moment) (moment : Moment),
      earlier ++ [moment] <+: (engine.performAll history Desk.empty).journal →
        moment.depth = inProgress earlier moment ∧ moment.depth ≤ engine.maxDepth) ∧
    (∀ (history : List Request) (request : Request) (calls : Nat) (frame : Frame),
      engine.Running request (engine.performAll history Desk.empty) calls frame →
        frame.depth = calls ∧ calls ≤ engine.maxDepth ∧
          (Place.world ((engine.run frame.job).eval frame.state).2).depth = calls) ∧
    (∀ (history : List Request) (request : Request) (calls : Nat) (path : Path) (context : Fields)
        (buffer : String) (desk : Desk),
      engine.Running request (engine.performAll history Desk.empty) calls
        ⟨.file path context buffer, desk⟩ →
        ((engine.executeOutermost path context buffer).eval desk =
          (.error (.tooDeep path engine.maxDepth), desk) ↔ calls = engine.maxDepth) ∧
        (calls = engine.maxDepth → ∀ disk : Disk,
          (executeOutermost { engine with disk } path context buffer).eval desk =
            (.error (.tooDeep path engine.maxDepth), desk))) ∧
    ∀ (path : Path) (context : Fields) (length : Nat), engine.Chained path context length →
      ∀ (buffer : String) (desk : Desk),
        let result := ((engine.executeOutermost path context buffer).eval desk).1
        ((∃ output, result = .ok output) ↔ desk.depth + length ≤ engine.maxDepth) ∧
          (engine.maxDepth < desk.depth + length →
            ∃ file, result = .error (.tooDeep file engine.maxDepth)) := by
  refine ⟨?_, ?_, ?_, ?_⟩
  · intro history
    exact (engine.counted_performAll history).tallied
  · intro history request calls frame running
    obtain ⟨depth, bound⟩ := running.depth (engine.performAll_idle history rfl)
    exact ⟨depth, bound, (engine.depth_run frame.job frame.state).trans depth⟩
  · intro history request calls path context buffer desk running
    obtain ⟨depth, bound⟩ := running.depth (engine.performAll_idle history rfl)
    change desk.depth = calls at depth
    constructor
    · rw [refused_iff]
      omega
    · intro full disk
      have refused : ({ engine with disk } : Engine).maxDepth ≤ desk.depth := by
        change engine.maxDepth ≤ desk.depth
        omega
      exact eval_outermost_of_full refused
  · intro path context length chain buffer desk result
    have takes := chain.takes buffer desk
    refine ⟨⟨?_, takes.fits⟩, takes.deep⟩
    rintro ⟨output, ok⟩
    rcases Nat.lt_or_ge engine.maxDepth (desk.depth + length) with deep | fits
    · obtain ⟨file, failed⟩ := takes.deep deep
      cases ok.symm.trans failed
    · exact fits

theorem depth_guard_threeFiles :
    (∃ output,
      (((threeFiles 3).executeOutermost "a.tpl" [] "").eval Desk.empty).1 = .ok output) ∧
    ∃ file, (((threeFiles 2).executeOutermost "a.tpl" [] "").eval Desk.empty).1 =
      .error (.tooDeep file 2) := by
  have chained (levels : Nat) : (threeFiles levels).Chained "a.tpl" [] 3 :=
    .insert (inserts_threeFiles levels)
      (.layout (leaves_threeFiles levels) (.last (last_threeFiles levels)))
  obtain ⟨_, _, _, enough⟩ := depth_guard (threeFiles 3)
  obtain ⟨_, _, _, scarce⟩ := depth_guard (threeFiles 2)
  exact ⟨(enough "a.tpl" [] 3 (chained 3) "" Desk.empty).1.mpr (by decide),
    (scarce "a.tpl" [] 3 (chained 2) "" Desk.empty).2 (by decide)⟩

end Engine

end Folio
