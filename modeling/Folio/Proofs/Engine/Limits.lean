import Folio.Proofs.Engine.Levels

namespace Folio

def Error.IsTooDeep : Error → Prop
  | .tooDeep _ _ => True
  | _ => False

theorem Desk.stable_eq : Desk.Stable (· = ·) where
  sections same := congrArg Desk.sections same
  note entry same := congrArg (Desk.note · entry) same
  store name content same := congrArg (Desk.store name content) same

namespace Engine

/-- The second engine renders the same files under the same names and refuses at most what the
first one refuses. Where the first one fails and the second one may not, the error is excused. -/
structure Looser (excused : Error → Prop) (engine other : Engine) : Prop where
  disk : engine.disk = other.disk
  finder : engine.finder = other.finder
  called : engine.alias? = other.alias?
  run (name : String) (args : List Value) :
    Agree excused (engine.commands.run name args) (other.commands.run name args)
  filter (name : String) (value : Value) (args : List Value) :
    Agree excused (engine.commands.filter name value args)
      (other.commands.filter name value args)
  limit : engine.maxDepth ≤ other.maxDepth
  deep : engine.maxDepth = other.maxDepth ∨ ∀ path, excused (.tooDeep path engine.maxDepth)

namespace Looser

variable {excused : Error → Prop} {engine other : Engine}

abbrev alike (excused : Error → Prop) : Bond Desk Desk :=
  .ofStates (· = ·) excused

theorem page (looser : Looser excused engine other) (path : Path) (buffer : String) :
    engine.page path buffer = other.page path buffer := by
  rw [Engine.page, Engine.page, looser.called]

theorem hosts (looser : Looser excused engine other) {execute execute' : Execute}
    (nested : ∀ path context buffer,
      (alike excused).holds (execute path context buffer) (execute' path context buffer)) :
    (alike excused).Hosts (engine.host execute) (other.host execute') :=
  engine.hosts_coupled other Desk.stable_eq looser.disk looser.finder looser.run looser.filter
    nested

/-- A file is rendered in the same way on as many levels, and on more of them if it is excused to
have too few. The induction is on the levels of the first engine. -/
theorem execute (looser : Looser excused engine other) {levels levels' : Nat}
    (fewer : levels ≤ levels')
    (deep : engine.maxDepth = other.maxDepth ∧ levels = levels' ∨
      ∀ path, excused (.tooDeep path engine.maxDepth))
    (path : Path) (context : Fields) (buffer : String) :
    (alike excused).holds (engine.execute levels path context buffer)
      (other.execute levels' path context buffer) := by
  induction levels generalizing levels' path context buffer with
  | zero =>
    rintro desk _ rfl
    rcases deep with ⟨limit, rfl⟩ | excuse
    · rw [Engine.execute, Engine.execute, limit]
      exact .same rfl
    · exact .excuse (excuse path)
  | succ levels ih =>
    cases levels' with
    | zero => omega
    | succ levels' =>
      rintro desk _ rfl
      by_cases room : desk.depth < engine.maxDepth
      · have deeper : engine.maxDepth = other.maxDepth ∧ levels = levels' ∨
            ∀ path, excused (.tooDeep path engine.maxDepth) := by
          rcases deep with ⟨limit, same⟩ | excuse
          · exact .inl ⟨limit, Nat.succ.inj same⟩
          · exact .inr excuse
        have hosts := looser.hosts (ih (Nat.le_of_succ_le_succ fewer) deeper)
        have page := hosts.ofPage (engine.page path buffer) context _ _
          (rfl : desk.enter path = desk.enter path)
        rw [eval_execute_of_room room,
          eval_execute_of_room (Nat.lt_of_lt_of_le room looser.limit), ← looser.page]
        exact page.change fun _ _ same => congrArg (Desk.leave path) same
      · rw [eval_execute_of_full (by omega)]
        rcases deep with ⟨limit, -⟩ | excuse
        · rw [eval_execute_of_full (by omega), limit]
          exact .same rfl
        · exact .excuse (excuse path)

theorem outermost (looser : Looser excused engine other) (path : Path) (context : Fields)
    (buffer : String) :
    (alike excused).holds (engine.executeOutermost path context buffer)
      (other.executeOutermost path context buffer) := by
  apply looser.execute (Nat.succ_le_succ looser.limit)
  rcases looser.deep with same | excuse
  · exact .inl ⟨same, congrArg (· + 1) same⟩
  · exact .inr excuse

/-- A request ends with the same result at the same desk on both engines, unless the first one
fails with an error that is excused. -/
theorem perform (looser : Looser excused engine other) (request : Request) :
    (alike excused).holds (engine.perform request) (other.perform request) := by
  cases request with
  | render name context => exact (looser.hosts looser.outermost).render name context
  | renderFile path context => exact looser.outermost path context ""
  | renderLayout path context buffer => exact looser.outermost path context buffer
  | put name content =>
    rintro desk _ rfl
    exact .same rfl
  | clear =>
    rintro desk _ rfl
    exact .same rfl

end Looser

/-! ## More levels -/

def withLevels (engine : Engine) (levels : Nat) : Engine :=
  { engine with maxDepth := levels }

theorem looser_withLevels (engine : Engine) {levels : Nat} (more : engine.maxDepth ≤ levels) :
    Looser Error.IsTooDeep engine (engine.withLevels levels) where
  disk := rfl
  finder := rfl
  called := rfl
  run _ _ := .inl rfl
  filter _ _ _ := .inl rfl
  limit := more
  deep := .inr fun _ => trivial

/-- With more levels a request does the same and ends in the same way, with the same output or
error, journal and sections, unless it fails because there are too few levels. -/
theorem perform_raised (engine : Engine) {levels : Nat} (more : engine.maxDepth ≤ levels)
    (request : Request) (desk : Desk)
    (shallow : ∀ error, ((engine.perform request).eval desk).1 = .error error →
      ¬ error.IsTooDeep) :
    ((engine.withLevels levels).perform request).eval desk =
      (engine.perform request).eval desk := by
  have alike := (engine.looser_withLevels more).perform request desk desk rfl
  exact alike.eq_of_not_excused shallow

theorem perform_raised_threeFiles :
    ((threeFiles 7).perform (.renderFile "a.tpl" [])).eval Desk.empty =
      ((threeFiles 3).perform (.renderFile "a.tpl" [])).eval Desk.empty := by
  have chained : (threeFiles 3).Chained "a.tpl" [] 3 :=
    .insert (inserts_threeFiles 3) (.layout (leaves_threeFiles 3) (.last (last_threeFiles 3)))
  obtain ⟨output, rendered⟩ := (chained.takes "" Desk.empty).fits (by decide)
  have more : (threeFiles 3).maxDepth ≤ 7 := by decide
  apply perform_raised (threeFiles 3) more
  intro error failed
  cases rendered.symm.trans failed

end Engine

end Folio
