import Folio.Proofs.Engine.Steps

/-! Two desks stay related through a render if they have the same sections and stay related when the
same entry is made and the same section is stored on both. -/

namespace Folio

/-- Related desks show the same sections and stay related, whatever is done on both. -/
structure Desk.Stable (related : Desk → Desk → Prop) : Prop where
  sections {desk desk' : Desk} : related desk desk' → desk.sections = desk'.sections
  note {desk desk' : Desk} (entry : Entry) :
    related desk desk' → related (desk.note entry) (desk'.note entry)
  store {desk desk' : Desk} (name content : String) :
    related desk desk' → related (desk.store name content) (desk'.store name content)

/-- The results of two commands: the same, unless the first one is an error that is excused. -/
def Agree (excused : Error → Prop) {α : Type} (result result' : Except Error α) : Prop :=
  result = result' ∨ ∃ error, result = .error error ∧ excused error

namespace Bond

variable {related : Desk → Desk → Prop} {excused : Error → Prop}

theorem ofStates_command {α : Type} (stable : Desk.Stable related) (entry : Entry)
    {result result' : Except Error α} (agree : Agree excused result result') :
    (ofStates related excused).holds
      (do Run.update fun desk => desk.note entry
          Run.ofExcept result)
      (do Run.update fun desk => desk.note entry
          Run.ofExcept result') := by
  apply (ofStates related excused).bind
  · exact ofStates_update fun _ _ alike => stable.note entry alike
  · intro _ desk desk' alike
    rcases agree with rfl | ⟨error, rfl, excuse⟩
    · exact .same alike
    · exact .excuse excuse

end Bond

namespace Engine

section Coupled

variable (engine engine' : Engine) {related : Desk → Desk → Prop} {excused : Error → Prop}

/-- Pages on related desks do alike, if the renders of other files and the commands do. -/
theorem hosts_coupled (stable : Desk.Stable related) (disk : engine.disk = engine'.disk)
    (finder : engine.finder = engine'.finder)
    (run : ∀ name args,
      Agree excused (engine.commands.run name args) (engine'.commands.run name args))
    (filter : ∀ name value args,
      Agree excused (engine.commands.filter name value args)
        (engine'.commands.filter name value args))
    {execute execute' : Execute}
    (nested : ∀ path context buffer, (Bond.ofStates related excused).holds
      (execute path context buffer) (execute' path context buffer)) :
    (Bond.ofStates related excused).Hosts (engine.host execute) (engine'.host execute') where
  disk := disk
  seek name := by
    have found : engine.find name = engine'.find name := by rw [find, find, disk, finder]
    intro desk desk' alike
    simp only [Host.seek, host, Run.eval_of, found]
    exact .same alike
  fire event := Bond.ofStates_update fun _ _ alike => stable.note (.fired event) alike
  collected page body :=
    Bond.ofStates_update fun _ _ alike => stable.note (.remarked (.collected page body)) alike
  declare name content := by
    intro desk desk' alike
    rw [Host.eval_declare, Host.eval_declare]
    simp only [host, ← stable.sections alike]
    cases desk.sections.get? name with
    | some kept => exact .same (stable.note _ alike)
    | none => exact .same (stable.note _ (stable.store name content alike))
  supply name fallback := by
    intro desk desk' alike
    rw [Host.eval_supply, Host.eval_supply]
    simp only [host, ← stable.sections alike]
    exact .same (stable.note _ alike)
  render name context := by
    have found : engine.find name = engine'.find name := by rw [find, find, disk, finder]
    rw [host_render, host_render]
    cases present : engine.find name with
    | none =>
      rw [renderBy_of_none present, renderBy_of_none (found ▸ present)]
      exact (Bond.ofStates related excused).fail _
    | some path =>
      rw [renderBy_of_some present, renderBy_of_some (found ▸ present)]
      exact nested path context ""
  renderLayout := nested
  run name args := Bond.ofStates_command stable (.ran name args) (run name args)
  filter name value args :=
    Bond.ofStates_command stable (.filtered name value args) (filter name value args)

theorem hosts_stable (stable : Desk.Stable related) {execute execute' : Execute}
    (nested : ∀ path context buffer, (Bond.ofStates related excused).holds
      (execute path context buffer) (execute' path context buffer)) :
    (Bond.ofStates related excused).Hosts (engine.host execute) (engine.host execute') :=
  hosts_coupled engine engine stable rfl rfl (fun _ _ => .inl rfl) (fun _ _ _ => .inl rfl) nested

end Coupled

/-! ## Enough levels -/

variable (engine : Engine)

/-- The same desk, with a number of open files. -/
structure SameAt (depth : Nat) (desk desk' : Desk) : Prop where
  same : desk = desk'
  depth : desk.depth = depth

theorem SameAt.stable (depth : Nat) : Desk.Stable (SameAt depth) where
  sections same := congrArg Desk.sections same.same
  note entry same := ⟨congrArg (Desk.note · entry) same.same, same.depth⟩
  store name content same := ⟨congrArg (Desk.store name content) same.same, same.depth⟩

theorem page_eq_of_nested {levels levels' : Nat} (desk : Desk)
    (nested : ∀ (path : Path) (context : Fields) (buffer : String) (inner : Desk),
      inner.depth = desk.depth →
      (engine.execute levels path context buffer).eval inner =
        (engine.execute levels' path context buffer).eval inner)
    (page : Page) (context : Fields) :
    (Session.ofPage page (Page.render (engine.host (engine.execute levels)) context)).eval desk =
      (Session.ofPage page (Page.render (engine.host (engine.execute levels')) context)).eval
        desk := by
  have alike (path : Path) (context : Fields) (buffer : String) :
      (Bond.ofStates (SameAt desk.depth) fun _ => False).holds
        (engine.execute levels path context buffer)
        (engine.execute levels' path context buffer) := by
    rintro inner _ ⟨rfl, depth⟩
    rw [← nested path context buffer inner depth]
    exact .same ⟨rfl, (engine.depth_execute levels path context buffer inner).trans depth⟩
  have coupled := engine.hosts_stable (SameAt.stable desk.depth) alike
  obtain ⟨same, ⟨same', _⟩⟩ := (coupled.ofPage page context desk desk ⟨rfl, rfl⟩).of_no_excuse
  exact Prod.ext same same'

/-- With more levels than files may still be opened, their number makes no difference. The induction
is on the one number of levels; the other one goes down with it. -/
theorem execute_eq_of_levels {levels levels' : Nat} {path : Path} {context : Fields}
    {buffer : String} {desk : Desk} (enough : engine.maxDepth < desk.depth + levels)
    (enough' : engine.maxDepth < desk.depth + levels') :
    (engine.execute levels path context buffer).eval desk =
      (engine.execute levels' path context buffer).eval desk := by
  induction levels generalizing levels' path context buffer desk with
  | zero =>
    cases levels' with
    | zero => rfl
    | succ levels' =>
      rw [eval_execute_of_full (by omega)]
      rfl
  | succ levels ih =>
    by_cases room : desk.depth < engine.maxDepth
    · cases levels' with
      | zero => omega
      | succ levels' =>
        have nested (path : Path) (context : Fields) (buffer : String) (inner : Desk)
            (depth : inner.depth = (desk.enter path).depth) :
            (engine.execute levels path context buffer).eval inner =
              (engine.execute levels' path context buffer).eval inner := by
          rw [Desk.depth_enter] at depth
          exact ih (by omega) (by omega)
        rw [eval_execute_of_room room, eval_execute_of_room room,
          engine.page_eq_of_nested (desk.enter path) nested]
    · rw [eval_execute_of_full (by omega)]
      cases levels' with
      | zero => rfl
      | succ levels' => rw [eval_execute_of_full (by omega)]

theorem page_eq_of_levels {levels levels' : Nat} {desk : Desk}
    (enough : engine.maxDepth < desk.depth + levels)
    (enough' : engine.maxDepth < desk.depth + levels') (page : Page) (context : Fields) :
    (Session.ofPage page (Page.render (engine.host (engine.execute levels)) context)).eval desk =
      (Session.ofPage page (Page.render (engine.host (engine.execute levels')) context)).eval
        desk := by
  apply engine.page_eq_of_nested desk
  intro path context buffer inner depth
  exact engine.execute_eq_of_levels (by omega) (by omega)

end Engine

end Folio
