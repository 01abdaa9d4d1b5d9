import Folio.Engine.Request
import Folio.Proofs.Body.Piece
import Folio.Proofs.Engine.Steps

/-! While a render lasts, the first content of a section is the only one: it is stored once, stays,
and is what every later block and every later question gets. -/

namespace Folio

open Relation (ReflTransGen)

/-- At a moment, a section has a content and nothing else is stored, written or given for it. -/
structure Moment.Keeps (moment : Moment) (name content : String) : Prop where
  present : moment.sections.get? name = some content
  stored (other : String) : moment.entry ≠ .stored name other
  captured (own written : String) :
    moment.entry = .remarked (.captured name own written) → written = content
  supplied (fallback written : String) :
    moment.entry = .remarked (.supplied name fallback written) → written = content

/-- A moment that comes after some sections. -/
structure Moment.Follows (moment : Moment) (before : Sections) : Prop where
  keeps {name content : String} : before.get? name = some content → moment.Keeps name content
  stores {name content : String} :
    moment.entry = .stored name content → moment.sections.get? name = some content
  arises {name content : String} : moment.sections.get? name = some content →
    before.get? name = some content ∨ moment.entry = .stored name content
  falls {name fallback written : String} :
    moment.entry = .remarked (.supplied name fallback written) →
    moment.sections.get? name = none → written = fallback

theorem Moment.follows_of_quiet {entry : Entry} {sections : Sections} {depth : Nat}
    (stored : ∀ name content, entry ≠ .stored name content)
    (captured : ∀ name own written, entry ≠ .remarked (.captured name own written))
    (supplied : ∀ name fallback written, entry ≠ .remarked (.supplied name fallback written)) :
    (⟨entry, sections, depth⟩ : Moment).Follows sections where
  keeps present :=
    ⟨present, fun other => stored _ other, fun own written h => absurd h (captured _ own written),
      fun fallback written h => absurd h (supplied _ fallback written)⟩
  stores h := absurd h (stored _ _)
  arises present := .inl present
  falls h := absurd h (supplied _ _ _)

/-- A step is one moment, which leaves the sections that were there before it. -/
theorem Desk.Step.moment {desk next : Desk} (step : Step desk next) :
    ∃ moment : Moment, next.journal = desk.journal ++ [moment] ∧
      moment.sections = next.sections ∧ moment.Follows desk.sections := by
  cases step with
  | enter path busy =>
    refine ⟨⟨.opened path, desk.sections, desk.depth + 1⟩, ?_, ?_, ?_⟩
    · rw [Desk.enter_of_pos path busy, Desk.journal_note]
      rfl
    · rw [Desk.enter_of_pos path busy]
      rfl
    · apply Moment.follows_of_quiet <;> simp
  | leave path =>
    refine ⟨⟨.closed path, desk.sections, desk.depth - 1⟩, Desk.journal_note _ _, rfl, ?_⟩
    apply Moment.follows_of_quiet <;> simp
  | fire event =>
    refine ⟨_, Desk.journal_note _ _, rfl, ?_⟩
    apply Moment.follows_of_quiet <;> simp
  | collect page body =>
    refine ⟨_, Desk.journal_note _ _, rfl, ?_⟩
    apply Moment.follows_of_quiet <;> simp
  | run name args =>
    refine ⟨_, Desk.journal_note _ _, rfl, ?_⟩
    apply Moment.follows_of_quiet <;> simp
  | filter name value args =>
    refine ⟨_, Desk.journal_note _ _, rfl, ?_⟩
    apply Moment.follows_of_quiet <;> simp
  | @store name content absent =>
    refine ⟨_, Desk.journal_note _ _, rfl, ?_, ?_, ?_, ?_⟩
    · intro other kept present
      have ne : other ≠ name := by
        rintro rfl
        rw [absent] at present
        cases present
      exact ⟨(Sections.get?_put_of_ne ne).trans present, by simp [ne.symm], by simp, by simp⟩
    · rintro other kept h
      cases h
      exact Sections.get?_put_self _ _ _
    · intro other kept present
      by_cases same : other = name
      · subst same
        obtain rfl : content = kept :=
          Option.some.inj ((Sections.get?_put_self _ _ _).symm.trans present)
        exact .inr rfl
      · exact .inl ((Sections.get?_put_of_ne same).symm.trans present)
    · intro other fallback written h
      cases h
  | @capture name written own stored =>
    refine ⟨_, Desk.journal_note _ _, rfl, ?_, ?_, .inl, ?_⟩
    · intro other kept present
      refine ⟨present, by simp, ?_, by simp⟩
      intro own' written' h
      cases h
      exact Option.some.inj (stored.symm.trans present)
    · intro other kept h
      cases h
    · intro other fallback written h
      cases h
  | supply name fallback =>
    refine ⟨_, Desk.journal_note _ _, rfl, ?_, ?_, .inl, ?_⟩
    · intro other kept present
      refine ⟨present, by simp, by simp, ?_⟩
      intro fallback' written h
      cases h
      rw [present, Option.getD_some]
    · intro other kept h
      cases h
    · intro other fallback' written h absent
      cases h
      rw [show desk.sections.get? name = none from absent, Option.getD_none]

theorem Desk.exists_journal_of_steps {start desk : Desk} (row : ReflTransGen Step start desk) :
    ∃ done, desk.journal = start.journal ++ done := by
  induction row with
  | refl => exact ⟨[], by simp⟩
  | tail _ step ih =>
    obtain ⟨done, journal⟩ := ih
    obtain ⟨moment, more, -⟩ := step.moment
    exact ⟨done ++ [moment], by rw [more, journal, List.append_assoc]⟩

def Sections.StoredIn (sections : Sections) (moments : List Moment) : Prop :=
  ∀ name content, sections.get? name = some content →
    ∃ moment ∈ moments, moment.entry = .stored name content

theorem Sections.storedIn_empty (moments : List Moment) : empty.StoredIn moments := by
  intro name content present
  cases present

theorem Moment.Follows.storedIn {moments : List Moment} {before : Sections} {moment : Moment}
    (follows : moment.Follows before) (stored : before.StoredIn moments) :
    moment.sections.StoredIn (moments ++ [moment]) := by
  intro name content present
  rcases follows.arises present with earlier | now
  · obtain ⟨storing, member, entry⟩ := stored name content earlier
    exact ⟨storing, List.mem_append_left _ member, entry⟩
  · exact ⟨moment, by simp, now⟩

/-- The first content of every section is kept through the moments of a render, which end with some
sections, and what has no content falls back. There are no sections but those that are stored. -/
structure FirstKept (moments : List Moment) (sections : Sections) : Prop where
  keeps : moments.Pairwise fun earlier later => ∀ name content,
    earlier.entry = .stored name content → later.Keeps name content
  present : ∀ moment ∈ moments, ∀ name content, moment.entry = .stored name content →
    moment.sections.get? name = some content ∧ sections.get? name = some content
  sourced : ∀ earlier moment, earlier ++ [moment] <+: moments →
    moment.sections.StoredIn (earlier ++ [moment])
  falls : ∀ moment ∈ moments, ∀ name fallback written,
    moment.entry = .remarked (.supplied name fallback written) →
    moment.sections.get? name = none → written = fallback

namespace FirstKept

theorem nil (sections : Sections) : FirstKept [] sections := ⟨.nil, by simp, by simp, by simp⟩

theorem concat {moments : List Moment} {before sections : Sections} {moment : Moment}
    (kept : FirstKept moments before) (stored : before.StoredIn moments)
    (same : moment.sections = sections) (follows : moment.Follows before) :
    FirstKept (moments ++ [moment]) sections where
  keeps := by
    refine List.pairwise_append.mpr ⟨kept.keeps, List.pairwise_singleton _ _, ?_⟩
    intro earlier mem later last name content stored
    cases List.mem_singleton.mp last
    exact follows.keeps (kept.present earlier mem name content stored).2
  present := by
    intro earlier mem name content stored
    rcases List.mem_append.mp mem with mem | last
    · obtain ⟨own, present⟩ := kept.present earlier mem name content stored
      exact ⟨own, same ▸ (follows.keeps present).present⟩
    · cases List.mem_singleton.mp last
      exact ⟨follows.stores stored, same ▸ follows.stores stored⟩
  sourced := by
    intro earlier last part
    rcases List.prefix_concat_iff.mp part with whole | part
    · obtain ⟨rfl, same⟩ := List.append_inj' whole rfl
      cases same
      exact follows.storedIn stored
    · exact kept.sourced earlier last part
  falls := by
    intro earlier mem name fallback written supplied absent
    rcases List.mem_append.mp mem with mem | last
    · exact kept.falls earlier mem name fallback written supplied absent
    · cases List.mem_singleton.mp last
      exact follows.falls supplied absent

theorem opening (path : Path) :
    FirstKept [⟨.cleared, .empty, 1⟩, ⟨.opened path, .empty, 1⟩] .empty := by
  have cleared : (⟨.cleared, .empty, 1⟩ : Moment).Follows .empty := by
    apply Moment.follows_of_quiet <;> simp
  have opened : (⟨.opened path, .empty, 1⟩ : Moment).Follows .empty := by
    apply Moment.follows_of_quiet <;> simp
  have none (moments : List Moment) := Sections.storedIn_empty moments
  exact ((nil .empty).concat (none _) rfl cleared).concat (none _) rfl opened

/-- The induction is on the row of steps, with what has happened since its start. -/
theorem of_steps {start desk : Desk} (row : ReflTransGen Desk.Step start desk)
    {moments : List Moment} (kept : FirstKept moments start.sections)
    (stored : start.sections.StoredIn moments) :
    ∃ done, desk.journal = start.journal ++ done ∧ FirstKept (moments ++ done) desk.sections ∧
      desk.sections.StoredIn (moments ++ done) := by
  induction row with
  | refl => exact ⟨[], by simp, by simpa using kept, by simpa using stored⟩
  | tail _ step ih =>
    obtain ⟨done, journal, kept, stored⟩ := ih
    obtain ⟨moment, more, same, follows⟩ := step.moment
    refine ⟨done ++ [moment], ?_, ?_, ?_⟩
    · rw [more, journal, List.append_assoc]
    · rw [← List.append_assoc]
      exact kept.concat stored same follows
    · rw [← List.append_assoc, ← same]
      exact follows.storedIn stored

end FirstKept

theorem Engine.firstKept_outermost (engine : Engine) (path : Path) (context : Fields)
    (buffer : String) {desk : Desk} (idle : desk.depth = 0) :
    ∃ done, ((engine.executeOutermost path context buffer).eval desk).2.journal =
        desk.journal ++ done ∧
      FirstKept done ((engine.executeOutermost path context buffer).eval desk).2.sections := by
  unfold executeOutermost
  rcases engine.execute_cases engine.maxDepth path context buffer desk with refused | ⟨row, _⟩
  · rw [refused]
    exact ⟨[], by simp, .nil _⟩
  · rw [Desk.enter_of_idle path idle] at row
    obtain ⟨done, journal, kept, -⟩ :=
      FirstKept.of_steps row (.opening path) (Sections.storedIn_empty _)
    refine ⟨_, ?_, kept⟩
    rw [journal, Desk.journal_note, Desk.clear, Desk.journal_note]
    simp [Desk.journal, Desk.note]

theorem Engine.firstKept_perform (engine : Engine) (request : Request) {desk : Desk}
    (idle : desk.depth = 0) :
    ∃ done, ((engine.perform request).eval desk).2.journal = desk.journal ++ done ∧
      FirstKept done ((engine.perform request).eval desk).2.sections := by
  cases request with
  | render name context =>
    rw [perform, render]
    cases found : engine.find name with
    | none =>
      rw [renderBy_of_none found]
      exact ⟨[], (List.append_nil _).symm, .nil _⟩
    | some path =>
      rw [renderBy_of_some found]
      exact engine.firstKept_outermost path context "" idle
  | renderFile path context => exact engine.firstKept_outermost path context "" idle
  | renderLayout path context buffer => exact engine.firstKept_outermost path context buffer idle
  | put name content => exact ⟨[], (List.append_nil _).symm, .nil _⟩
  | clear => exact ⟨[], (List.append_nil _).symm, .nil _⟩

end Folio
