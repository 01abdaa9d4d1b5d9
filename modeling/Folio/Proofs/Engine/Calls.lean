import Folio.Proofs.Engine.History
import Folio.Proofs.Engine.Sections
import Folio.Proofs.Engine.Termination

/-! The engine keeps the number of open files on its desk. It is the number of calls to render a
file that have been let in and have not ended, at every moment and however they end, and it never
exceeds the number of levels. -/

namespace Folio

open Relation (ReflTransGen)

/-! ## At every moment of the journal -/

def Entry.opens : Entry → Int
  | .opened _ => 1
  | .closed _ => -1
  | _ => 0

def Entry.isCleared : Entry → Bool
  | .cleared => true
  | _ => false

/-- How many files have been opened in some moments and have not been closed. -/
def openFiles : List Moment → Int
  | [] => 0
  | moment :: moments => moment.entry.opens + openFiles moments

@[simp] theorem openFiles_nil : openFiles [] = 0 := rfl

@[simp] theorem openFiles_cons (moment : Moment) (moments : List Moment) :
    openFiles (moment :: moments) = moment.entry.opens + openFiles moments := rfl

@[simp] theorem openFiles_append (moments more : List Moment) :
    openFiles (moments ++ more) = openFiles moments + openFiles more := by
  induction moments with
  | nil => simp
  | cons moment moments ih =>
    rw [List.cons_append, openFiles_cons, openFiles_cons, ih, Int.add_assoc]

/-- How many calls are in progress after some moments and one more. The first call, when it has been
let in, clears the sections before it opens its file. -/
def inProgress (moments : List Moment) (moment : Moment) : Int :=
  openFiles (moments ++ [moment]) + if moment.entry.isCleared then 1 else 0

/-- At every one of the moments the number of open files is that of the calls in progress, and at
most `limit`. -/
def Tallied (limit : Nat) (moments : List Moment) : Prop :=
  ∀ earlier moment, earlier ++ [moment] <+: moments →
    moment.depth = inProgress earlier moment ∧ moment.depth ≤ limit

theorem Tallied.concat {limit : Nat} {moments : List Moment} {moment : Moment}
    (tallied : Tallied limit moments) (count : moment.depth = inProgress moments moment)
    (bound : moment.depth ≤ limit) : Tallied limit (moments ++ [moment]) := by
  intro earlier last h
  rcases List.prefix_concat_iff.mp h with whole | part
  · obtain ⟨rfl, same⟩ := List.append_inj' whole rfl
    cases same
    exact ⟨count, bound⟩
  · exact tallied earlier last part

namespace Desk

/-- The journal tells at every moment how many calls are in progress, and the desk knows how many
are now. -/
structure Counted (limit : Nat) (desk : Desk) : Prop where
  tallied : Tallied limit desk.journal
  now : desk.depth = openFiles desk.journal

variable {limit : Nat} {desk : Desk}

theorem counted_empty (limit : Nat) : empty.Counted limit where
  tallied earlier moment h := by simp at h
  now := rfl

namespace Counted

theorem withSections (counted : desk.Counted limit) (sections : Sections) :
    Desk.Counted limit { desk with sections } :=
  ⟨counted.tallied, counted.now⟩

theorem note (counted : desk.Counted limit) (bound : desk.depth ≤ limit) {entry : Entry}
    (quiet : entry.opens = 0) (kept : entry.isCleared = false) :
    (desk.note entry).Counted limit where
  tallied := by
    rw [journal_note]
    refine counted.tallied.concat ?_ bound
    simp [inProgress, quiet, kept, counted.now]
  now := by simp [quiet, counted.now]

theorem enter (counted : desk.Counted limit) (room : desk.depth < limit) (path : Path) :
    (desk.enter path).Counted limit := by
  have now := counted.now
  rcases Nat.eq_zero_or_pos desk.depth with idle | busy
  · rw [idle] at now
    have journal : (desk.enter path).journal =
        desk.journal ++ [⟨.cleared, .empty, 1⟩] ++ [⟨.opened path, .empty, 1⟩] := by
      rw [enter_of_idle path idle, journal_note, clear, journal_note]
      rfl
    constructor
    · rw [journal]
      apply Tallied.concat
      · refine counted.tallied.concat ?_ (by dsimp only; omega)
        simp [inProgress, Entry.opens, Entry.isCleared, ← now]
      · simp [inProgress, Entry.opens, Entry.isCleared, ← now]
      · dsimp only
        omega
    · simp [journal, Entry.opens, ← now, idle]
  · have journal : (desk.enter path).journal =
        desk.journal ++ [⟨.opened path, desk.sections, desk.depth + 1⟩] := by
      rw [enter_of_pos path busy, journal_note]
      rfl
    constructor
    · rw [journal]
      refine counted.tallied.concat ?_ room
      simp [inProgress, Entry.opens, Entry.isCleared, ← now]
    · simp [journal, Entry.opens, ← now]

theorem leave (counted : desk.Counted limit) (bound : desk.depth ≤ limit) (busy : 0 < desk.depth)
    (path : Path) : (desk.leave path).Counted limit := by
  have now := counted.now
  have journal : (desk.leave path).journal =
      desk.journal ++ [⟨.closed path, desk.sections, desk.depth - 1⟩] := journal_note _ _
  constructor
  · rw [journal]
    refine counted.tallied.concat ?_ (by dsimp only; omega)
    simp only [inProgress, openFiles_append, openFiles_cons, openFiles_nil, Entry.opens,
      Entry.isCleared, ← now, Bool.false_eq_true, if_false]
    omega
  · simp only [journal, openFiles_append, openFiles_cons, openFiles_nil, Entry.opens, ← now,
      depth_leave]
    omega

end Counted

/-- The runs that keep count of the calls, if there are not too many at their start. -/
def counting (limit : Nat) : Bond Desk Desk where
  holds run _ := ∀ desk, desk.Counted limit → desk.depth ≤ limit →
    (run.eval desk).2.Counted limit ∧ (run.eval desk).2.depth = desk.depth
  pure _ _ counted _ := ⟨counted, rfl⟩
  fail _ _ counted _ := ⟨counted, rfl⟩
  bind := by
    intro α β run _ next _ first second desk counted bound
    obtain ⟨counted', depth⟩ := first desk counted bound
    rw [Run.eval_bind]
    generalize run.eval desk = ended at counted' depth ⊢
    obtain ⟨error | value, after⟩ := ended
    · exact ⟨counted', depth⟩
    · obtain ⟨counted'', depth'⟩ := second value after counted' (depth ▸ bound)
      exact ⟨counted'', depth'.trans depth⟩

theorem counting_note {entry : Entry} (quiet : entry.opens = 0) (kept : entry.isCleared = false) :
    (counting limit).holds (Run.update fun desk => desk.note entry)
      (Run.update fun desk => desk.note entry) :=
  fun _ counted bound => ⟨counted.note bound quiet kept, rfl⟩

end Desk

namespace Engine

variable (engine : Engine)

theorem hosts_counting {limit : Nat} {execute : Execute}
    (nested : ∀ path context buffer,
      (Desk.counting limit).holds (execute path context buffer) (execute path context buffer)) :
    (Desk.counting limit).Hosts (engine.host execute) (engine.host execute) where
  disk := rfl
  seek _ _ counted _ := ⟨counted, rfl⟩
  fire _ := Desk.counting_note rfl rfl
  collected _ _ := Desk.counting_note rfl rfl
  declare name content desk counted bound := by
    rw [Host.eval_declare]
    simp only [host]
    cases desk.sections.get? name with
    | some kept => exact ⟨counted.note bound rfl rfl, rfl⟩
    | none =>
      have stored : (desk.store name content).Counted limit :=
        (counted.withSections (desk.sections.put name content)).note bound rfl rfl
      exact ⟨stored.note bound rfl rfl, rfl⟩
  supply _ _ _ counted bound := ⟨counted.note bound rfl rfl, rfl⟩
  render := engine.bonded_renderBy nested
  renderLayout := nested
  run _ _ := by
    apply (Desk.counting limit).bind (Desk.counting_note rfl rfl)
    exact fun _ => (Desk.counting limit).ofExcept _
  filter _ _ _ := by
    apply (Desk.counting limit).bind (Desk.counting_note rfl rfl)
    exact fun _ => (Desk.counting limit).ofExcept _

/-- Every call keeps count, and closes the file that it opens. -/
theorem execute_counting (levels : Nat) (path : Path) (context : Fields) (buffer : String) :
    (Desk.counting engine.maxDepth).holds (engine.execute levels path context buffer)
      (engine.execute levels path context buffer) := by
  induction levels generalizing path context buffer with
  | zero => exact (Desk.counting engine.maxDepth).fail _
  | succ levels ih =>
    intro desk counted bound
    by_cases room : desk.depth < engine.maxDepth
    · have opened : (desk.enter path).depth ≤ engine.maxDepth := by
        rw [Desk.depth_enter]
        omega
      obtain ⟨page, depth⟩ := (engine.hosts_counting ih).ofPage (engine.page path buffer) context
        (desk.enter path) (counted.enter room path) opened
      rw [eval_execute_of_room room]
      rw [Desk.depth_enter] at depth
      exact ⟨page.leave (by omega) (by omega) path, by simp [depth]⟩
    · rw [eval_execute_of_full (by omega)]
      exact ⟨counted, rfl⟩

theorem counted_perform (request : Request) {desk : Desk} (counted : desk.Counted engine.maxDepth)
    (bound : desk.depth ≤ engine.maxDepth) :
    ((engine.perform request).eval desk).2.Counted engine.maxDepth := by
  cases request with
  | render name context =>
    exact (engine.bonded_renderBy (engine.execute_counting _) name context desk counted bound).1
  | renderFile path context =>
    exact (engine.execute_counting _ path context "" desk counted bound).1
  | renderLayout path context buffer =>
    exact (engine.execute_counting _ path context buffer desk counted bound).1
  | put name content => exact counted.withSections _
  | clear => exact counted.withSections _

/-- The journal of an engine tells at every moment how many calls are in progress. -/
theorem counted_performAll (history : List Request) :
    (engine.performAll history Desk.empty).Counted engine.maxDepth := by
  have kept (desk : Desk) (counted : desk.Counted engine.maxDepth) (idle : desk.depth = 0) :
      (engine.performAll history desk).Counted engine.maxDepth := by
    induction history generalizing desk with
    | nil => exact counted
    | cons request history ih =>
      apply ih
      · exact engine.counted_perform request counted (by omega)
      · exact engine.perform_idle request idle
  exact kept Desk.empty (Desk.counted_empty _) rfl

/-! ## When a part of a render is started -/

/-- What is started, directly or not, by a request that is made at a desk, with the number of calls
to render a file in which it is started. -/
inductive Running (request : Request) (desk : Desk) : Nat → Frame → Prop
  | request {frame : Frame} :
      engine.Starts (engine.requestPlan request) desk frame → Running request desk 0 frame
  | job {calls : Nat} {caller callee : Frame} : Running request desk calls caller →
      engine.Starts (engine.plan caller.job) caller.state callee →
      Running request desk (calls + caller.job.calls) callee

variable {engine}

theorem Running.reached {request : Request} {desk : Desk} {calls : Nat} {caller callee : Frame}
    (running : engine.Running request desk calls caller) (reaches : engine.Reaches caller callee) :
    ∃ calls, engine.Running request desk calls callee := by
  induction reaches with
  | refl => exact ⟨calls, running⟩
  | tail _ starts ih =>
    obtain ⟨calls, running⟩ := ih
    exact ⟨_, running.job starts⟩

/-- A request starts nothing before it opens a file. -/
theorem depth_of_requestPlan {request : Request} {desk : Desk} {frame : Frame}
    (starts : engine.Starts (engine.requestPlan request) desk frame) :
    frame.depth = desk.depth := by
  cases request with
  | render name context =>
    rw [requestPlan, namedPlan] at starts
    cases found : engine.find name with
    | none =>
      rw [found] at starts
      cases starts
    | some path =>
      rw [found] at starts
      cases starts
      rfl
  | renderFile path context =>
    cases starts
    rfl
  | renderLayout path context buffer =>
    cases starts
    rfl
  | put name content => cases starts
  | clear => cases starts

/-- As many files are open as calls are in progress. The induction is on how the part of the render
has come to be started; only a file starts its page with one more open file. -/
theorem Running.depth {request : Request} {desk : Desk} {calls : Nat} {frame : Frame}
    (idle : desk.depth = 0) (running : engine.Running request desk calls frame) :
    frame.depth = calls ∧ calls ≤ engine.maxDepth := by
  induction running with
  | request starts =>
    rw [depth_of_requestPlan starts]
    exact ⟨idle, Nat.zero_le _⟩
  | job _ starts ih =>
    obtain ⟨depth, bound⟩ := ih
    rcases starts.level with ⟨deeper, room, one⟩ | ⟨level, -, none⟩
    · rw [one]
      omega
    · rw [none]
      omega

/-! ## The guard -/

variable {path : Path} {context : Fields} {buffer : String} {desk : Desk}

/-- A call that is let in leaves something in the journal. -/
theorem journal_lt_of_room (room : desk.depth < engine.maxDepth) :
    desk.journal.length <
      ((engine.executeOutermost path context buffer).eval desk).2.journal.length := by
  have opened : desk.journal.length ≤ (desk.enter path).journal.length := by
    rcases Nat.eq_zero_or_pos desk.depth with idle | busy
    · rw [Desk.enter_of_idle path idle, Desk.journal_note, Desk.clear, Desk.journal_note]
      simp [Desk.journal]
    · rw [Desk.enter_of_pos path busy, Desk.journal_note]
      simp [Desk.journal]
  let inner := ((Session.ofPage (engine.page path buffer)
    (Page.render engine.pageHost context)).eval (desk.enter path)).2
  have host := engine.hosts_steps (engine.execute_steps (engine.maxDepth + 1))
  have row : ReflTransGen Desk.Step (desk.enter path) inner :=
    (host.ofPage (engine.page path buffer) context (desk.enter path) (by simp)).1
  obtain ⟨done, journal⟩ := Desk.exists_journal_of_steps row
  have closed : ((engine.executeOutermost path context buffer).eval desk).2.journal =
      inner.journal ++ [⟨.closed path, inner.sections, inner.depth - 1⟩] := by
    rw [eval_outermost_of_room room]
    exact Desk.journal_note _ _
  rw [closed, journal]
  simp only [List.length_append, List.length_singleton]
  omega

/-- A call is refused, and leaves the desk as it is, when there is no level left for it, and only
then. -/
theorem refused_iff :
    (engine.executeOutermost path context buffer).eval desk =
      (.error (.tooDeep path engine.maxDepth), desk) ↔ engine.maxDepth ≤ desk.depth := by
  constructor
  · intro refused
    rcases Nat.lt_or_ge desk.depth engine.maxDepth with room | full
    · have longer : desk.journal.length <
          ((engine.executeOutermost path context buffer).eval desk).2.journal.length :=
        journal_lt_of_room room
      rw [refused] at longer
      exact absurd longer (Nat.lt_irrefl _)
    · exact full
  · exact eval_outermost_of_full

end Engine

end Folio
