import Folio.Files.Path
import Mathlib

namespace Folio

namespace Path

/-! ## Joined paths -/

def steps (path : Path) : List String :=
  path.segments.filter fun segment => !isIdle segment

theorem segments_slash (front rest : Path) :
    segments (front ++ "/" ++ rest) = front.segments ++ rest.segments := by
  have text : (front ++ "/" ++ rest).toList = front.toList ++ '/' :: rest.toList := by simp
  rw [segments, Text.splitString, text, Text.split_append_cons, List.map_append]
  rfl

theorem steps_slash (front rest : Path) :
    steps (front ++ "/" ++ rest) = front.steps ++ rest.steps := by
  rw [steps, segments_slash, List.filter_append]
  rfl

/-- A relative path goes on from the folder that it is joined to. -/
theorem steps_join (base : Path) {child : Path} (relative : child.isAbsolute = false) :
    (join base child).steps = base.steps ++ child.steps := by
  rw [join, if_neg (by simp [relative])]
  split
  · rename_i ended
    rcases ended with rfl | ended
    · rw [String.empty_append]
      rfl
    · obtain ⟨front, text⟩ := List.getLast?_eq_some_iff.mp ended
      have whole : base = String.ofList front ++ "/" := String.toList_injective (by simp [text])
      have alone := steps_slash (String.ofList front) ""
      have nowhere : steps "" = [] := rfl
      rw [String.append_empty, nowhere, List.append_nil] at alone
      rw [whole, steps_slash, alone]
  · exact steps_slash base child

theorem isAbsolute_append {path : Path} (nonempty : path ≠ "") (more : String) :
    isAbsolute (path ++ more) = path.isAbsolute := by
  obtain ⟨c, rest, text⟩ := List.exists_cons_of_ne_nil (mt String.toList_eq_nil_iff.mp nonempty)
  simp [isAbsolute, text]

theorem isAbsolute_join (base : Path) {child : Path} (relative : child.isAbsolute = false) :
    (join base child).isAbsolute = base.isAbsolute := by
  by_cases nonempty : base = ""
  · rw [nonempty, join_empty relative, relative]
    rfl
  · rw [join, if_neg (by simp [relative])]
    split
    · exact isAbsolute_append nonempty child
    · rw [String.append_assoc]
      exact isAbsolute_append nonempty _

/-- The path is in the folder or below it: it goes on from the folder, and never to a parent. -/
structure Within (path folder : Path) : Prop where
  start : path.isAbsolute = folder.isAbsolute
  steps : ∃ below, path.steps = folder.steps ++ below ∧ ".." ∉ below

theorem parent_not_mem_steps {path : Path} (inside : path.climbs = false) : ".." ∉ path.steps := by
  intro mem
  have climbs : path.climbs = true :=
    List.any_eq_true.mpr ⟨"..", (List.mem_filter.mp mem).1, rfl⟩
  rw [inside] at climbs
  cases climbs

/-- A relative path that does not climb stays below the folder that it is joined to. -/
theorem within_join (base : Path) {child : Path} (relative : child.isAbsolute = false)
    (inside : child.climbs = false) : (join base child).Within base where
  start := isAbsolute_join base relative
  steps := ⟨child.steps, steps_join base relative, parent_not_mem_steps inside⟩

/-! ## Extensions -/

theorem exists_segments_dotted (path : Path) :
    ∃ front last, path.segments = front ++ [last] ∧
      ∀ extension : String, '/' ∉ extension.toList →
        segments (path ++ "." ++ extension) = front ++ [last ++ "." ++ extension] := by
  obtain ⟨front, last, whole, longer⟩ := Text.exists_split_append '/' path.toList
  refine ⟨front.map String.ofList, String.ofList last, ?_, fun extension flat => ?_⟩
  · simp [segments, Text.splitString, whole]
  · have free : '/' ∉ '.' :: extension.toList := by simpa using flat
    have text : (path ++ "." ++ extension).toList = path.toList ++ '.' :: extension.toList := by
      simp
    rw [segments, Text.splitString, text, longer _ free]
    simp [String.ofList_append, String.append_assoc]

/-- A segment with an extension is no parent of a folder, and leads somewhere. -/
theorem dotted_ne_parent {extension : String} (named : extension ≠ "") (more : extension ≠ ".")
    (segment : String) : segment ++ "." ++ extension ≠ ".." := by
  intro same
  have text : segment.toList ++ '.' :: extension.toList = ['.', '.'] := by
    simpa using congrArg String.toList same
  rcases List.append_eq_cons_iff.mp text with ⟨-, rest⟩ | ⟨rest, -, single⟩
  · exact more (String.toList_injective (List.cons.inj rest).2)
  · rcases List.append_eq_cons_iff.mp single.symm with ⟨-, rest⟩ | ⟨_, -, nothing⟩
    · exact named (String.toList_injective (List.cons.inj rest).2)
    · simp at nothing

theorem climbs_dotted {path : Path} {extension : String} (named : extension ≠ "")
    (flat : '/' ∉ extension.toList) (more : extension ≠ ".") (inside : path.climbs = false) :
    climbs (path ++ "." ++ extension) = false := by
  obtain ⟨front, last, whole, longer⟩ := exists_segments_dotted path
  rw [climbs, whole, List.any_append, Bool.or_eq_false_iff] at inside
  rw [climbs, longer extension flat, List.any_append, inside.1]
  simpa using dotted_ne_parent named more last

/-- What follows the last dot of an extension; all of it if there is none. -/
def afterDot (extension : String) : String :=
  match Text.cut? '.' extension.toList.reverse with
  | some (after, _) => String.ofList after.reverse
  | none => extension

theorem afterDot_of_undotted {extension : String} (undotted : '.' ∉ extension.toList) :
    afterDot extension = extension := by
  rw [afterDot, Text.cut?_eq_none_iff.mpr (by simpa using undotted)]

/-- The extension of a path is only what follows the last dot of what has been appended. -/
theorem extension?_dotted {path : Path} {extension : String}
    (stem : path.segments.getLast? ≠ some "") (named : extension ≠ "")
    (flat : '/' ∉ extension.toList) :
    extension? (path ++ "." ++ extension) = some (afterDot extension) := by
  obtain ⟨front, last, whole, longer⟩ := exists_segments_dotted path
  have nonempty : last.toList ≠ [] := by
    intro none
    exact stem (by simp [whole, String.toList_eq_nil_iff.mp none])
  have text : (last ++ "." ++ extension).toList = last.toList ++ '.' :: extension.toList := by simp
  have long : 2 < (last ++ "." ++ extension).toList.length := by
    have first := List.length_pos_iff.mpr nonempty
    have second := List.length_pos_iff.mpr (mt String.toList_eq_nil_iff.mp named)
    rw [text, List.length_append, List.length_cons]
    omega
  have apart : ∀ short : String, short.toList.length ≤ 2 → last ++ "." ++ extension ≠ short := by
    rintro short small rfl
    omega
  have leads : isIdle (last ++ "." ++ extension) = false := by
    simp [isIdle, apart "" (by decide), apart "." (by decide)]
  have file : fileName? (path ++ "." ++ extension) = some (last ++ "." ++ extension) := by
    rw [fileName?, longer extension flat, List.filter_append]
    simp [leads, apart ".." (by decide)]
  rw [extension?, file, Option.bind_some, text, List.reverse_append, List.reverse_cons,
    List.append_assoc, List.singleton_append]
  dsimp only
  rw [Text.cut?_append, afterDot]
  cases Text.cut? '.' extension.toList.reverse <;> simp [nonempty]

end Path

end Folio
