namespace Folio.Text

/-- What stands before and after the first `sep`. -/
def cut? (sep : Char) : List Char → Option (List Char × List Char)
  | [] => none
  | c :: rest =>
    if c = sep then some ([], rest)
    else (cut? sep rest).map fun parts => (c :: parts.1, parts.2)

/-- The pieces between the occurrences of `sep`: one more than there are occurrences. -/
def split (sep : Char) : List Char → List (List Char)
  | [] => [[]]
  | c :: rest =>
    if c = sep then [] :: split sep rest
    else match split sep rest with
      | [] => [[c]]
      | piece :: pieces => (c :: piece) :: pieces

def splitString (sep : Char) (text : String) : List String :=
  (split sep text.toList).map String.ofList

def joinWith (sep : String) : List String → String
  | [] => ""
  | [piece] => piece
  | piece :: pieces => piece ++ sep ++ joinWith sep pieces

theorem cut?_eq_none_iff {sep : Char} {text : List Char} : cut? sep text = none ↔ sep ∉ text := by
  induction text with
  | nil => simp [cut?]
  | cons c rest ih =>
    by_cases h : c = sep
    · simp [cut?, h]
    · simp [cut?, h, ih, Ne.symm h]

theorem append_of_cut? {sep : Char} {text before after : List Char}
    (h : cut? sep text = some (before, after)) : before ++ sep :: after = text := by
  induction text generalizing before after with
  | nil => simp [cut?] at h
  | cons c rest ih =>
    by_cases hc : c = sep
    · simp [cut?, hc] at h
      simp [← h.1, ← h.2, hc]
    · simp only [cut?, hc, if_false, Option.map_eq_some_iff] at h
      obtain ⟨⟨a, b⟩, hab, heq⟩ := h
      simp only [Prod.mk.injEq] at heq
      rw [← heq.1, ← heq.2, List.cons_append, ih hab]

theorem split_ne_nil (sep : Char) (text : List Char) : split sep text ≠ [] := by
  induction text with
  | nil => simp [split]
  | cons c rest _ =>
    by_cases h : c = sep
    · simp [split, h]
    · simp only [split, h, if_false]
      split <;> simp

theorem split_eq (sep : Char) (text : List Char) :
    split sep text = match cut? sep text with
      | none => [text]
      | some (before, after) => before :: split sep after := by
  induction text with
  | nil => rfl
  | cons c rest ih =>
    by_cases same : c = sep
    · rw [split, cut?, if_pos same, if_pos same]
    · rw [split, cut?, if_neg same, if_neg same, ih]
      cases cut? sep rest <;> rfl

theorem split_append_cons (sep : Char) (a b : List Char) :
    split sep (a ++ sep :: b) = split sep a ++ split sep b := by
  induction a with
  | nil => simp [split]
  | cons c a ih =>
    by_cases same : c = sep
    · simp [split, same, ih]
    · obtain ⟨piece, pieces, found⟩ := List.exists_cons_of_ne_nil (split_ne_nil sep a)
      simp [split, same, ih, found]

theorem split_of_not_mem {sep : Char} {text : List Char} (free : sep ∉ text) :
    split sep text = [text] := by
  rw [split_eq, cut?_eq_none_iff.mpr free]

/-- Only the last piece is longer after a text without separators has been appended. -/
theorem exists_split_append (sep : Char) (text : List Char) :
    ∃ front last, split sep text = front ++ [last] ∧
      ∀ more, sep ∉ more → split sep (text ++ more) = front ++ [last ++ more] := by
  by_cases mem : sep ∈ text
  · -- the last separator is the first one from the end
    obtain ⟨last, before, reversed, free⟩ := List.eq_append_cons_of_mem (List.mem_reverse.mpr mem)
    have whole : text = before.reverse ++ sep :: last.reverse := by
      simpa using congrArg List.reverse reversed
    refine ⟨split sep before.reverse, last.reverse, ?_, fun more flat => ?_⟩
    · have alone : sep ∉ last.reverse := by simpa using free
      rw [whole, split_append_cons, split_of_not_mem alone]
    · have longer : sep ∉ last.reverse ++ more := by simp [free, flat]
      rw [whole, List.append_assoc, List.cons_append, split_append_cons, split_of_not_mem longer]
  · exact ⟨[], text, split_of_not_mem mem, fun more flat => split_of_not_mem (by simp [mem, flat])⟩

theorem cut?_append (sep : Char) (a b : List Char) :
    cut? sep (a ++ sep :: b) =
      match cut? sep a with
      | none => some (a, b)
      | some (before, after) => some (before, after ++ sep :: b) := by
  induction a with
  | nil => simp [cut?]
  | cons c a ih =>
    by_cases same : c = sep
    · simp [cut?, same]
    · rw [List.cons_append, cut?, cut?, if_neg same, if_neg same, ih]
      cases cut? sep a <;> rfl

end Folio.Text
