import Folio.Proofs.Expr.Numerals

/-! Words and numbers go on as long as their characters do. They stop at white space and at the
delimiters between parts, neither of which stands at the start of a part. -/

namespace Folio

/-! ## Characters -/

namespace Text

/-- No code point lies in two sets whose ranges lie apart. -/
theorem Ranges.has_eq_false_of_apart {ranges others : Ranges} {n : Nat}
    (apart : ∀ range ∈ ranges, ∀ other ∈ others, range.2 < other.1 ∨ other.2 < range.1)
    (h : ranges.has n = true) : others.has n = false := by
  obtain ⟨range, mem, low, high⟩ := Ranges.has_iff.mp h
  rw [Bool.eq_false_iff]
  intro h'
  obtain ⟨other, mem', low', high'⟩ := Ranges.has_iff.mp h'
  rcases apart range mem other mem' with lt | lt <;> omega

theorem isDigit_iff {c : Char} : c.isDigit = true ↔ 48 ≤ c.toNat ∧ c.toNat ≤ 57 := by
  simp only [Char.isDigit, Bool.and_eq_true, decide_eq_true_eq, UInt32.le_iff_toNat_le, ge_iff_le]
  exact Iff.rfl

theorem le_toNat_of_isAlpha {c : Char} (h : c.isAlpha = true) : 65 ≤ c.toNat := by
  change (decide (c.val ≥ 'A'.val ∧ c.val ≤ 'Z'.val) ||
    (c.val ≥ 'a'.val && c.val ≤ 'z'.val)) = true at h
  simp only [Bool.or_eq_true, Bool.and_eq_true, decide_eq_true_eq, UInt32.le_iff_toNat_le,
    ge_iff_le] at h
  change 65 ≤ c.toNat ∧ _ ∨ 97 ≤ c.toNat ∧ _ at h
  omega

theorem le_of_isBlank {c : Char} (h : isBlank c = true) (ascii : c.toNat < 128) :
    c.toNat ≤ 32 := by
  simp only [isBlank, blankRanges, Ranges.has, List.any_cons, List.any_nil, Bool.or_false,
    Bool.or_eq_true, Bool.and_eq_true, decide_eq_true_eq] at h
  omega

theorem isAlphanumeric_of_isBlank {c : Char} (h : isBlank c = true) :
    isAlphanumeric c = false := by
  by_cases ascii : c.toNat < 128
  · have low := le_of_isBlank h ascii
    have letter : c.isAlpha = false := Bool.eq_false_iff.mpr fun is => by
      have := le_toNat_of_isAlpha is
      omega
    have digit : c.isDigit = false := Bool.eq_false_iff.mpr fun is => by
      have := isDigit_iff.mp is
      omega
    simp [isAlphanumeric, isLetter, isNumeral, ascii, letter, digit]
  · have letter : letterRanges.has c.toNat = false :=
      Ranges.has_eq_false_of_apart (by decide +kernel) h
    have numeral : numeralRanges.has c.toNat = false :=
      Ranges.has_eq_false_of_apart (by decide +kernel) h
    simp [isAlphanumeric, isLetter, isNumeral, ascii, letter, numeral]

theorem trimStart_append {blanks : List Char} (h : AllBlank blanks) (text : List Char) :
    trimStart (blanks ++ text) = trimStart text :=
  List.dropWhile_append_of_pos h

@[simp] theorem trimStart_cons_of_not_blank {c : Char} (h : isBlank c = false) (text : List Char) :
    trimStart (c :: text) = c :: text := by
  simp [trimStart, h]

end Text

namespace Expr

open Text (AllBlank isBlank trimStart trimStart_append trimStart_cons_of_not_blank)

/-! ## Delimiters -/

def isDelimiter (c : Char) : Bool :=
  c = ',' || c = ':' || c = ']' || c = '}' || c = ')'

theorem eq_of_isDelimiter {c : Char} (h : isDelimiter c = true) :
    c = ',' ∨ c = ':' ∨ c = ']' ∨ c = '}' ∨ c = ')' := by
  simpa [isDelimiter, or_assoc] using h

theorem isBlank_of_isDelimiter {c : Char} (h : isDelimiter c = true) : isBlank c = false := by
  rcases eq_of_isDelimiter h with rfl | rfl | rfl | rfl | rfl <;> decide

theorem isNameChar_of_isDelimiter {c : Char} (h : isDelimiter c = true) :
    isNameChar c = false := by
  rcases eq_of_isDelimiter h with rfl | rfl | rfl | rfl | rfl <;> decide

theorem isNameChar_of_isBlank {c : Char} (h : isBlank c = true) : isNameChar c = false := by
  have ne : c ≠ '_' ∧ c ≠ '.' := by constructor <;> rintro rfl <;> revert h <;> decide
  simp [isNameChar, Text.isAlphanumeric_of_isBlank h, ne]

theorem isNameChar_of_isNameStart {c : Char} (h : isNameStart c = true) : isNameChar c = true := by
  simp only [isNameStart, Bool.or_eq_true, decide_eq_true_eq] at h
  rcases h with letter | rfl
  · simp [isNameChar, Text.isAlphanumeric_of_isLetter letter]
  · decide

theorem isNameChar_of_isNumberChar {c : Char} (h : isNumberChar c = true) :
    isNameChar c = true := by
  simp only [isNumberChar, Bool.or_eq_true, decide_eq_true_eq] at h
  rcases h with ((digit | rfl) | rfl) | rfl
  · have := Text.isDigit_iff.mp digit
    have ascii : c.toNat < 128 := by omega
    simp [isNameChar, Text.isAlphanumeric, Text.isNumeral, ascii, digit]
  all_goals decide

theorem ne_of_isNameStart {c : Char} (h : isNameStart c = true) :
    ¬ (c = '"' ∨ c = '\'') ∧ c ≠ '[' ∧ c ≠ '{' ∧ ¬ (c = '-' ∨ c.isDigit = true) := by
  refine ⟨?_, ?_, ?_, ?_⟩
  · rintro (rfl | rfl) <;> revert h <;> decide
  · rintro rfl; revert h; decide
  · rintro rfl; revert h; decide
  · rintro (rfl | digit)
    · revert h; decide
    · have range := Text.isDigit_iff.mp digit
      have ascii : c.toNat < 128 := by omega
      have letter : c.isAlpha = false := Bool.eq_false_iff.mpr fun is => by
        have := Text.le_toNat_of_isAlpha is
        omega
      have ne : c ≠ '_' := by rintro rfl; revert digit; decide
      simp [isNameStart, Text.isLetter, ascii, letter, ne] at h

/-! ## After a part -/

/-- After a part and white space the text ends, or a delimiter stands there. -/
def Stops (rest : List Char) : Prop :=
  ∀ c ∈ (trimStart rest).head?, isDelimiter c = true

theorem stops_nil : Stops [] := by
  simp [Stops, trimStart]

theorem stops_cons {c : Char} (h : isDelimiter c = true) (rest : List Char) :
    Stops (c :: rest) := by
  simp [Stops, isBlank_of_isDelimiter h, h]

theorem Stops.append {blanks rest : List Char} (h : Stops rest) (blank : AllBlank blanks) :
    Stops (blanks ++ rest) := by
  rwa [Stops, trimStart_append blank]

theorem Stops.isNameChar {rest : List Char} (h : Stops rest) {c : Char}
    (head : rest.head? = some c) : isNameChar c = false := by
  obtain ⟨rest, rfl⟩ := List.head?_eq_some_iff.mp head
  cases blank : isBlank c with
  | true => exact isNameChar_of_isBlank blank
  | false => exact isNameChar_of_isDelimiter (h c (by simp [blank]))

theorem Stops.isNumberChar {rest : List Char} (h : Stops rest) {c : Char}
    (head : rest.head? = some c) : isNumberChar c = false := by
  rw [Bool.eq_false_iff]
  intro number
  exact absurd (isNameChar_of_isNumberChar number) (by simp [h.isNameChar head])

theorem Stops.ne_parenthesis {rest more : List Char} (h : Stops rest) :
    trimStart rest ≠ '(' :: more := by
  intro eq
  have := h '(' (by simp [eq])
  revert this
  decide

theorem takeWhile_append_stop {keep : Char → Bool} {text rest : List Char}
    (all : ∀ c ∈ text, keep c = true) (stop : ∀ c, rest.head? = some c → keep c = false) :
    (text ++ rest).takeWhile keep = text ∧ (text ++ rest).dropWhile keep = rest := by
  rw [List.takeWhile_append_of_pos all, List.dropWhile_append_of_pos all]
  cases rest with
  | nil => simp
  | cons c rest => simp [stop c rfl]

/-! ## The two ends of a part -/

/-- Neither white space nor a delimiter stands at the start of a part. -/
def Opens (text : List Char) : Prop :=
  ∃ first rest, text = first :: rest ∧ isBlank first = false ∧ isDelimiter first = false

/-- No white space stands at the end of a part. -/
def Closes (text : List Char) : Prop :=
  ∃ front last, text = front ++ [last] ∧ isBlank last = false

theorem Opens.append {text : List Char} (h : Opens text) (rest : List Char) :
    Opens (text ++ rest) := by
  obtain ⟨first, others, rfl, visible, plain⟩ := h
  exact ⟨first, others ++ rest, rfl, visible, plain⟩

theorem Opens.trimStart_append {text : List Char} (h : Opens text) {blanks : List Char}
    (blank : AllBlank blanks) (rest : List Char) :
    trimStart (blanks ++ (text ++ rest)) = text ++ rest := by
  obtain ⟨first, others, rfl, visible, _⟩ := h
  rw [Text.trimStart_append blank, List.cons_append, trimStart_cons_of_not_blank visible]

theorem trim_padded {core text : List Char} (opens : Opens core) (closes : Closes core)
    (padded : Padded core text) : Text.trim text = core := by
  obtain ⟨before, after, blank, blank', rfl⟩ := padded
  rw [List.append_assoc, Text.trim, opens.trimStart_append blank]
  obtain ⟨front, last, rfl, visible⟩ := closes
  have reversed : (front ++ [last] ++ after).reverse = after.reverse ++ last :: front.reverse := by
    simp
  have blank' : AllBlank after.reverse := fun c mem => blank' c (List.mem_reverse.mp mem)
  rw [Text.trimEnd, reversed, List.dropWhile_append_of_pos blank']
  simp [visible]

/-- A word or a number: nothing but minus signs and characters of names. -/
structure Bare (text : List Char) : Prop where
  ne_nil : text ≠ []
  all : ∀ c ∈ text, c = '-' ∨ isNameChar c = true

namespace Bare

variable {text : List Char}

theorem visible (h : Bare text) {c : Char} (mem : c ∈ text) : isBlank c = false := by
  rcases h.all c mem with rfl | name
  · decide
  · rw [Bool.eq_false_iff]
    intro blank
    simp [isNameChar_of_isBlank blank] at name

theorem plain (h : Bare text) {c : Char} (mem : c ∈ text) : isDelimiter c = false := by
  rcases h.all c mem with rfl | name
  · decide
  · rw [Bool.eq_false_iff]
    intro delimiter
    simp [isNameChar_of_isDelimiter delimiter] at name

theorem opens (h : Bare text) : Opens text := by
  obtain ⟨first, rest, rfl⟩ := List.exists_cons_of_ne_nil h.ne_nil
  exact ⟨first, rest, rfl, h.visible List.mem_cons_self, h.plain List.mem_cons_self⟩

theorem closes (h : Bare text) : Closes text :=
  ⟨_, _, (List.dropLast_concat_getLast h.ne_nil).symm, h.visible (List.getLast_mem h.ne_nil)⟩

end Bare

theorem IsWord.isNameChar {text : List Char} (h : IsWord text) {c : Char} (mem : c ∈ text) :
    isNameChar c = true := by
  obtain ⟨first, rest, rfl, start, all⟩ := h
  rcases List.mem_cons.mp mem with rfl | mem
  · exact isNameChar_of_isNameStart start
  · exact all c mem

theorem IsWord.bare {text : List Char} (h : IsWord text) : Bare text where
  ne_nil := by obtain ⟨first, rest, rfl, _⟩ := h; exact List.cons_ne_nil _ _
  all _ mem := .inr (h.isNameChar mem)

theorem IsNumeral.bare {text : List Char} (h : IsNumeral text) : Bare text := by
  obtain ⟨first, rest, rfl, start, all⟩ := h
  refine ⟨List.cons_ne_nil _ _, List.forall_mem_cons.mpr ⟨?_, fun c mem => ?_⟩⟩
  · exact start.imp_right fun digit =>
      isNameChar_of_isNumberChar (by simp [isNumberChar, digit])
  · exact .inr (isNameChar_of_isNumberChar (all c mem))

theorem isWord_true : IsWord "true".toList := by decide

theorem isWord_false : IsWord "false".toList := by decide

theorem isWord_null : IsWord "null".toList := by decide

section
variable {style : Style} {text : List Char}

/-- A literal is a string in quotes, a number or a keyword. -/
theorem Written.quoted_or_bare {value : Value} (h : Written style (.literal value) text) :
    (∃ s, Quoted style s text) ∨ Bare text := by
  cases h with
  | @text s _ quoted => exact .inl ⟨s, quoted⟩
  | whole => exact .inr (isNumeral_toString _).bare
  | real numeral => exact .inr numeral.bare
  | bool b =>
    cases b
    · exact .inr isWord_false.bare
    · exact .inr isWord_true.bare
  | null => exact .inr isWord_null.bare

theorem Quoted.opens {s : String} (h : Quoted style s text) : Opens text := by
  cases h with
  | mk quotes _ => rcases quotes with rfl | rfl <;> exact ⟨_, _, rfl, by decide, by decide⟩

theorem Quoted.closes {s : String} (h : Quoted style s text) : Closes text := by
  cases h with
  | mk quotes _ => rcases quotes with rfl | rfl <;> exact ⟨_, _, rfl, by decide⟩

theorem Written.opens {expr : Expr} (h : Written style expr text) : Opens text := by
  cases expr with
  | literal value =>
    rcases h.quoted_or_bare with ⟨s, quoted⟩ | bare
    · exact quoted.opens
    · exact bare.opens
  | key =>
    cases h with
    | key name => exact name.word.bare.opens
  | list =>
    cases h with
    | list => exact ⟨'[', _, rfl, by decide, by decide⟩
  | object =>
    cases h with
    | object => exact ⟨'{', _, rfl, by decide, by decide⟩
  | call =>
    cases h with
    | call name => simpa only [List.append_assoc] using name.word.bare.opens.append _

theorem Written.closes {expr : Expr} (h : Written style expr text) : Closes text := by
  cases expr with
  | literal value =>
    rcases h.quoted_or_bare with ⟨s, quoted⟩ | bare
    · exact quoted.closes
    · exact bare.closes
  | key =>
    cases h with
    | key name => exact name.word.bare.closes
  | list =>
    cases h with
    | list => exact ⟨_, _, rfl, by decide⟩
  | object =>
    cases h with
    | object => exact ⟨_, _, rfl, by decide⟩
  | call =>
    cases h with
    | call => exact ⟨_, _, rfl, by decide⟩

theorem Field.opens {written : Expr → List Char → Prop} {field : String × Expr}
    (h : Field style written field text) : Opens text := by
  cases h with
  | mk label =>
    rcases label with quoted | ⟨word, rfl⟩
    · simpa only [List.append_assoc] using quoted.opens.append _
    · simpa only [List.append_assoc] using word.bare.opens.append _

end

end Expr

end Folio
