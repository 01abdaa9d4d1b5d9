import Folio.Proofs.Expr.Delimiters
import Folio.Proofs.Expr.Reading

/-!
# Written expressions are read back

Whatever stands around its parts, a written expression is read as the expression that it was written
from, or refused if it is nested too deep.

* `IsRow.reads`: a loop reads a row of parts, each of which is read alone;
* `readable`: every written expression is read as far as the levels go;
* `levels_le_of_nested`: nothing is read that is nested deeper than the levels allow;
* `read_written`: what is read of a written expression.
-/

namespace Folio.Expr

open Text (AllBlank trimStart trimStart_append trimStart_cons_of_not_blank)

/-! ## Rows -/

/-- A reader reads the part from all that is written for it, with white space before it, if the
part fits, and refuses it as nested too deep otherwise. -/
def Reads {α : Type} (one : List Char → Except ExprError (α × List Char)) (fits : α → Bool)
    (written : α → List Char → Prop) (part : α) : Prop :=
  ∀ blanks core rest, AllBlank blanks → written part core → Stops rest →
    one (blanks ++ (core ++ rest)) = if fits part then .ok (part, rest) else .error .tooDeep

section
variable {α : Type} {one : List Char → Except ExprError (α × List Char)}
  {row : List Char → Except ExprError (List α × List Char)} {close : Char} {fits : α → Bool}
  {written : α → List Char → Prop} {parts : List α} {inner : List Char}

/-- A loop reads a row of at least one part, each of which its reader reads. The induction is on the
row: after the first part stands a comma or the closing character, at which the part stops. -/
theorem IsRow.reads (loop : IsRow one row close) (delimiter : isDelimiter close = true)
    (members : ∀ part ∈ parts, Reads one fits written part) (h : Row written parts inner)
    (ne : parts ≠ []) (rest : List Char) :
    row (inner ++ close :: rest) =
      if parts.all fits then .ok (parts, rest) else .error .tooDeep := by
  induction h with
  | none => exact absurd rfl ne
  | @last part core text h padded =>
    obtain ⟨before, after, blank, blank', rfl⟩ := padded
    have read := members part (List.mem_singleton_self part) before core (after ++ close :: rest)
      blank h ((stops_cons delimiter rest).append blank')
    simp only [List.append_assoc, List.all_cons, List.all_nil, Bool.and_true]
    by_cases fit : fits part = true
    · rw [if_pos fit] at read
      rw [if_pos fit, loop.last read (by rw [trimStart_append blank',
        trimStart_cons_of_not_blank (isBlank_of_isDelimiter delimiter)])]
    · rw [if_neg fit] at read
      rw [if_neg fit, loop.failed read]
  | @next part other parts core text more h padded _ ih =>
    obtain ⟨before, after, blank, blank', rfl⟩ := padded
    have read := members part List.mem_cons_self before core
      (after ++ ',' :: (more ++ close :: rest)) blank h ((stops_cons (by decide) _).append blank')
    have later := ih (fun part mem => members part (List.mem_cons_of_mem _ mem))
      (List.cons_ne_nil _ _)
    rw [List.all_cons, List.append_assoc, List.append_assoc, List.append_assoc, List.cons_append]
    by_cases fit : fits part = true
    · rw [if_pos fit] at read
      rw [fit, Bool.true_and, loop.next read
        (by rw [trimStart_append blank', trimStart_cons_of_not_blank (by decide)]), later]
      split <;> rfl
    · rw [if_neg fit] at read
      rw [loop.failed read, if_neg (by simp [fit])]

theorem Row.opens (h : Row written parts inner) (ne : parts ≠ [])
    (opens : ∀ part core, written part core → Opens core) (rest : List Char) :
    ∃ c more, trimStart (inner ++ rest) = c :: more ∧ isDelimiter c = false := by
  have start : ∀ {part core text more}, written part core → Padded core text →
      ∃ c more', trimStart (text ++ more) = c :: more' ∧ isDelimiter c = false := by
    rintro part core text more h ⟨before, after, blank, _, rfl⟩
    obtain ⟨first, others, rfl, visible, plain⟩ := opens part core h
    refine ⟨first, others ++ (after ++ more), ?_, plain⟩
    simp only [List.append_assoc, trimStart_append blank, List.cons_append,
      trimStart_cons_of_not_blank visible]
  cases h with
  | none => exact absurd rfl ne
  | last h padded => exact start h padded
  | next h padded more => simpa only [List.append_assoc] using start h padded

theorem IsRow.closedOr_reads (loop : IsRow one row close) (delimiter : isDelimiter close = true)
    (members : ∀ part ∈ parts, Reads one fits written part)
    (opens : ∀ part core, written part core → Opens core) (h : Row written parts inner)
    (rest : List Char) :
    closedOr close row (inner ++ close :: rest) =
      if parts.all fits then .ok (parts, rest) else .error .tooDeep := by
  by_cases ne : parts = []
  · subst ne
    cases h with
    | none blank =>
      rw [closedOr, trimStart_append blank,
        trimStart_cons_of_not_blank (isBlank_of_isDelimiter delimiter),
        if_pos List.head?_cons]
      rfl
  · obtain ⟨c, more, eq, plain⟩ := h.opens ne opens (close :: rest)
    rw [closedOr, eq, if_neg, loop.reads delimiter members h ne]
    rintro ⟨⟩
    exact Bool.false_ne_true (plain.symm.trans delimiter)

end

/-! ## Strings, numbers and names -/

theorem outcome_stringRest_append {style : Style} {quote : Char} (ne : quote ≠ '\\')
    {chars text : List Char} (h : Spelled style quote chars text) (rest : List Char) :
    outcome (stringRest quote (text ++ quote :: rest)) = .ok (chars, rest) := by
  induction h with
  | nil => exact outcome_stringRest_quote ne rest
  | @plain c chars text other free _ ih =>
    have slash : c ≠ '\\' := by
      rintro rfl
      exact Bool.false_ne_true (free.symm.trans style.backslash)
    rw [List.cons_append, outcome_stringRest_plain slash other, ih]
    rfl
  | @escaped c chars text n t _ ih =>
    have same : escaped c = c := by
      unfold escaped
      split
      · exact absurd rfl n
      · exact absurd rfl t
      · rfl
    rw [List.cons_append, List.cons_append, outcome_stringRest_guarded, ih, same]
    rfl

theorem outcome_string_append {style : Style} {s : String} {text : List Char}
    (h : Quoted style s text) (rest : List Char) :
    outcome (string (text ++ rest)) = .ok (s, rest) := by
  cases h with
  | @mk quote text quotes spelled =>
    have ne : quote ≠ '\\' := by rcases quotes with rfl | rfl <;> decide
    rw [List.cons_append, List.cons_append, List.append_assoc, List.singleton_append,
      outcome_string, outcome_stringRest_append ne spelled]
    simp [Except.map]

theorem outcome_dottedName_append {text rest : List Char} (h : IsWord text)
    (stop : ∀ c, rest.head? = some c → isNameChar c = false) :
    outcome (dottedName (text ++ rest)) = .ok (String.ofList text, rest) := by
  obtain ⟨first, others, rfl, _, all⟩ := h
  obtain ⟨taken, dropped⟩ := takeWhile_append_stop all stop
  rw [List.cons_append, outcome_dottedName, taken, dropped]

theorem outcome_number_append {text rest : List Char} (h : IsNumeral text)
    (stop : ∀ c, rest.head? = some c → isNumberChar c = false) :
    outcome (number (text ++ rest)) =
      match number? text with
      | some n => .ok (.number n, rest)
      | none => .error (.badNumber (String.ofList text)) := by
  obtain ⟨first, others, rfl, _, all⟩ := h
  obtain ⟨taken, dropped⟩ := takeWhile_append_stop all stop
  rw [List.cons_append, outcome_number]
  cases read : number? (first :: others) <;> simp [taken, dropped, read]

/-! ## Whole expressions -/

section
variable {style : Style} {rest : List Char} {nested : Reader Expr}

/-- A written expression is read as far as the levels go. -/
def Readable (style : Style) (expr : Expr) : Prop :=
  ∀ levels, Reads (fun text => outcome (Expr.nested levels text))
    (fun expr => decide (expr.levels ≤ levels)) (Written style) expr

/-- It is enough to look at the text from the first character of the expression on. -/
theorem Readable.of_term {expr : Expr}
    (h : ∀ levels core rest, Written style expr core → Stops rest →
      outcome (term (Expr.nested levels) (core ++ rest)) =
        if expr.levels ≤ levels + 1 then .ok (expr, rest) else .error .tooDeep) :
    Readable style expr := by
  intro levels blanks core rest blank written stops
  dsimp only
  cases levels with
  | zero =>
    have pos := expr.levels_pos
    rw [if_neg (by simp only [decide_eq_true_eq]; omega)]
    rfl
  | succ levels =>
    rw [outcome_nested, written.opens.trimStart_append blank, h levels core rest written stops]
    simp only [decide_eq_true_eq]

theorem outcome_term_text {s : String} {text : List Char}
    (h : Quoted style s text) :
    outcome (term nested (text ++ rest)) = .ok (.literal (.text s), rest) := by
  have read := outcome_string_append h rest
  cases h with
  | mk quotes _ =>
    simp only [List.cons_append] at read ⊢
    rw [outcome_term, if_pos quotes, read]
    rfl

/-- A number is read as far as its characters go, or refused with them. -/
theorem outcome_term_numeral {text : List Char} (h : IsNumeral text)
    (stop : ∀ c, rest.head? = some c → isNumberChar c = false) :
    outcome (term nested (text ++ rest)) =
      match number? text with
      | some n => .ok (.literal (.number n), rest)
      | none => .error (.badNumber (String.ofList text)) := by
  have read := outcome_number_append h stop
  obtain ⟨first, others, rfl, start, _⟩ := h
  -- a minus sign or a digit is none of the characters that are looked for before it
  have ne : ¬ (first = '"' ∨ first = '\'') ∧ first ≠ '[' ∧ first ≠ '{' := by
    rcases start with rfl | digit
    · decide
    · refine ⟨?_, ?_, ?_⟩
      · rintro (rfl | rfl) <;> revert digit <;> decide
      · rintro rfl; revert digit; decide
      · rintro rfl; revert digit; decide
  rw [List.cons_append] at read ⊢
  rw [outcome_term, if_neg ne.1, if_neg ne.2.1, if_neg ne.2.2, if_pos start, read]
  cases number? (first :: others) <;> rfl

theorem outcome_term_number {n : Number} {text : List Char}
    (h : IsNumeral text) (value : number? text = some n) (stops : Stops rest) :
    outcome (term nested (text ++ rest)) = .ok (.literal (.number n), rest) := by
  rw [outcome_term_numeral h fun _ => stops.isNumberChar, value]

theorem outcome_term_name {text : List Char} (h : IsWord text) :
    outcome (term nested (text ++ rest)) = outcome (nameOrCall nested (text ++ rest)) := by
  obtain ⟨first, others, rfl, start, _⟩ := h
  obtain ⟨quote, bracket, brace, number⟩ := ne_of_isNameStart start
  rw [List.cons_append, outcome_term, if_neg quote, if_neg bracket, if_neg brace, if_neg number,
    if_pos start]

theorem outcome_term_keyword {word : String} {value : Value}
    (h : IsWord word.toList) (keyword : keyword? word = some value) (stops : Stops rest) :
    outcome (term nested (word.toList ++ rest)) = .ok (.literal value, rest) := by
  rw [outcome_term_name h, outcome_nameOrCall,
    outcome_dottedName_append h fun _ => stops.isNameChar]
  simp [bind, Except.bind, keyword, pure, Except.pure]

theorem keyword?_of_isName {name : String} (h : IsName name) : keyword? name = none := by
  simp [keyword?, h.free]

theorem outcome_term_key {name : String} (h : IsName name) (stops : Stops rest) :
    outcome (term nested (name.toList ++ rest)) = .ok (.key name, rest) := by
  rw [outcome_term_name h.word, outcome_nameOrCall,
    outcome_dottedName_append h.word fun _ => stops.isNameChar]
  simp only [bind, Except.bind, String.ofList_toList, keyword?_of_isName h]
  split
  · rename_i more eq
    exact absurd eq stops.ne_parenthesis
  · rfl

theorem outcome_term_call {name : String} (h : IsName name) {gap : List Char}
    (blank : AllBlank gap) (rest : List Char) :
    outcome (term nested (name.toList ++ (gap ++ '(' :: rest))) =
      (outcome (bracketed nested ')' rest)).map fun read => (.call name read.1, read.2) := by
  have stop : ∀ c, (gap ++ '(' :: rest).head? = some c → isNameChar c = false := by
    intro c head
    cases gap with
    | nil => cases head; decide
    | cons first gap => cases head; exact isNameChar_of_isBlank (blank _ List.mem_cons_self)
  have parenthesis : trimStart (gap ++ '(' :: rest) = '(' :: rest := by
    rw [trimStart_append blank, trimStart_cons_of_not_blank (by decide)]
  rw [outcome_term_name h.word, outcome_nameOrCall, outcome_dottedName_append h.word stop]
  simp only [bind, Except.bind, String.ofList_toList, keyword?_of_isName h, parenthesis]
  cases outcome (bracketed nested ')' rest) <;> rfl

theorem outcome_term_list (rest : List Char) :
    outcome (term nested ('[' :: rest)) =
      (outcome (bracketed nested ']' rest)).map fun read => (.list read.1, read.2) := by
  rw [outcome_term, if_neg (by decide), if_pos rfl]

theorem outcome_term_object (rest : List Char) :
    outcome (term nested ('{' :: rest)) =
      (outcome (braced nested rest)).map fun read => (.object read.1, read.2) := by
  rw [outcome_term, if_neg (by decide), if_neg (by decide), if_pos rfl]

theorem outcome_bracketed_append {items : List Expr} {inner : List Char} {close : Char}
    (delimiter : isDelimiter close = true) (ne : close ≠ ',')
    (members : ∀ item ∈ items, Readable style item) (h : Row (Written style) items inner)
    (levels : Nat) (rest : List Char) :
    outcome (bracketed (Expr.nested levels) close (inner ++ close :: rest)) =
      if levelsAll items ≤ levels then .ok (items, rest) else .error .tooDeep := by
  rw [outcome_bracketed, (isRow_items _ ne).closedOr_reads delimiter
    (fun item mem => members item mem levels) (fun _ _ written => written.opens) h]
  simp only [levelsAll_le_iff, List.all_eq_true, decide_eq_true_eq]

theorem outcome_fieldName_append {name : String} {label rest : List Char}
    (h : Quoted style name label ∨ IsWord name.toList ∧ label = name.toList) (stops : Stops rest) :
    outcome (fieldName (label ++ rest)) = .ok (name, rest) := by
  rcases h with quoted | ⟨word, rfl⟩
  · have read := outcome_string_append quoted rest
    cases quoted with
    | mk quotes _ =>
      simp only [List.cons_append] at read ⊢
      rw [outcome_fieldName_quote quotes, read]
  · have read := outcome_dottedName_append word fun _ => stops.isNameChar
    obtain ⟨first, others, eq, start, _⟩ := id word
    rw [eq] at read ⊢
    rw [List.cons_append] at read ⊢
    rw [outcome_fieldName_word start (ne_of_isNameStart start).1, read, ← eq, String.ofList_toList]

theorem Readable.field {name : String} {item : Expr} (h : Readable style item) (levels : Nat) :
    Reads (fun text => outcome (field (Expr.nested levels) text))
      (fun field => decide (field.2.levels ≤ levels)) (Field style (Written style))
      (name, item) := by
  intro blanks core rest blank written stops
  have opens := written.opens
  cases written with
  | @mk _ _ label before after core named blank' blank'' written =>
    have colon : Stops (before ++ ':' :: (after ++ (core ++ rest))) :=
      (stops_cons (by decide) _).append blank'
    have read := h levels after core rest blank'' written stops
    have expected : outcome (expect ':' (before ++ ':' :: (after ++ (core ++ rest)))) =
        .ok ((), after ++ (core ++ rest)) := by
      rw [outcome_expect, trimStart_append blank', trimStart_cons_of_not_blank (by decide)]
      rfl
    have named := outcome_fieldName_append named colon
    have parts : label ++ before ++ ':' :: (after ++ core) ++ rest =
        label ++ (before ++ ':' :: (after ++ (core ++ rest))) := by simp
    dsimp only at read ⊢
    rw [outcome_field, opens.trimStart_append blank, parts, named]
    simp only [bind, Except.bind, expected, read]
    by_cases fits : decide (item.levels ≤ levels) = true
    · rw [if_pos fits, if_pos fits]
      rfl
    · rw [if_neg fits, if_neg fits]

theorem outcome_braced_append {fields : List (String × Expr)} {inner : List Char}
    (members : ∀ field ∈ fields, Readable style field.2)
    (h : Row (Field style (Written style)) fields inner) (levels : Nat) (rest : List Char) :
    outcome (braced (Expr.nested levels) (inner ++ '}' :: rest)) =
      if levelsFields fields ≤ levels then .ok (fields, rest) else .error .tooDeep := by
  rw [outcome_braced, (isRow_fields _).closedOr_reads (by decide)
    (fun field mem => (members field mem).field levels) (fun _ _ written => written.opens) h]
  simp only [levelsFields_le_iff, List.all_eq_true, decide_eq_true_eq]

/-- Every written expression is readable. The induction is on the expression; what stands inside of
it has one level less. -/
theorem readable (style : Style) (expr : Expr) : Readable style expr := by
  induction expr using nestedInduction with
  | literal value =>
    refine .of_term fun levels core rest written stops => ?_
    rw [if_pos (by simp only [Expr.levels]; omega)]
    cases written with
    | text quoted => exact outcome_term_text quoted
    | whole low high =>
      exact outcome_term_number (isNumeral_toString _) (number?_toString low high) stops
    | real numeral value => exact outcome_term_number numeral value stops
    | bool b =>
      cases b
      · exact outcome_term_keyword isWord_false rfl stops
      · exact outcome_term_keyword isWord_true rfl stops
    | null => exact outcome_term_keyword isWord_null rfl stops
  | key name =>
    refine .of_term fun levels core rest written stops => ?_
    rw [if_pos (by simp only [Expr.levels]; omega)]
    cases written with
    | key h => exact outcome_term_key h stops
  | list items ih =>
    refine .of_term fun levels core rest written stops => ?_
    cases written with
    | @list _ inner row =>
      have parts : '[' :: inner ++ [']'] ++ rest = '[' :: (inner ++ ']' :: rest) := by simp
      rw [parts, outcome_term_list, outcome_bracketed_append (by decide) (by decide) ih row]
      simp only [Expr.levels, Nat.add_comm 1, Nat.add_le_add_iff_right]
      split <;> rfl
  | object fields ih =>
    refine .of_term fun levels core rest written stops => ?_
    cases written with
    | @object _ inner row =>
      have parts : '{' :: inner ++ ['}'] ++ rest = '{' :: (inner ++ '}' :: rest) := by simp
      rw [parts, outcome_term_object, outcome_braced_append ih row]
      simp only [Expr.levels, Nat.add_comm 1, Nat.add_le_add_iff_right]
      split <;> rfl
  | call name args ih =>
    refine .of_term fun levels core rest written stops => ?_
    cases written with
    | @call _ _ gap inner h blank _ row =>
      have parts : name.toList ++ gap ++ '(' :: inner ++ [')'] ++ rest =
          name.toList ++ (gap ++ '(' :: (inner ++ ')' :: rest)) := by simp
      rw [parts, outcome_term_call h blank,
        outcome_bracketed_append (by decide) (by decide) ih row]
      simp only [Expr.levels, Nat.add_comm 1, Nat.add_le_add_iff_right]
      split <;> rfl

end

theorem read_padded {style : Style} {expr : Expr} {core text : List Char}
    (h : Written style expr core) (padded : Padded core text) :
    read text = if expr.levels ≤ maxLevels then .ok expr else .error .tooDeep := by
  obtain ⟨before, after, blank, blank', rfl⟩ := padded
  have stops : Stops after := by simpa using stops_nil.append blank'
  have clean : trimStart after = [] := by
    simpa [trimStart] using trimStart_append blank' []
  have first := readable style expr maxLevels before core after blank h stops
  dsimp only at first
  rw [read_eq, List.append_assoc, first]
  by_cases fits : expr.levels ≤ maxLevels
  · rw [if_pos fits, if_pos (by simpa using fits)]
    simp only [bind, Except.bind, clean, if_true]
    rfl
  · rw [if_neg fits, if_neg (by simpa using fits)]
    rfl

/-- Nothing is read that is nested deeper than the levels allow. -/
theorem levels_le_of_nested {levels : Nat} {text rest : List Char} {expr : Expr}
    (h : outcome (Expr.nested levels text) = .ok (expr, rest)) : expr.levels ≤ levels := by
  refine of_nested (P := fun levels expr => expr.levels ≤ levels) (fun levels expr made => ?_) h
  have one : 1 ≤ levels + 1 := Nat.le_add_left 1 levels
  cases made with
  | text | number | bool | null | key => exact one
  | list parts =>
    rw [Expr.levels, Nat.add_comm]
    exact Nat.add_le_add_right (levelsAll_le_iff.mpr parts) 1
  | object parts =>
    rw [Expr.levels, Nat.add_comm]
    exact Nat.add_le_add_right (levelsFields_le_iff.mpr parts) 1
  | call _ parts =>
    rw [Expr.levels, Nat.add_comm]
    exact Nat.add_le_add_right (levelsAll_le_iff.mpr parts) 1

/-- Every expression is read back from all that is written for it if it has at most 64 levels, and
refused if it has more. No text at all is read as an expression of more levels. -/
theorem read_written :
    (∀ expr core text, Written .free expr core → Padded core text →
      read text = if expr.levels ≤ 64 then .ok expr else .error .tooDeep) ∧
    ∀ source expr, read source = .ok expr → expr.levels ≤ 64 := by
  refine ⟨fun expr core text written padded => read_padded written padded, ?_⟩
  intro source expr h
  obtain ⟨rest, first⟩ := nested_of_read h
  exact levels_le_of_nested first

def lists : Nat → Expr
  | 0 => .list []
  | n + 1 => .list [lists n]

def brackets : Nat → List Char
  | 0 => ['[', ']']
  | n + 1 => '[' :: brackets n ++ [']']

theorem written_lists (style : Style) (n : Nat) : Written style (lists n) (brackets n) := by
  induction n with
  | zero => exact .list (.none Text.allBlank_nil)
  | succ n ih => exact .list (.last ih (.refl _))

theorem levels_lists (n : Nat) : (lists n).levels = n + 1 := by
  induction n with
  | zero => rfl
  | succ n ih => simp only [lists, levels, levelsAll, ih]; omega

/-- Blanks around the parts of an object, and lists on either side of the limit. -/
theorem read_written_apart :
    read " \x7b 'it\\'s' : f ( -12 ,x.y) \x7d ".toList =
        .ok (.object [("it's", .call "f" [.literal (.number (.whole (-12))), .key "x.y"])]) ∧
      read (brackets 63) = .ok (lists 63) ∧ read (brackets 64) = .error .tooDeep ∧
      (lists 63).levels ≤ 64 := by
  have number : Written .free (.literal (.number (.whole (-12)))) "-12".toList :=
    .whole (by decide) (by decide)
  have key : Written .free (.key "x.y") "x.y".toList :=
    .key (by decide)
  have call : Written .free (.call "f" [.literal (.number (.whole (-12))), .key "x.y"])
      "f ( -12 ,x.y)".toList :=
    @Written.call _ "f" _ [' '] _ (by decide) (by decide) (by decide)
      (.next number ⟨[' '], [' '], by decide, by decide, rfl⟩
        (.last key (.refl _)))
  have spelled : Spelled .free '\'' ['i', 't', '\'', 's'] ['i', 't', '\\', '\'', 's'] :=
    .plain (by decide) rfl (.plain (by decide) rfl
      (.escaped (by decide) (by decide) (.plain (by decide) rfl .nil)))
  have name : Quoted .free "it's" "'it\\'s'".toList :=
    @Quoted.mk .free "it's" '\'' ['i', 't', '\\', '\'', 's'] (.inr rfl) spelled
  have object : Written .free
      (.object [("it's", .call "f" [.literal (.number (.whole (-12))), .key "x.y"])])
      "\x7b 'it\\'s' : f ( -12 ,x.y) \x7d".toList :=
    @Written.object _ _ " 'it\\'s' : f ( -12 ,x.y) ".toList
      (.last (@Field.mk _ _ _ _ _ [' '] [' '] _ (.inl name) (by decide) (by decide) call)
        ⟨[' '], [' '], by decide, by decide, rfl⟩) nofun
  have most : read (brackets 63) = .ok (lists 63) := by
    rw [read_written.1 _ _ _ (written_lists .free 63) (.refl _),
      if_pos (by simp [levels_lists])]
  have more : read (brackets 64) = .error .tooDeep := by
    rw [read_written.1 _ _ _ (written_lists .free 64) (.refl _),
      if_neg (by simp [levels_lists])]
  exact ⟨read_written.1 _ _ _ object ⟨[' '], [' '], by decide, by decide, rfl⟩, most, more,
    read_written.2 _ _ most⟩

end Folio.Expr
