import Folio.Proofs.Expr.RoundTrip
import Mathlib

/-! A path is an identifier, and then identifiers and rows of digits with a dot before each. The
reader of expressions takes more for a name: between two dots, and after the last one, there may be
any row of letters, numerals and underscores, or nothing. -/

namespace Folio.Expr

open Text (isAlphanumeric isBlank)

/-! ## Paths -/

def isIdentChar (c : Char) : Bool :=
  isAlphanumeric c || c = '_'

def IsIdent (text : List Char) : Prop :=
  ∃ first rest, text = first :: rest ∧ isNameStart first = true ∧ ∀ c ∈ rest, isIdentChar c = true

instance : (text : List Char) → Decidable (IsIdent text)
  | [] => .isFalse fun ⟨_, _, absent, _⟩ => nomatch absent
  | first :: rest =>
    decidable_of_iff (isNameStart first = true ∧ rest.all isIdentChar = true)
      ⟨fun h => ⟨first, rest, rfl, h.1, List.all_eq_true.mp h.2⟩, by
        rintro ⟨first, rest, ⟨⟩, start, all⟩
        exact ⟨start, List.all_eq_true.mpr all⟩⟩

def dotted (first : List Char) (later : List (List Char)) : List Char :=
  first ++ later.flatMap ('.' :: ·)

/-- A dotted name as the grammar of expressions has it. -/
def IsPath (text : List Char) : Prop :=
  ∃ first later, text = dotted first later ∧ IsIdent first ∧
    ∀ segment ∈ later, IsIdent segment ∨ IsDigits segment

@[simp] theorem dotted_nil (first : List Char) : dotted first [] = first := List.append_nil first

theorem dotted_cons (first next : List Char) (later : List (List Char)) :
    dotted first (next :: later) = first ++ '.' :: dotted next later := rfl

theorem isNameChar_eq (c : Char) : isNameChar c = (isIdentChar c || decide (c = '.')) := rfl

theorem isNameChar_of_isIdentChar {c : Char} (h : isIdentChar c = true) : isNameChar c = true := by
  simp [isNameChar_eq, h]

theorem isIdentChar_of_isNameStart {c : Char} (h : isNameStart c = true) :
    isIdentChar c = true := by
  simp only [isNameStart, Bool.or_eq_true, decide_eq_true_eq] at h
  rcases h with letter | rfl
  · simp [isIdentChar, Text.isAlphanumeric_of_isLetter letter]
  · decide

theorem isIdentChar_of_isDigit {c : Char} (h : c.isDigit = true) : isIdentChar c = true := by
  have range := Text.isDigit_iff.mp h
  have ascii : c.toNat < 128 := by omega
  simp [isIdentChar, isAlphanumeric, Text.isNumeral, ascii, h]

theorem IsIdent.chars {text : List Char} (h : IsIdent text) {c : Char} (mem : c ∈ text) :
    isIdentChar c = true := by
  obtain ⟨first, rest, rfl, start, all⟩ := h
  rcases List.mem_cons.mp mem with rfl | mem
  · exact isIdentChar_of_isNameStart start
  · exact all c mem

theorem IsDigits.chars {text : List Char} (h : IsDigits text) {c : Char} (mem : c ∈ text) :
    isIdentChar c = true :=
  isIdentChar_of_isDigit (h.2 c mem)

/-! ## Segments -/

def IsSegment (text : List Char) : Prop :=
  ∀ c ∈ text, isIdentChar c = true

instance (text : List Char) : Decidable (IsSegment text) :=
  decidable_of_iff (text.all isIdentChar = true) List.all_eq_true

theorem IsSegment.flat {text : List Char} (h : IsSegment text) : '.' ∉ text := by
  intro mem
  have dot : isIdentChar '.' = true := h '.' mem
  revert dot
  decide

theorem split_dotted {first : List Char} {later : List (List Char)} (flat : IsSegment first)
    (flats : ∀ segment ∈ later, IsSegment segment) :
    Text.split '.' (dotted first later) = first :: later := by
  induction later generalizing first with
  | nil => rw [dotted_nil, Text.split_of_not_mem flat.flat]
  | cons next later ih =>
    obtain ⟨flat', flats⟩ := List.forall_mem_cons.mp flats
    rw [dotted_cons, Text.split_append_cons, Text.split_of_not_mem flat.flat, ih flat' flats]
    rfl

theorem exists_dotted {text : List Char} (all : ∀ c ∈ text, isNameChar c = true) :
    ∃ first later, text = dotted first later ∧ IsSegment first ∧
      ∀ segment ∈ later, IsSegment segment := by
  induction text with
  | nil => exact ⟨[], [], rfl, by simp [IsSegment], by simp⟩
  | cons c rest ih =>
    obtain ⟨char, all⟩ := List.forall_mem_cons.mp all
    obtain ⟨first, later, rfl, flat, flats⟩ := ih all
    by_cases dot : c = '.'
    · subst dot
      exact ⟨[], first :: later, rfl, by simp [IsSegment], List.forall_mem_cons.mpr ⟨flat, flats⟩⟩
    · have ident : isIdentChar c = true := by simpa [isNameChar_eq, dot] using char
      exact ⟨c :: first, later, rfl, List.forall_mem_cons.mpr ⟨ident, flat⟩, flats⟩

/-- What is taken for a name: an identifier, and then any segments with a dot before each. -/
theorem isWord_iff {text : List Char} :
    IsWord text ↔ ∃ first later, text = dotted first later ∧ IsIdent first ∧
      ∀ segment ∈ later, IsSegment segment := by
  constructor
  · rintro ⟨start, rest, rfl, starts, all⟩
    obtain ⟨first, later, rfl, flat, flats⟩ := exists_dotted all
    exact ⟨start :: first, later, rfl, ⟨start, first, rfl, starts, flat⟩, flats⟩
  · rintro ⟨_, later, rfl, ⟨start, rest, rfl, starts, flat⟩, flats⟩
    refine ⟨start, rest ++ later.flatMap ('.' :: ·), rfl, starts, ?_⟩
    intro c mem
    rcases List.mem_append.mp mem with mem | mem
    · exact isNameChar_of_isIdentChar (flat c mem)
    · obtain ⟨segment, member, mem⟩ := List.mem_flatMap.mp mem
      rcases List.mem_cons.mp mem with rfl | mem
      · decide
      · exact isNameChar_of_isIdentChar (flats segment member c mem)

/-- Such a name is a path if every segment after the first is an identifier or a row of digits, and
only then. -/
theorem isPath_iff {first : List Char} {later : List (List Char)} (ident : IsIdent first)
    (flats : ∀ segment ∈ later, IsSegment segment) :
    IsPath (dotted first later) ↔ ∀ segment ∈ later, IsIdent segment ∨ IsDigits segment := by
  constructor
  · rintro ⟨first', later', same, ident', fine⟩
    have flats' : ∀ segment ∈ later', IsSegment segment := fun segment member c mem =>
      (fine segment member).elim (·.chars mem) (·.chars mem)
    have split := congrArg (Text.split '.') same
    rw [split_dotted (fun c mem => ident.chars mem) flats,
      split_dotted (fun c mem => ident'.chars mem) flats'] at split
    cases split
    exact fine
  · exact fun fine => ⟨first, later, rfl, ident, fine⟩

/-! ## The names in an expression -/

mutual

/-- The names of the keys and the calls in an expression, at any depth. -/
def names : Expr → List String
  | .literal _ => []
  | .key name => [name]
  | .list items => namesAll items
  | .object fields => namesFields fields
  | .call name args => name :: namesAll args

def namesAll : List Expr → List String
  | [] => []
  | item :: items => item.names ++ namesAll items

def namesFields : List (String × Expr) → List String
  | [] => []
  | (_, item) :: fields => item.names ++ namesFields fields

end

theorem forall_namesAll_iff {P : String → Prop} {items : List Expr} :
    (∀ name ∈ namesAll items, P name) ↔ ∀ item ∈ items, ∀ name ∈ item.names, P name := by
  induction items with
  | nil => simp [namesAll]
  | cons item items ih => rw [namesAll, List.forall_mem_append, ih, List.forall_mem_cons]

theorem forall_namesFields_iff {P : String → Prop} {fields : List (String × Expr)} :
    (∀ name ∈ namesFields fields, P name) ↔ ∀ field ∈ fields, ∀ name ∈ field.2.names, P name := by
  induction fields with
  | nil => simp [namesFields]
  | cons field fields ih => rw [namesFields, List.forall_mem_append, ih, List.forall_mem_cons]

/-- Only words that are no keywords stand as names in what is read. -/
theorem isName_of_read {source : List Char} {expr : Expr} (h : read source = .ok expr) :
    ∀ name ∈ expr.names, IsName name := by
  obtain ⟨rest, h⟩ := nested_of_read h
  refine of_nested (P := fun _ expr => ∀ name ∈ expr.names, IsName name) ?_ h
  intro levels expr made
  cases made with
  | text | number | bool | null => simp [names]
  | key named => simpa [names] using named
  | list parts => exact forall_namesAll_iff.mpr parts
  | object parts => exact forall_namesFields_iff.mpr parts
  | call named parts => exact List.forall_mem_cons.mpr ⟨named, forall_namesAll_iff.mpr parts⟩

/-- Every name in an expression that is read is an identifier with segments after dots. It is a path
if none of them is empty or starts with a numeral without being a row of digits, and only then. All
such names are read, whether they are paths or not. -/
theorem names_read (source : List Char) :
    (∀ expr, read source = .ok expr → ∀ name ∈ expr.names, keyword? name = none ∧
      ∃ first later, name.toList = dotted first later ∧ IsIdent first ∧
        (∀ segment ∈ later, IsSegment segment) ∧
        (IsPath name.toList ↔ ∀ segment ∈ later, IsIdent segment ∨ IsDigits segment)) ∧
    ∀ name first later, name.toList = dotted first later → IsIdent first →
      (∀ segment ∈ later, IsSegment segment) → keyword? name = none →
      Padded name.toList source → read source = .ok (.key name) := by
  constructor
  · intro expr h name mem
    have named := isName_of_read h name mem
    obtain ⟨first, later, whole, ident, flats⟩ := isWord_iff.mp named.word
    refine ⟨keyword?_of_isName named, first, later, whole, ident, flats, ?_⟩
    rw [whole]
    exact isPath_iff ident flats
  · intro name first later whole ident flats free padded
    have word : IsWord name.toList := isWord_iff.mpr ⟨first, later, whole, ident, flats⟩
    have named : IsName name := isName_of_keyword?_eq_none free word
    have written : Written .free (.key name) name.toList := .key named
    rw [read_padded written padded, if_pos (Nat.le_of_ble_eq_true rfl)]

theorem names_read_item : read "a.0".toList = .ok (.key "a.0") ∧ IsPath "a.0".toList := by
  obtain ⟨names, all⟩ := names_read "a.0".toList
  have ident : IsIdent ['a'] := by decide
  have flats : ∀ segment ∈ [['0']], IsSegment segment := by decide
  have item : read "a.0".toList = .ok (.key "a.0") :=
    all "a.0" ['a'] [['0']] rfl ident flats (by decide) (.refl _)
  obtain ⟨-, first, later, whole, ident', flats', path⟩ := names _ item "a.0" List.mem_cons_self
  have split := congrArg (Text.split '.') whole
  rw [split_dotted (fun c mem => ident'.chars mem) flats'] at split
  refine ⟨item, path.mpr ?_⟩
  have parts : Text.split '.' "a.0".toList = [['a'], ['0']] := by decide
  cases parts.symm.trans split
  decide

/-- A name with an empty segment, one with a dot at its end, and one with a segment that starts with
a digit and goes on with a letter. -/
theorem not_path :
    (read "a..b".toList = .ok (.key "a..b") ∧ ¬ IsPath "a..b".toList) ∧
    (read "a.".toList = .ok (.key "a.") ∧ ¬ IsPath "a.".toList) ∧
    (read "a.1x".toList = .ok (.key "a.1x") ∧ ¬ IsPath "a.1x".toList) := by
  have ident : IsIdent ['a'] := by decide
  refine ⟨⟨by cbv, ?_⟩, ⟨by cbv, ?_⟩, ⟨by cbv, ?_⟩⟩
  · have path := @isPath_iff ['a'] [[], ['b']] ident (by decide)
    exact mt path.mp (by decide)
  · have path := @isPath_iff ['a'] [[]] ident (by decide)
    exact mt path.mp (by decide)
  · have path := @isPath_iff ['a'] [['1', 'x']] ident (by decide)
    exact mt path.mp (by decide)

end Folio.Expr
