import Folio.Json.Number
import Folio.Text.Reading

namespace Folio.Json

open Text (Parsed Reader digitsValue hexValue? length_dropWhile_le length_lt_of_dropWhile_eq_cons)

def isSpace (c : Char) : Bool :=
  c = ' ' || c = '\n' || c = '\t' || c = '\r'

def hexQuad? (a b c d : Char) : Option Nat := do
  let a ← hexValue? a
  let b ← hexValue? b
  let c ← hexValue? c
  let d ← hexValue? d
  return ((a * 16 + b) * 16 + c) * 16 + d

def shortEscape? (c : Char) : Option Char :=
  match c with
  | '"' => some '"'
  | '\\' => some '\\'
  | '/' => some '/'
  | 'b' => some '\x08'
  | 'f' => some '\x0c'
  | 'n' => some '\n'
  | 'r' => some '\r'
  | 't' => some '\t'
  | _ => none

/-- The character of a single 16-bit unit, unless the unit is a half of a pair. -/
def unitChar? (unit : Nat) : Option Char :=
  if 0xd800 ≤ unit ∧ unit < 0xe000 then none else some (Char.ofNat unit)

def pairChar? (high low : Nat) : Option Char :=
  if 0xd800 ≤ high ∧ high < 0xdc00 ∧ 0xdc00 ≤ low ∧ low < 0xe000 then
    some (Char.ofNat (0x10000 + (high - 0xd800) * 0x400 + (low - 0xdc00)))
  else
    none

/-- The characters up to the closing quote, which is read as well. -/
def stringRest (text : List Char) : Option (Parsed (List Char) text) :=
  match text with
  | [] => none
  | '"' :: _ => some (.first [])
  | '\\' :: 'u' :: a :: b :: c :: d :: rest =>
    match hexQuad? a b c d with
    | none => none
    | some unit =>
      match unitChar? unit with
      | some char =>
        (stringRest rest).map fun p =>
          ⟨char :: p.value, p.rest, by have := p.shorter; simp only [List.length_cons]; omega⟩
      | none =>
        match rest with
        | '\\' :: 'u' :: a' :: b' :: c' :: d' :: rest' =>
          match (hexQuad? a' b' c' d').bind (pairChar? unit) with
          | none => none
          | some char =>
            (stringRest rest').map fun p =>
              ⟨char :: p.value, p.rest, by have := p.shorter; simp only [List.length_cons]; omega⟩
        | _ => none
  | '\\' :: c :: rest =>
    match shortEscape? c with
    | none => none
    | some char =>
      (stringRest rest).map fun p => (p.map (char :: ·)).afterFirst.afterFirst
  | c :: rest =>
    if c.toNat < 0x20 ∨ c = '\\' then none
    else
      (stringRest rest).map fun p => (p.map (c :: ·)).afterFirst
termination_by text.length
decreasing_by all_goals simp only [List.length_cons]; omega

def string : Reader String
  | '"' :: rest => (stringRest rest).map fun p => (p.map String.ofList).afterFirst
  | _ => none

def digits (text : List Char) : List Char × List Char :=
  (text.takeWhile Char.isDigit, text.dropWhile Char.isDigit)

/-- The fraction after the whole part of a number, without its point: absent if there is no point,
`none` if no digit follows the point. -/
def fraction? (text : List Char) : Option (Option (List Char) × List Char) :=
  match text with
  | '.' :: rest =>
    if (digits rest).1 = [] then none else some (some (digits rest).1, (digits rest).2)
  | text => some (none, text)

def minus (text : List Char) : Bool × List Char :=
  match text with
  | '-' :: rest => (true, rest)
  | text => (false, text)

/-- Whether a minus sign stands at the start of a text, and what follows it or a plus sign. -/
def sign (text : List Char) : Bool × List Char :=
  match text with
  | '+' :: rest => (false, rest)
  | text => minus text

/-- The number that digits after a sign stand for, `none` if there are none. -/
def signed? (text : List Char) : Option (Int × List Char) :=
  let found := digits (sign text).2
  let n : Int := digitsValue found.1
  if found.1 = [] then none else some (if (sign text).1 then -n else n, found.2)

/-- The exponent after the digits of a number: absent if there is no mark, `none` if no digit
follows the mark and the sign. -/
def exponent? (text : List Char) : Option (Option Int × List Char) :=
  match text with
  | mark :: rest =>
    if mark = 'e' ∨ mark = 'E' then (signed? rest).map fun found => (some found.1, found.2)
    else some (none, text)
  | [] => some (none, text)

def numberOf? (negative : Bool) (whole : List Char) (fraction : Option (List Char))
    (exponent : Option Int) : Option Number :=
  match fraction, exponent with
  | none, none => wholeNumber? negative whole
  | fraction, exponent => realNumber? negative whole (fraction.getD []) (exponent.getD 0)

/-- A number after its sign, and the text after it. Only a single zero may start with zero. -/
def unsigned? (negative : Bool) (text : List Char) : Option (Number × List Char) :=
  let whole := (digits text).1
  if whole = [] ∨ (whole.head? = some '0' ∧ whole.length ≠ 1) then none
  else
    match fraction? (digits text).2 with
    | none => none
    | some (fraction, text) =>
      match exponent? text with
      | none => none
      | some (exponent, text) =>
        (numberOf? negative whole fraction exponent).map fun number => (number, text)

theorem length_digits_le (text : List Char) : (digits text).2.length ≤ text.length :=
  length_dropWhile_le _ _

theorem length_digits_lt {text : List Char} (h : (digits text).1 ≠ []) :
    (digits text).2.length < text.length := by
  have whole := congrArg List.length (Text.takeWhile_append_dropWhile Char.isDigit text)
  have := List.length_pos_iff.mpr h
  simp only [digits, List.length_append] at *
  omega

theorem length_fraction_le {text rest : List Char} {fraction : Option (List Char)}
    (h : fraction? text = some (fraction, rest)) : rest.length ≤ text.length := by
  unfold fraction? at h
  split at h
  · rename_i later
    split at h
    · contradiction
    · have := length_digits_le later
      simp_all only [Option.some.injEq, Prod.mk.injEq, List.length_cons]
      omega
  · simp_all

theorem length_minus_le (text : List Char) : (minus text).2.length ≤ text.length := by
  unfold minus
  split <;> simp

theorem length_sign_le (text : List Char) : (sign text).2.length ≤ text.length := by
  unfold sign
  split
  · simp
  · exact length_minus_le text

theorem length_signed_le {text rest : List Char} {n : Int} (h : signed? text = some (n, rest)) :
    rest.length ≤ text.length := by
  have := length_sign_le text
  have := length_digits_le (sign text).2
  simp only [signed?, Option.ite_none_left_eq_some, Option.some.injEq, Prod.mk.injEq] at h
  rw [← h.2.2]
  omega

theorem length_exponent_le {text rest : List Char} {exponent : Option Int}
    (h : exponent? text = some (exponent, rest)) : rest.length ≤ text.length := by
  unfold exponent? at h
  split at h
  · split at h
    · simp only [Option.map_eq_some_iff, Prod.mk.injEq] at h
      obtain ⟨⟨n, later⟩, found, _, same⟩ := h
      have := length_signed_le found
      simp only [List.length_cons] at *
      rw [← same]
      omega
    · simp_all
  · simp_all

theorem length_unsigned_lt {negative : Bool} {text rest : List Char} {number : Number}
    (h : unsigned? negative text = some (number, rest)) : rest.length < text.length := by
  simp only [unsigned?] at h
  split at h
  · contradiction
  · rename_i nonempty
    have := length_digits_lt fun empty => nonempty (Or.inl empty)
    split at h
    · contradiction
    · rename_i hFraction
      split at h
      · contradiction
      · rename_i hExponent
        have := length_fraction_le hFraction
        have := length_exponent_le hExponent
        simp only [Option.map_eq_some_iff, Prod.mk.injEq] at h
        obtain ⟨_, _, _, same⟩ := h
        rw [← same]
        omega

def number : Reader Number := fun text =>
  match h : unsigned? (minus text).1 (minus text).2 with
  | none => none
  | some (number, rest) =>
    some ⟨number, rest, Nat.lt_of_lt_of_le (length_unsigned_lt h) (length_minus_le text)⟩

def scalar : Reader Value
  | 'n' :: 'u' :: 'l' :: 'l' :: rest => some ⟨.null, rest, by simp only [List.length_cons]; omega⟩
  | 't' :: 'r' :: 'u' :: 'e' :: rest =>
    some ⟨.bool true, rest, by simp only [List.length_cons]; omega⟩
  | 'f' :: 'a' :: 'l' :: 's' :: 'e' :: rest =>
    some ⟨.bool false, rest, by simp only [List.length_cons]; omega⟩
  | '"' :: rest => (string ('"' :: rest)).map (·.map .text)
  | text => (number text).map (·.map .number)

/-- The items of a list up to its closing bracket, at least one. -/
def items (item : Reader Value) (text : List Char) : Option (Parsed (List Value) text) :=
  match item text with
  | none => none
  | some ⟨value, rest, h⟩ =>
    match h' : rest.dropWhile isSpace with
    | ',' :: more =>
      have : more.length < text.length :=
        Nat.lt_trans (length_lt_of_dropWhile_eq_cons h') h
      (items item more).map fun p =>
        ⟨value :: p.value, p.rest, Nat.lt_trans p.shorter this⟩
    | ']' :: more => some ⟨[value], more, Nat.lt_trans (length_lt_of_dropWhile_eq_cons h') h⟩
    | _ => none
termination_by text.length

def fields (item : Reader Value) (text : List Char) :
    Option (Parsed (List (String × Value)) text) :=
  match string (text.dropWhile isSpace) with
  | none => none
  | some ⟨name, rest, h⟩ =>
    have hRest : rest.length < text.length :=
      Nat.lt_of_lt_of_le h (length_dropWhile_le isSpace text)
    match h' : rest.dropWhile isSpace with
    | ':' :: rest' =>
      match item rest' with
      | none => none
      | some ⟨value, rest'', h''⟩ =>
        have hValue : rest''.length < text.length :=
          Nat.lt_trans h'' (Nat.lt_trans (length_lt_of_dropWhile_eq_cons h') hRest)
        match h''' : rest''.dropWhile isSpace with
        | ',' :: more =>
          have : more.length < text.length :=
            Nat.lt_trans (length_lt_of_dropWhile_eq_cons h''') hValue
          (fields item more).map fun p =>
            ⟨(name, value) :: p.value, p.rest, Nat.lt_trans p.shorter this⟩
        | '}' :: more =>
          some ⟨[(name, value)], more,
            Nat.lt_trans (length_lt_of_dropWhile_eq_cons h''') hValue⟩
        | _ => none
    | _ => none
termination_by text.length
decreasing_by exact this

/-- A value after white space, in which lists and objects are nested at most `levels` deep. -/
def value : (levels : Nat) → Reader Value
  | 0, text => (scalar (text.dropWhile isSpace)).map (·.after (length_dropWhile_le _ _))
  | levels + 1, text =>
    match h : text.dropWhile isSpace with
    | '[' :: rest =>
      have hRest := length_lt_of_dropWhile_eq_cons h
      match h' : rest.dropWhile isSpace with
      | ']' :: more =>
        some ⟨.list [], more, by have := length_lt_of_dropWhile_eq_cons h'; omega⟩
      | _ => (items (value levels) rest).map fun p => (p.map .list).after (Nat.le_of_lt hRest)
    | '{' :: rest =>
      have hRest := length_lt_of_dropWhile_eq_cons h
      match h' : rest.dropWhile isSpace with
      | '}' :: more =>
        some ⟨.object [], more, by have := length_lt_of_dropWhile_eq_cons h'; omega⟩
      | _ => (fields (value levels) rest).map fun p => (p.map .ofFields).after (Nat.le_of_lt hRest)
    | later => (scalar later).map (·.after (h ▸ length_dropWhile_le _ _))

def maxLevels : Nat := 127

def read? (text : String) : Option Value :=
  match value maxLevels text.toList with
  | some ⟨value, rest, _⟩ => if rest.all isSpace then some value else none
  | none => none

end Folio.Json
