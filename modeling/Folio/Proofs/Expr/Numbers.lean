import Folio.Proofs.Decimal.Rounding
import Folio.Proofs.Expr.RoundTrip

namespace Folio

open Decimal (Binary64)
open Decimal.Binary64 (signed limit)

/-- The number is that one itself or the double nearest to it. -/
def Number.Reads (number : Number) (q : ℚ) : Prop :=
  match number with
  | .whole n => (n : ℚ) = q
  | .real x => x.Rounds q

namespace Expr

open Text (digitsValue)

structure NumeralExponent where
  mark : Char
  sign? : Option Char
  digits : List Char
  isMark : mark = 'e' ∨ mark = 'E'
  isSign : ∀ sign ∈ sign?, sign = '+' ∨ sign = '-'
  isDigits : IsDigits digits

/-- A number as JSON writes it, except that JSON lets no zero stand before other digits. -/
structure Numeral where
  negative : Bool
  whole : List Char
  fraction? : Option (List Char)
  exponent? : Option NumeralExponent
  isWhole : IsDigits whole
  isFraction : ∀ fraction ∈ fraction?, IsDigits fraction

namespace NumeralExponent

def text (e : NumeralExponent) : List Char :=
  e.mark :: (e.sign?.toList ++ e.digits)

def value (e : NumeralExponent) : Int :=
  if e.sign? = some '-' then -(digitsValue e.digits : Int) else digitsValue e.digits

end NumeralExponent

namespace Numeral

variable (n : Numeral)

def fraction : List Char :=
  n.fraction?.getD []

def mantissa : List Char :=
  n.whole ++ n.fraction?.elim [] ('.' :: ·)

/-- All that stands before the exponent. -/
def front : List Char :=
  if n.negative then '-' :: n.mantissa else n.mantissa

def text : List Char :=
  n.front ++ n.exponent?.elim [] NumeralExponent.text

def value : ℚ :=
  signed n.negative (digitsValue (n.whole ++ n.fraction) *
    10 ^ (n.exponent?.elim 0 NumeralExponent.value - n.fraction.length : Int))

def Signless : Prop :=
  ∀ e ∈ n.exponent?, e.sign? = none

variable {n}

/-! ## The parts of the text -/

/-- What may follow the digits: it does not go on with them. -/
def Ends (tail : List Char) : Prop :=
  ∀ c, tail.head? = some c → c.isDigit = false ∧ c ≠ '.'

/-- The digits are found again, and what follows them is the exponent. -/
theorem real?_mantissa (negative : Bool) {tail : List Char} (ends : Ends tail) :
    real? negative (n.mantissa ++ tail) =
      (Expr.exponent? tail).bind fun exponent =>
        Binary64.ofDecimal? negative (digitsValue (n.whole ++ n.fraction))
          ((exponent : Int) - n.fraction.length) := by
  have stop (c : Char) (h : tail.head? = some c) : c.isDigit = false := (ends c h).1
  have some (after : List Char) : n.whole ++ after ≠ [] := by simp [n.isWhole.1]
  cases given : n.fraction? with
  | none =>
    have mantissa : n.mantissa ++ tail = n.whole ++ tail := by simp [mantissa, given]
    have fraction : n.fraction = [] := by simp [fraction, given]
    obtain ⟨taken, dropped⟩ := takeWhile_append_stop n.isWhole.2 stop
    rw [mantissa, fraction, real?, taken, dropped]
    split
    rename_i after rest parts
    split at parts
    · exact absurd rfl (ends '.' rfl).2
    · cases parts
      rw [if_neg (some _)]
  | some digits =>
    have mantissa : n.mantissa ++ tail = n.whole ++ '.' :: (digits ++ tail) := by
      simp [mantissa, given]
    have fraction : n.fraction = digits := by simp [fraction, given]
    have point (c : Char) (h : ('.' :: (digits ++ tail)).head? = Option.some c) :
        c.isDigit = false := by
      cases h
      decide
    obtain ⟨taken, dropped⟩ := takeWhile_append_stop n.isWhole.2 point
    obtain ⟨taken', dropped'⟩ := takeWhile_append_stop (n.isFraction digits given).2 stop
    rw [mantissa, fraction, real?, taken, dropped]
    simp only [taken', dropped']
    rw [if_neg (some _)]

/-- Only a number without fraction and exponent is read as a whole one, and that is what it is. -/
theorem of_whole? {negative : Bool} {tail : List Char} {m : Int}
    (h : whole? negative (n.mantissa ++ tail) = some m) :
    n.fraction? = none ∧ (∀ c ∈ tail, c.isDigit = true) ∧
      ((m : ℚ) = signed negative (digitsValue (n.mantissa ++ tail))) := by
  obtain ⟨all, sign⟩ := cases_of_whole? h
  refine ⟨?_, fun c mem => all c (List.mem_append_right _ mem), ?_⟩
  · cases given : n.fraction? with
    | none => rfl
    | some fraction =>
      have point : '.' ∈ n.mantissa ++ tail := by simp [mantissa, given]
      exact absurd (all '.' point) (by decide)
  · rcases sign with ⟨rfl, -, rfl⟩ | ⟨rfl, -, rfl⟩ <;> simp [signed]

theorem number?_front (tail : List Char) :
    number? (n.front ++ tail) =
      match whole? n.negative (n.mantissa ++ tail) with
      | some m => some (.whole m)
      | none => (real? n.negative (n.mantissa ++ tail)).map .real := by
  cases sign : n.negative with
  | true =>
    have front : n.front = '-' :: n.mantissa := by simp [front, sign]
    rw [front]
    rfl
  | false =>
    have front : n.front = n.mantissa := by simp [front, sign]
    have unsigned : ∀ rest, n.mantissa ++ tail ≠ '-' :: rest := by
      intro rest eq
      obtain ⟨first, others, whole⟩ := List.exists_cons_of_ne_nil n.isWhole.1
      have digit := n.isWhole.2 first (by simp [whole])
      simp only [mantissa, whole, List.cons_append, List.cons.injEq] at eq
      rw [eq.1] at digit
      exact absurd digit (by decide)
    rw [front]
    exact number?.eq_2 _ unsigned

def tail (n : Numeral) : List Char :=
  n.exponent?.elim [] NumeralExponent.text

theorem ends_tail : Ends n.tail := by
  intro c h
  cases given : n.exponent? with
  | none => simp [tail, given] at h
  | some e =>
    simp only [tail, given, Option.elim_some, NumeralExponent.text, List.head?_cons,
      Option.some.injEq] at h
    rcases e.isMark with mark | mark <;> rw [← h, mark] <;> decide

theorem exponent?_tail (signless : n.Signless) : ∃ k : Nat, Expr.exponent? n.tail = some k ∧
    (k : Int) = n.exponent?.elim 0 NumeralExponent.value := by
  cases given : n.exponent? with
  | none => exact ⟨0, by simp [tail, given, Expr.exponent?], by simp⟩
  | some e =>
    have sign : e.sign? = none := signless e given
    refine ⟨digitsValue e.digits, ?_, by simp [NumeralExponent.value, sign]⟩
    have digits : e.digits.all Char.isDigit = true := List.all_eq_true.mpr e.isDigits.2
    simp [tail, given, NumeralExponent.text, sign, Expr.exponent?, e.isMark, e.isDigits.1, digits]

theorem value_of_whole? {m : Int} (h : whole? n.negative (n.mantissa ++ n.tail) = some m) :
    (m : ℚ) = n.value := by
  obtain ⟨flat, digits, m_eq⟩ := of_whole? h
  have plain : n.exponent? = none := by
    cases given : n.exponent? with
    | none => rfl
    | some e =>
      have digit : e.mark.isDigit = true :=
        digits e.mark (by simp [tail, given, NumeralExponent.text])
      rcases e.isMark with mark | mark <;> rw [mark] at digit <;> exact absurd digit (by decide)
  rw [m_eq]
  simp [value, mantissa, tail, fraction, flat, plain]

/-- What the text of a number without a sign in its exponent stands for. -/
theorem number?_spec (signless : n.Signless) :
    match number? n.text with
    | some number => |n.value| < limit ∧ number.Reads n.value
    | none => limit ≤ |n.value| := by
  have text : n.text = n.front ++ n.tail := rfl
  rw [text, number?_front]
  cases whole : whole? n.negative (n.mantissa ++ n.tail) with
  | some m =>
    have same := value_of_whole? whole
    obtain ⟨low, high⟩ := bounds_of_whole? whole
    have low' : (-(2 ^ 63) : ℚ) ≤ m := by exact_mod_cast low
    have high' : (m : ℚ) < 2 ^ 63 := by exact_mod_cast high
    have size : |(m : ℚ)| ≤ 2 ^ 63 := abs_le.mpr ⟨low', high'.le⟩
    refine ⟨?_, same⟩
    rw [← same]
    linarith [Binary64.pow_lt_limit]
  | none =>
    obtain ⟨k, exponent, k_eq⟩ := exponent?_tail signless
    have spec := Binary64.ofDecimal?_spec n.negative (digitsValue (n.whole ++ n.fraction))
      (k - n.fraction.length)
    have value_eq : signed n.negative (digitsValue (n.whole ++ n.fraction) *
        10 ^ (k - n.fraction.length : Int)) = n.value := by rw [k_eq, value]
    rw [value_eq] at spec
    rw [real?_mantissa n.negative ends_tail, exponent, Option.bind_some]
    cases rounded : Binary64.ofDecimal? n.negative (digitsValue (n.whole ++ n.fraction))
        (k - n.fraction.length) with
    | some x => rwa [rounded] at spec
    | none => rwa [rounded] at spec

/-! ## Reading -/

theorem isNumberChar_mantissa {c : Char} (mem : c ∈ n.mantissa) : isNumberChar c = true := by
  have digit {c : Char} (h : c.isDigit = true) : isNumberChar c = true := by simp [isNumberChar, h]
  rw [mantissa] at mem
  rcases List.mem_append.mp mem with mem | mem
  · exact digit (n.isWhole.2 c mem)
  · cases given : n.fraction? with
    | none => simp [given] at mem
    | some fraction =>
      rw [given] at mem
      rcases List.mem_cons.mp mem with rfl | mem
      · decide
      · exact digit ((n.isFraction fraction given).2 c mem)

theorem isNumberChar_mark (e : NumeralExponent) : isNumberChar e.mark = true := by
  rcases e.isMark with mark | mark <;> rw [mark] <;> decide

theorem isNumberChar_tail (signless : n.Signless) {c : Char} (mem : c ∈ n.tail) :
    isNumberChar c = true := by
  cases given : n.exponent? with
  | none => simp [tail, given] at mem
  | some e =>
    rw [tail, given, Option.elim_some, NumeralExponent.text, signless e given] at mem
    rcases List.mem_cons.mp mem with rfl | mem
    · exact isNumberChar_mark e
    · simp [isNumberChar, e.isDigits.2 c mem]

theorem isNumeral_front {tail : List Char} (all : ∀ c ∈ tail, isNumberChar c = true) :
    IsNumeral (n.front ++ tail) := by
  obtain ⟨first, others, whole⟩ := List.exists_cons_of_ne_nil n.isWhole.1
  obtain ⟨rest, mantissa⟩ : ∃ rest, n.mantissa = first :: rest :=
    ⟨_, by rw [mantissa, whole, List.cons_append]⟩
  have digit : first.isDigit = true := n.isWhole.2 first (by simp [whole])
  have chars : ∀ c ∈ n.mantissa ++ tail, isNumberChar c = true :=
    List.forall_mem_append.mpr ⟨fun c mem => isNumberChar_mantissa mem, all⟩
  rw [front]
  split
  · exact ⟨'-', n.mantissa ++ tail, rfl, .inl rfl, chars⟩
  · rw [mantissa] at chars ⊢
    exact ⟨first, rest ++ tail, rfl, .inr digit, fun c mem => chars c (List.mem_cons_of_mem _ mem)⟩

end Numeral

theorem IsNumeral.read_eq {before core rest : List Char} (numeral : IsNumeral core)
    (blank : Text.AllBlank before)
    (stop : ∀ c, rest.head? = some c → isNumberChar c = false) :
    read (before ++ (core ++ rest)) =
      match number? core with
      | some number => if Text.trimStart rest = [] then .ok (.literal (.number number))
          else .error (.strayRest (String.ofList (Text.trimStart rest))
            (String.ofList (before ++ (core ++ rest))))
      | none => .error (.badNumber (String.ofList core)) := by
  have levels : maxLevels = 63 + 1 := rfl
  rw [Expr.read_eq, levels, outcome_nested, numeral.bare.opens.trimStart_append blank,
    outcome_term_numeral numeral stop]
  cases number? core <;> rfl

namespace Numeral

variable {n : Numeral} {text : List Char}

theorem read_text (signless : n.Signless) (padded : Padded n.text text) :
    if |n.value| < limit then
      ∃ number : Number, number? n.text = some number ∧
        read text = .ok (.literal (.number number)) ∧ number.Reads n.value
    else read text = .error (.badNumber (String.ofList n.text)) := by
  obtain ⟨before, after, blank, blank', rfl⟩ := padded
  have numeral : IsNumeral n.text := isNumeral_front fun c mem => isNumberChar_tail signless mem
  have stops : Stops after := by simpa using stops_nil.append blank'
  have clean : Text.trimStart after = [] := by
    simpa [Text.trimStart] using Text.trimStart_append blank' []
  have spec := number?_spec signless
  rw [List.append_assoc, numeral.read_eq blank fun _ => stops.isNumberChar, clean]
  cases value : number? n.text with
  | some number =>
    rw [value] at spec
    rw [if_pos spec.1]
    exact ⟨number, rfl, rfl, spec.2⟩
  | none =>
    rw [value] at spec
    rw [if_neg (not_lt.mpr spec)]

/-- Digits with the mark of an exponent after them stand for no number. -/
theorem number?_mark (e : NumeralExponent) : number? (n.front ++ [e.mark]) = none := by
  have plain : e.mark.isDigit = false := by
    rcases e.isMark with mark | mark <;> rw [mark] <;> decide
  have ends : Ends [e.mark] := by
    rintro c ⟨⟩
    rcases e.isMark with mark | mark <;> rw [mark] <;> decide
  rw [number?_front]
  cases whole : whole? n.negative (n.mantissa ++ [e.mark]) with
  | some m =>
    have digit : e.mark.isDigit = true := (of_whole? whole).2.1 e.mark (by simp)
    simp [plain] at digit
  | none =>
    have empty : Expr.exponent? [e.mark] = none := by simp [Expr.exponent?]
    rw [real?_mantissa n.negative ends, empty]
    rfl

/-- With a sign in its exponent it is refused, as if it ended before the sign. -/
theorem read_signed {e : NumeralExponent} {sign : Char} (exponent : n.exponent? = some e)
    (signed : e.sign? = some sign) (padded : Padded n.text text) :
    read text = .error (.badNumber (String.ofList (n.front ++ [e.mark]))) := by
  obtain ⟨before, after, blank, blank', rfl⟩ := padded
  have numeral : IsNumeral (n.front ++ [e.mark]) :=
    isNumeral_front (List.forall_mem_singleton.mpr (isNumberChar_mark e))
  have stop (c : Char) (h : (sign :: (e.digits ++ after)).head? = some c) :
      isNumberChar c = false := by
    cases h
    rcases e.isSign sign signed with rfl | rfl <;> decide
  have parts : before ++ n.text ++ after =
      before ++ (n.front ++ [e.mark] ++ sign :: (e.digits ++ after)) := by
    simp [Numeral.text, exponent, NumeralExponent.text, signed]
  rw [parts, numeral.read_eq blank stop, number?_mark]

end Numeral

/-! ## Whole numbers -/

def Numeral.ofInt (i : Int) : Numeral where
  negative := !decide (0 ≤ i)
  whole := Nat.toDigits 10 i.natAbs
  fraction? := none
  exponent? := none
  isWhole := ⟨Nat.toDigits_ne_nil, fun _ mem => isDigit_toDigits mem⟩
  isFraction := by simp

theorem Numeral.text_ofInt (i : Int) : (Numeral.ofInt i).text = (toString i).toList := by
  rw [toList_toString]
  by_cases positive : 0 ≤ i
  · have same : i.natAbs = i.toNat := by omega
    simp [ofInt, Numeral.text, front, mantissa, positive, same]
  · have same : i.natAbs = (-i).toNat := by omega
    simp [ofInt, Numeral.text, front, mantissa, positive, same]

theorem Numeral.value_ofInt (i : Int) : (Numeral.ofInt i).value = i := by
  have size : (Numeral.ofInt i).value = signed (!decide (0 ≤ i)) i.natAbs := by
    simp [ofInt, value, fraction, digitsValue_toDigits]
  rw [size]
  by_cases positive : 0 ≤ i
  · simp [signed, positive]
  · have same : ((i.natAbs : Int) : ℚ) = (-i : Int) := by rw [Int.ofNat_natAbs_of_nonpos (by omega)]
    rw [Int.cast_natCast] at same
    simp [signed, positive, same]

section
variable {i : Int} {text : List Char} (padded : Padded (toString i).toList text)
include padded

theorem read_whole (low : -(Nat.pow 2 63 : Int) ≤ i) (high : i < (Nat.pow 2 63 : Int)) :
    read text = .ok (.literal (.number (.whole i))) := by
  have written : Written .free (.literal (.number (.whole i))) (toString i).toList :=
    .whole low high
  rw [read_padded written padded, if_pos (Nat.le_of_ble_eq_true rfl)]

theorem read_large (large : ¬ (-(Nat.pow 2 63 : Int) ≤ i ∧ i < (Nat.pow 2 63 : Int)))
    (fits : |(i : ℚ)| < limit) :
    ∃ x, read text = .ok (.literal (.number (.real x))) ∧ x.Rounds i := by
  have signless : (Numeral.ofInt i).Signless := by simp [Numeral.Signless, Numeral.ofInt]
  rw [← Numeral.text_ofInt] at padded
  have ends := Numeral.read_text signless padded
  rw [Numeral.value_ofInt, if_pos fits] at ends
  obtain ⟨number, value, read, reads⟩ := ends
  cases number with
  | real x => exact ⟨x, read, reads⟩
  | whole m =>
    have bounds := bounds_of_number? value
    have reads : (m : ℚ) = i := reads
    have same : m = i := by exact_mod_cast reads
    rw [same] at bounds
    exact absurd bounds large

end

end Expr

end Folio
