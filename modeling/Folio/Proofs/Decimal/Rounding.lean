import Folio.Decimal.Binary64
import Mathlib

/-!
# Rounding to doubles

A fraction is rounded to a double that is as near to it as any finite double is, unless it is so
large that none is near.

* `Binary64.exponentFor_spec`: the exponent at which a fraction has a mantissa of 53 bits;
* `Binary64.rounds_of_near`: a whole number of the steps of that exponent, at most half a step away
  from a fraction, is the double nearest to it;
* `Binary64.ofRatio?_spec`, `Binary64.ofDecimal?_spec`: what fractions and decimal numbers are
  rounded to, and which of them are too large.
-/

namespace Folio.Decimal

/-! ## Rounding to whole numbers -/

theorem abs_roundDiv_sub_le {num den : Nat} (pos : 0 < den) :
    2 * |(roundDiv num den : ℚ) - num / den| ≤ 1 := by
  have pos' : (0 : ℚ) < den := by exact_mod_cast pos
  have below : 2 * ((roundDiv num den : ℚ) * den) ≤ 2 * num + den := by
    exact_mod_cast @two_mul_roundDiv_le num den
  have above : 2 * (num : ℚ) ≤ 2 * (roundDiv num den * den) + den := by
    exact_mod_cast @le_two_mul_roundDiv num den pos
  have apart : (roundDiv num den : ℚ) - num / den = (roundDiv num den * den - num) / den := by
    field_simp
  rw [apart, abs_div, abs_of_pos pos', ← mul_div_assoc, div_le_one pos']
  have bound : |(roundDiv num den : ℚ) * den - num| ≤ den / 2 := by
    rw [abs_le]
    constructor <;> linarith
  linarith

theorem lt_roundDiv_of_odd {num den k : Nat} (pos : 0 < den) (odd : k % 2 = 1)
    (half : (2 * k + 1) * den ≤ 2 * num) : k < roundDiv num den := by
  have split := Nat.div_add_mod num den
  have rest := Nat.mod_lt num pos
  have least : k ≤ num / den := by
    rw [Nat.le_div_iff_mul_le pos]
    linarith
  rcases Nat.lt_or_eq_of_le least with above | same
  · have below : num / den ≤ roundDiv num den := by
      simp only [roundDiv]
      split_ifs <;> omega
    omega
  · rw [← same] at split
    have halved : den ≤ 2 * (num % den) := by linarith
    simp only [roundDiv, ← same]
    split_ifs <;> omega

namespace Binary64

/-! ## Values -/

def signed (negative : Bool) (q : ℚ) : ℚ :=
  if negative then -q else q

def value (x : Binary64) : ℚ :=
  signed x.negative (x.mantissa * 2 ^ x.exponent)

/-- Finite doubles have a mantissa of 53 bits, and a smaller one only at the least exponent. -/
structure IsFinite (x : Binary64) : Prop where
  bits : x.mantissa < 2 ^ 53
  normal : 2 ^ 52 ≤ x.mantissa ∨ x.exponent = minExponent
  least : minExponent ≤ x.exponent
  greatest : x.exponent ≤ maxExponent

/-- No finite double is nearer to the number. -/
structure Rounds (x : Binary64) (q : ℚ) : Prop where
  finite : x.IsFinite
  nearest (y : Binary64) : y.IsFinite → |x.value - q| ≤ |y.value - q|

/-- From here on numbers are too large: this is half a step above the largest finite double. -/
def limit : ℚ := (2 ^ 54 - 1) * 2 ^ 970

@[simp] theorem abs_signed (negative : Bool) (q : ℚ) : |signed negative q| = |q| := by
  cases negative <;> simp [signed]

/-- Signs that are given to one of two numbers may be given to the other. -/
theorem abs_sub_signed (negative : Bool) (q r : ℚ) : |q - signed negative r| =
    |signed negative q - r| := by
  cases negative
  · rfl
  · rw [signed, signed, if_pos rfl, if_pos rfl, ← abs_neg]
    congr 1
    ring

theorem signed_signed (negative : Bool) (q : ℚ) : signed negative (signed negative q) = q := by
  cases negative <;> simp [signed]

/-- A double is a whole number of its steps, and less than `2 ^ 53` of them if it is finite. -/
theorem IsFinite.exists_steps {y : Binary64} (finite : y.IsFinite) (negative : Bool) :
    ∃ j : Int, signed negative y.value = j * 2 ^ y.exponent ∧ j < 2 ^ 53 := by
  have bits : (y.mantissa : Int) < 2 ^ 53 := by exact_mod_cast finite.bits
  have both : ∃ same : Bool, signed negative y.value =
      signed (!same) (y.mantissa * 2 ^ y.exponent) := by
    refine ⟨negative == y.negative, ?_⟩
    cases negative <;> cases sign : y.negative <;> simp [value, signed, sign]
  obtain ⟨same, value_eq⟩ := both
  cases same
  · refine ⟨-y.mantissa, ?_, by omega⟩
    rw [value_eq]
    simp [signed]
  · refine ⟨y.mantissa, ?_, bits⟩
    rw [value_eq]
    simp [signed]

/-! ## The nearest double -/

/-- No whole number is nearer to a number than one that is at most one half away from it. -/
theorem abs_sub_le_of_half {m j : Int} {r : ℚ} (half : 2 * |(m : ℚ) - r| ≤ 1) :
    |(m : ℚ) - r| ≤ |(j : ℚ) - r| := by
  by_cases same : j = m
  · rw [same]
  · have apart : (1 : ℚ) ≤ |(j : ℚ) - m| := by exact_mod_cast Int.one_le_abs (sub_ne_zero.mpr same)
    have triangle := abs_sub_le (j : ℚ) r m
    rw [abs_sub_comm r] at triangle
    linarith

theorem abs_steps_sub_le {m j e : Int} {q : ℚ} (near : 2 * |(m * 2 ^ e : ℚ) - q| ≤ 2 ^ e) :
    |(m * 2 ^ e : ℚ) - q| ≤ |(j * 2 ^ e : ℚ) - q| := by
  have step : (0 : ℚ) < 2 ^ e := by positivity
  have scaled (k : Int) : |(k * 2 ^ e : ℚ) - q| = |k - q / 2 ^ e| * 2 ^ e := by
    rw [← abs_of_pos step, ← abs_mul, abs_of_pos step, sub_mul, div_mul_cancel₀ _ step.ne']
  rw [scaled, ← mul_assoc, mul_le_iff_le_one_left step] at near
  rw [scaled, scaled]
  exact mul_le_mul_of_nonneg_right (abs_sub_le_of_half near) step.le

/-- A number of steps that is at most half a step away from a number is the double nearest to it, if
the steps are those of a mantissa of 53 bits. Doubles with larger steps are numbers of these steps
as well; those with smaller ones are all below the number and below `2 ^ 52` steps. -/
theorem rounds_of_near {x : Binary64} {m : Nat} {e : Int} {q : ℚ} (finite : x.IsFinite)
    (value_eq : (x.mantissa * 2 ^ x.exponent : ℚ) = m * 2 ^ e)
    (near : 2 * |(m * 2 ^ e : ℚ) - q| ≤ 2 ^ e) (low : 2 ^ 52 * 2 ^ e ≤ q ∨ e = minExponent) :
    x.Rounds (signed x.negative q) := by
  refine ⟨finite, ?_⟩
  intro y finite'
  have best (j : Int) : |(m * 2 ^ e : ℚ) - q| ≤ |(j * 2 ^ e : ℚ) - q| := by
    have near : 2 * |((m : Int) * 2 ^ e : ℚ) - q| ≤ 2 ^ e := by exact_mod_cast near
    exact_mod_cast abs_steps_sub_le near
  obtain ⟨j, steps, bits⟩ := finite'.exists_steps x.negative
  rw [abs_sub_signed, abs_sub_signed, steps, value, signed_signed, value_eq]
  rcases le_or_gt e y.exponent with larger | smaller
  · obtain ⟨k, larger⟩ := Int.le.dest larger
    have whole : (j * 2 ^ y.exponent : ℚ) = (j * 2 ^ k : Int) * 2 ^ e := by
      rw [← larger, zpow_add₀ two_ne_zero, zpow_natCast]
      push_cast
      ring
    rw [whole]
    exact best _
  · have low : 2 ^ 52 * 2 ^ e ≤ q := low.resolve_right (by have := finite'.least; omega)
    have double : (2 : ℚ) ^ y.exponent * 2 ≤ 2 ^ e := by
      rw [← zpow_add_one₀ two_ne_zero]
      exact zpow_le_zpow_right₀ one_le_two (by omega)
    have bits : (j : ℚ) ≤ 2 ^ 53 := by exact_mod_cast bits.le
    have below : (j * 2 ^ y.exponent : ℚ) ≤ 2 ^ 52 * 2 ^ e :=
      calc (j * 2 ^ y.exponent : ℚ) ≤ 2 ^ 53 * 2 ^ y.exponent := by gcongr
        _ = 2 ^ 52 * (2 ^ y.exponent * 2) := by ring
        _ ≤ 2 ^ 52 * 2 ^ e := by gcongr
    have normal := best (2 ^ 52)
    rw [Int.cast_pow, Int.cast_two] at normal
    calc |(m * 2 ^ e : ℚ) - q| ≤ |(2 ^ 52 * 2 ^ e : ℚ) - q| := normal
      _ = q - 2 ^ 52 * 2 ^ e := by rw [abs_sub_comm, abs_of_nonneg (by linarith)]
      _ ≤ q - j * 2 ^ y.exponent := by linarith
      _ ≤ |(j * 2 ^ y.exponent : ℚ) - q| := by
        rw [abs_sub_comm]
        exact le_abs_self _

/-! ## The exponent of a fraction -/

section
variable {num den : Nat}

theorem exists_scaled (num : Nat) (pos : 0 < den) (e : Int) : ∃ num' den' : Nat, 0 < den' ∧
    (num' : ℚ) / den' = num / den / 2 ^ e ∧ floorAt num den e = num' / den' ∧
    roundAt num den e = roundDiv num' den' := by
  by_cases up : 0 ≤ e
  · obtain ⟨k, rfl⟩ := Int.eq_ofNat_of_zero_le up
    refine ⟨num, den * 2 ^ k, by positivity, ?_, ?_, ?_⟩
    · push_cast
      rw [zpow_natCast, div_div]
    · simp [floorAt]
    · simp [roundAt]
  · obtain ⟨k, hk⟩ := Int.eq_ofNat_of_zero_le (a := -e) (by omega)
    have e_eq : e = -(k : Int) := by omega
    subst e_eq
    have down : ¬ (0 : Int) ≤ -(k : Int) := up
    refine ⟨num * 2 ^ k, den, pos, ?_, ?_, ?_⟩
    · push_cast
      rw [zpow_neg, zpow_natCast, div_inv_eq_mul, div_mul_eq_mul_div]
    · rw [floorAt, if_neg down]
      simp
    · rw [roundAt, if_neg down]
      simp

theorem le_floorAt_iff (num : Nat) (pos : 0 < den) (e : Int) (n : Nat) :
    n ≤ floorAt num den e ↔ (n : ℚ) ≤ num / den / 2 ^ e := by
  obtain ⟨num', den', pos', same, floor, -⟩ := exists_scaled num pos e
  have pos'' : (0 : ℚ) < den' := by exact_mod_cast pos'
  rw [floor, ← same, Nat.le_div_iff_mul_le pos', le_div_iff₀ pos'']
  exact_mod_cast Iff.rfl

theorem abs_roundAt_sub_le (num : Nat) (pos : 0 < den) (e : Int) :
    2 * |(roundAt num den e : ℚ) - num / den / 2 ^ e| ≤ 1 := by
  obtain ⟨num', den', pos', same, -, round⟩ := exists_scaled num pos e
  rw [round, ← same]
  exact abs_roundDiv_sub_le pos'

theorem lt_roundAt_of_odd (num : Nat) (pos : 0 < den) (e : Int) {k : Nat} (odd : k % 2 = 1)
    (half : (2 * k + 1 : ℚ) ≤ 2 * (num / den / 2 ^ e)) : k < roundAt num den e := by
  obtain ⟨num', den', pos', same, -, round⟩ := exists_scaled num pos e
  have pos'' : (0 : ℚ) < den' := by exact_mod_cast pos'
  rw [round]
  apply lt_roundDiv_of_odd pos' odd
  rw [← same, ← mul_div_assoc, le_div_iff₀ pos''] at half
  exact_mod_cast half

theorem log2_bounds (ne : num ≠ 0) (pos : 0 < den) {guess : Int}
    (h : guess = (num.log2 : Int) - den.log2 - 53) :
    (2 : ℚ) ^ 52 * 2 ^ guess < num / den ∧ (num / den : ℚ) < 2 ^ 54 * 2 ^ guess := by
  have pos' : (0 : ℚ) < den := by exact_mod_cast pos
  have numLow : (2 : ℚ) ^ num.log2 ≤ num := by exact_mod_cast Nat.log2_self_le ne
  have numHigh : (num : ℚ) < 2 ^ (num.log2 + 1) := by exact_mod_cast Nat.lt_log2_self
  have denLow : (2 : ℚ) ^ den.log2 ≤ den := by exact_mod_cast Nat.log2_self_le (by omega)
  have denHigh : (den : ℚ) < 2 ^ (den.log2 + 1) := by exact_mod_cast Nat.lt_log2_self
  have power (k l m : Nat) (sum : (k : Int) + guess + l = m) :
      (2 : ℚ) ^ k * 2 ^ guess * 2 ^ l = 2 ^ m := by
    rw [← zpow_natCast, ← zpow_natCast, ← zpow_natCast, ← zpow_add₀ two_ne_zero,
      ← zpow_add₀ two_ne_zero, sum]
  constructor
  · rw [lt_div_iff₀ pos']
    calc (2 : ℚ) ^ 52 * 2 ^ guess * den
        < 2 ^ 52 * 2 ^ guess * 2 ^ (den.log2 + 1) := by gcongr
      _ = 2 ^ num.log2 := power 52 (den.log2 + 1) num.log2 (by push_cast; omega)
      _ ≤ num := numLow
  · rw [div_lt_iff₀ pos']
    calc (num : ℚ) < 2 ^ (num.log2 + 1) := numHigh
      _ = 2 ^ 54 * 2 ^ guess * 2 ^ den.log2 :=
        (power 54 den.log2 (num.log2 + 1) (by push_cast; omega)).symm
      _ ≤ 2 ^ 54 * 2 ^ guess * den := by gcongr

theorem exponentFor_spec (ne : num ≠ 0) (pos : 0 < den) :
    (num / den : ℚ) < 2 ^ 53 * 2 ^ exponentFor num den ∧
      ((2 : ℚ) ^ 52 * 2 ^ exponentFor num den ≤ num / den ∨ exponentFor num den = minExponent) := by
  obtain ⟨guess, h⟩ : ∃ guess : Int, guess = (num.log2 : Int) - den.log2 - 53 := ⟨_, rfl⟩
  obtain ⟨low, high⟩ := log2_bounds ne pos h
  have step : (2 : ℚ) ^ (guess + 1) = 2 ^ guess * 2 := zpow_add_one₀ two_ne_zero guess
  have guessPos : (0 : ℚ) < 2 ^ guess := by positivity
  obtain ⟨exact, exact_eq⟩ : ∃ exact : Int,
      exact = if Nat.pow 2 53 ≤ floorAt num den guess then guess + 1 else guess := ⟨_, rfl⟩
  have bounds : (2 : ℚ) ^ 52 * 2 ^ exact ≤ num / den ∧ (num / den : ℚ) < 2 ^ 53 * 2 ^ exact := by
    have floor : Nat.pow 2 53 ≤ floorAt num den guess ↔ (2 : ℚ) ^ 53 * 2 ^ guess ≤ num / den := by
      rw [le_floorAt_iff num pos, le_div_iff₀ guessPos, Nat.pow_eq, Nat.cast_pow, Nat.cast_two]
    split_ifs at exact_eq with large
    · have large := floor.mp large
      rw [exact_eq, step]
      constructor <;> linarith
    · have small := lt_of_not_ge (mt floor.mpr large)
      rw [exact_eq]
      constructor <;> linarith
  have e_eq : exponentFor num den = max minExponent exact := by
    rw [exponentFor, exact_eq, h]
  rw [e_eq]
  rcases le_total minExponent exact with above | below
  · rw [max_eq_right above]
    exact ⟨bounds.2, .inl bounds.1⟩
  · rw [max_eq_left below]
    refine ⟨bounds.2.trans_le ?_, .inr rfl⟩
    gcongr
    norm_num

/-! ## Fractions -/

/-- Whether a fraction has been rounded well: to a double near it if it is below the limit, and to
none if it is not. -/
def RoundsTo (result : Option Binary64) (q : ℚ) : Prop :=
  match result with
  | some x => |q| < limit ∧ x.Rounds q
  | none => limit ≤ |q|

/-- The mantissa is rounded to at most 53 bits or the least number of 54 bits, and a number of 53
bits to no fewer of them. -/
theorem roundAt_bounds (ne : num ≠ 0) (pos : 0 < den) :
    roundAt num den (exponentFor num den) ≤ 2 ^ 53 ∧
      (2 ^ 52 ≤ roundAt num den (exponentFor num den) ∨ exponentFor num den = minExponent) := by
  obtain ⟨high, low⟩ := exponentFor_spec ne pos
  have near := abs_roundAt_sub_le num pos (exponentFor num den)
  generalize exponentFor num den = e at *
  have step : (0 : ℚ) < 2 ^ e := by positivity
  rw [← div_lt_iff₀ step] at high
  rw [← le_div_iff₀ step] at low
  obtain ⟨below, above⟩ := abs_le.mp (le_div_iff₀' two_pos |>.mpr near)
  constructor
  · have bound : (roundAt num den e : ℚ) < (2 ^ 53 + 1 : Nat) := by
      push_cast
      linarith
    exact Nat.le_of_lt_succ (by exact_mod_cast bound)
  · refine low.imp_left fun normal => ?_
    have bound : (2 ^ 52 : Nat) < (roundAt num den e + 1 : ℚ) := by
      push_cast
      linarith
    exact Nat.le_of_lt_succ (by exact_mod_cast bound)

/-- A mantissa of at most 53 bits with its exponent. A number of 54 bits is halved. -/
def carried (negative : Bool) (m : Nat) (e : Int) : Binary64 :=
  if m = Nat.pow 2 53 then ⟨negative, Nat.pow 2 52, e + 1⟩ else ⟨negative, m, e⟩

theorem ofRatio?_eq (negative : Bool) (ne : num ≠ 0) : ofRatio? negative num den =
    if maxExponent <
      (carried negative (roundAt num den (exponentFor num den)) (exponentFor num den)).exponent
    then none
    else some (carried negative (roundAt num den (exponentFor num den)) (exponentFor num den)) := by
  rw [ofRatio?, if_neg ne]
  rfl

section
variable {negative : Bool} {m : Nat} {e : Int}

@[simp] theorem carried_negative : (carried negative m e).negative = negative := by
  rw [carried]
  split_ifs <;> rfl

theorem carried_exponent :
    (carried negative m e).exponent = if m = 2 ^ 53 then e + 1 else e := by
  have power : Nat.pow 2 53 = 2 ^ 53 := rfl
  rw [carried, power]
  split_ifs <;> rfl

theorem carried_value :
    ((carried negative m e).mantissa * 2 ^ (carried negative m e).exponent : ℚ) = m * 2 ^ e := by
  by_cases full : m = Nat.pow 2 53
  · rw [carried, if_pos full, full]
    simp only
    rw [zpow_add_one₀ two_ne_zero]
    norm_num
    ring
  · rw [carried, if_neg full]

theorem finite_carried (bits : m ≤ 2 ^ 53) (normal : 2 ^ 52 ≤ m ∨ e = minExponent)
    (least : minExponent ≤ e) (greatest : (carried negative m e).exponent ≤ maxExponent) :
    (carried negative m e).IsFinite := by
  by_cases full : m = Nat.pow 2 53
  · rw [carried, if_pos full] at greatest ⊢
    have bits : Nat.pow 2 52 < 2 ^ 53 := by decide
    exact ⟨bits, .inl (Nat.le_refl _), Int.le_add_one least, greatest⟩
  · rw [carried, if_neg full] at greatest ⊢
    exact ⟨Nat.lt_of_le_of_ne bits full, normal, least, greatest⟩

end

/-! ## The limit -/

theorem two_mul_limit : 2 * limit = (2 ^ 54 - 1) * 2 ^ maxExponent := by
  have next : (2 : ℚ) ^ maxExponent = 2 ^ 970 * 2 := (zpow_natCast 2 971).trans (pow_succ 2 970)
  rw [limit, next]
  generalize (2 : ℚ) ^ 970 = unit
  ring

section
variable {e : Int} {q : ℚ}

theorem lt_limit_of_small (small : e < maxExponent) (high : q < 2 ^ 53 * 2 ^ e) : q < limit := by
  have double : (2 : ℚ) ^ e * 2 ≤ 2 ^ maxExponent := by
    rw [← zpow_add_one₀ two_ne_zero]
    exact zpow_le_zpow_right₀ one_le_two (by omega)
  have bound := two_mul_limit
  have positive : (0 : ℚ) < 2 ^ maxExponent := by positivity
  generalize (2 : ℚ) ^ maxExponent = largest at double bound positive
  linarith only [high, double, bound, positive]

theorem limit_le_of_large (large : maxExponent < e) (normal : 2 ^ 52 * 2 ^ e ≤ q) : limit ≤ q := by
  have double : (2 : ℚ) ^ maxExponent * 2 ≤ 2 ^ e := by
    rw [← zpow_add_one₀ two_ne_zero]
    exact zpow_le_zpow_right₀ one_le_two (by omega)
  have bound := two_mul_limit
  have positive : (0 : ℚ) < 2 ^ maxExponent := by positivity
  generalize (2 : ℚ) ^ maxExponent = largest at double bound positive
  linarith only [normal, double, bound, positive]

theorem lt_limit_iff_ne (pos : 0 < den) (bits : roundAt num den maxExponent ≤ 2 ^ 53) :
    (num / den : ℚ) < limit ↔ roundAt num den maxExponent ≠ 2 ^ 53 := by
  have near := abs_roundAt_sub_le num pos maxExponent
  have odd : (2 ^ 53 - 1) % 2 = 1 := by norm_num
  have half := lt_roundAt_of_odd num pos maxExponent odd
  have step : (0 : ℚ) < 2 ^ maxExponent := by positivity
  have scaled : (num / den : ℚ) < limit ↔ 2 * (num / den / 2 ^ maxExponent : ℚ) < 2 ^ 54 - 1 := by
    rw [← mul_lt_mul_iff_right₀ two_pos, two_mul_limit, ← mul_div_assoc 2 (num / den : ℚ),
      div_lt_iff₀ step]
  rw [scaled]
  generalize (num / den / 2 ^ maxExponent : ℚ) = r at near half
  generalize roundAt num den maxExponent = m at near half bits
  constructor
  · rintro small rfl
    have above := le_abs_self (((2 ^ 53 : Nat) : ℚ) - r)
    push_cast at near above
    linarith only [small, near, above]
  · intro room
    by_contra large
    have full : 2 ^ 53 - 1 < m := by
      apply half
      norm_num at large ⊢
      linarith only [large]
    omega

end

/-- A fraction is below the limit if the double that it is rounded to is finite, and only then. -/
theorem lt_limit_iff (negative : Bool) (ne : num ≠ 0) (pos : 0 < den) :
    (num / den : ℚ) < limit ↔
      (carried negative (roundAt num den (exponentFor num den)) (exponentFor num den)).exponent ≤
        maxExponent := by
  obtain ⟨high, low⟩ := exponentFor_spec ne pos
  have bits := (roundAt_bounds ne pos).1
  rw [carried_exponent]
  generalize exponentFor num den = e at *
  rcases lt_trichotomy e maxExponent with small | rfl | large
  · refine iff_of_true (lt_limit_of_small small high) ?_
    split_ifs <;> omega
  · rw [lt_limit_iff_ne pos bits]
    split_ifs with full
    · exact iff_of_false (not_not.mpr full) (by omega)
    · exact iff_of_true full le_rfl
  · have normal := low.resolve_right (by rw [maxExponent] at large; rw [minExponent]; omega)
    refine iff_of_false (not_lt.mpr (limit_le_of_large large normal)) ?_
    split_ifs <;> omega

/-! ## Fractions and the doubles that they are rounded to -/

theorem rounds_zero (negative : Bool) {q : ℚ} (small : 2 * |q| ≤ 2 ^ minExponent) :
    (zero negative).Rounds (signed negative q) := by
  have bits : 0 < 2 ^ 53 := by decide
  have greatest : minExponent ≤ maxExponent := by decide
  have finite : (zero negative).IsFinite := ⟨bits, .inr rfl, Int.le_refl _, greatest⟩
  apply rounds_of_near (m := 0) (e := minExponent) finite rfl ?_ (.inr rfl)
  rwa [Nat.cast_zero, zero_mul, zero_sub, abs_neg]

/-- The mantissa that a fraction is rounded to is at most half a step away from it. -/
theorem abs_mantissa_sub_le (num : Nat) (pos : 0 < den) (e : Int) :
    2 * |(roundAt num den e : ℚ) * 2 ^ e - num / den| ≤ 2 ^ e := by
  have near := abs_roundAt_sub_le num pos e
  have step : (0 : ℚ) < 2 ^ e := by positivity
  have apart : (roundAt num den e : ℚ) * 2 ^ e - num / den =
      (roundAt num den e - num / den / 2 ^ e) * 2 ^ e := by
    field_simp
  rw [apart, abs_mul, abs_of_pos step, ← mul_assoc]
  exact mul_le_of_le_one_left step.le near

/-- A fraction is rounded to the double that is nearest to it if it is below the limit, and to none
if it is not. -/
theorem ofRatio?_spec (negative : Bool) (num : Nat) (pos : 0 < den) :
    RoundsTo (ofRatio? negative num den) (signed negative (num / den)) := by
  have size : |signed negative (num / den)| = num / den := by
    rw [abs_signed, abs_of_nonneg (by positivity)]
  by_cases none : num = 0
  · have result : ofRatio? negative num den = some (zero negative) := if_pos none
    rw [result]
    refine ⟨?_, rounds_zero negative ?_⟩
    · rw [size, none, limit]
      norm_num
    · rw [none]
      norm_num
      positivity
  · have fits := lt_limit_iff negative none pos
    obtain ⟨bits, normal⟩ := roundAt_bounds none pos
    have least : minExponent ≤ exponentFor num den := le_max_left _ _
    rw [ofRatio?_eq negative none]
    split_ifs with large
    · have reached := not_lt.mp (mt fits.mp (not_le.mpr large))
      exact reached.trans_eq size.symm
    · have finite := finite_carried bits normal least (not_lt.mp large)
      refine ⟨size.trans_lt (fits.mpr (not_lt.mp large)), ?_⟩
      have rounds := rounds_of_near finite carried_value (abs_mantissa_sub_le num pos _)
        (exponentFor_spec none pos).2
      rwa [carried_negative] at rounds

/-! ## Decimal numbers -/

theorem pow_digitCount {n : Nat} (ne : n ≠ 0) :
    10 ^ digitCount n ≤ 10 * n ∧ n < 10 ^ digitCount n := by
  have pos : 0 < digitCount n := Nat.length_toDigits_pos
  constructor
  · rcases Nat.lt_or_ge 1 (digitCount n) with many | one
    · obtain ⟨k, count⟩ := Nat.exists_eq_add_of_lt many
      have count : digitCount n = k + 1 + 1 := by omega
      have short : ¬ (Nat.toDigits 10 n).length ≤ k + 1 := by
        rw [← digitCount]
        omega
      rw [Nat.length_toDigits_le_iff (by decide) (by omega)] at short
      rw [count, Nat.pow_succ]
      omega
    · have count : digitCount n = 1 := by omega
      rw [count]
      omega
  · exact (Nat.length_toDigits_le_iff (by decide) pos).mp (Nat.le_refl _)

theorem limit_le_pow : limit ≤ 10 ^ 310 := by
  have whole : 18014398509481983 * 2 ^ 970 ≤ 10 ^ 310 := by decide +kernel
  have limit_eq : limit = 18014398509481983 * 2 ^ 970 := by
    rw [limit]
    norm_num
  rw [limit_eq]
  exact_mod_cast whole

theorem pow_le_least_step : 2 * (10 : ℚ) ^ (-331 : Int) ≤ 2 ^ minExponent := by
  have whole : 2 * 2 ^ 1074 ≤ 10 ^ 331 := by decide +kernel
  have cast : (2 : ℚ) * 2 ^ 1074 ≤ 10 ^ 331 := by exact_mod_cast whole
  rw [minExponent, zpow_neg, zpow_neg, ← div_eq_mul_inv, ← one_div,
    div_le_div_iff₀ (by positivity) (by positivity)]
  rw [one_mul]
  exact_mod_cast cast

theorem pow_lt_limit : 2 ^ 64 < limit := by
  have unit : (2 : ℚ) ^ 64 ≤ 2 ^ 970 := pow_le_pow_right₀ one_le_two (by omega)
  rw [limit]
  generalize (2 : ℚ) ^ 970 = scale at unit
  linarith

theorem least_step_le_one : (2 : ℚ) ^ minExponent ≤ 1 :=
  zpow_le_one_of_nonpos₀ one_le_two (by decide)

section
variable {digits : Nat} {power : Int}

theorem pow_magnitude (digits : Nat) (power : Int) :
    (10 : ℚ) ^ (power + digitCount digits) = 10 ^ power * 10 ^ digitCount digits := by
  rw [zpow_add₀ (by norm_num), zpow_natCast]

theorem limit_le_of_huge (ne : digits ≠ 0) (huge : 310 < power + digitCount digits) :
    limit ≤ digits * 10 ^ power := by
  have low : (10 : ℚ) ^ digitCount digits ≤ 10 * digits := by exact_mod_cast (pow_digitCount ne).1
  have next : (10 : ℚ) * 10 ^ 310 = 10 ^ (311 : Int) :=
    (pow_succ' (10 : ℚ) 310).symm.trans (zpow_natCast (10 : ℚ) 311).symm
  have bound : (10 : ℚ) * 10 ^ 310 ≤ 10 * (digits * 10 ^ power) :=
    calc (10 : ℚ) * 10 ^ 310 = 10 ^ (311 : Int) := next
      _ ≤ 10 ^ (power + digitCount digits) := zpow_le_zpow_right₀ (by norm_num) (by omega)
      _ = 10 ^ power * 10 ^ digitCount digits := pow_magnitude digits power
      _ ≤ 10 ^ power * (10 * digits) := by gcongr
      _ = 10 * (digits * 10 ^ power) := by ring
  exact limit_le_pow.trans (le_of_mul_le_mul_left bound (by norm_num))

/-- A number with so many zeros after its point is at most half a step away from zero. -/
theorem le_step_of_tiny (ne : digits ≠ 0) (tiny : power + digitCount digits < -330) :
    2 * (digits * 10 ^ power : ℚ) ≤ 2 ^ minExponent := by
  have high : (digits : ℚ) ≤ 10 ^ digitCount digits := by exact_mod_cast (pow_digitCount ne).2.le
  calc 2 * (digits * 10 ^ power : ℚ) = 2 * (10 ^ power * digits) := by ring
    _ ≤ 2 * (10 ^ power * 10 ^ digitCount digits) := by gcongr
    _ = 2 * 10 ^ (power + digitCount digits) := by rw [pow_magnitude]
    _ ≤ 2 * 10 ^ (-331 : Int) :=
      mul_le_mul_of_nonneg_left (zpow_le_zpow_right₀ (by norm_num) (by omega)) zero_le_two
    _ ≤ 2 ^ minExponent := pow_le_least_step

/-- A decimal number is rounded to the double that is nearest to it if it is below the limit, and to
none if it is not. -/
theorem ofDecimal?_spec (negative : Bool) (digits : Nat) (power : Int) :
    RoundsTo (ofDecimal? negative digits power) (signed negative (digits * 10 ^ power)) := by
  have size : |(digits * 10 ^ power : ℚ)| = digits * 10 ^ power := abs_of_nonneg (by positivity)
  have toZero (small : 2 * (digits * 10 ^ power : ℚ) ≤ 2 ^ minExponent) :
      RoundsTo (some (zero negative)) (signed negative (digits * 10 ^ power)) := by
    refine ⟨?_, rounds_zero negative (size.symm ▸ small)⟩
    rw [abs_signed, size]
    linarith [pow_lt_limit, least_step_le_one]
  simp only [ofDecimal?]
  split_ifs with none huge tiny up
  · apply toZero
    rw [none, Nat.cast_zero, zero_mul, mul_zero]
    positivity
  · change limit ≤ |signed negative (digits * 10 ^ power)|
    rw [abs_signed, size]
    exact limit_le_of_huge none huge
  · exact toZero (le_step_of_tiny none tiny)
  · obtain ⟨k, rfl⟩ := Int.eq_ofNat_of_zero_le up
    have spec := ofRatio?_spec negative (digits * Nat.pow 10 k) Nat.one_pos
    simpa using spec
  · obtain ⟨k, hk⟩ := Int.eq_ofNat_of_zero_le (a := -power) (by omega)
    have power_eq : power = -(k : Int) := by omega
    have pos : 0 < Nat.pow 10 k := Nat.pow_pos (by decide)
    have spec := ofRatio?_spec negative digits pos
    rw [power_eq, zpow_neg, zpow_natCast, ← div_eq_mul_inv, neg_neg, Int.toNat_natCast]
    simpa using spec

end

end

end Binary64

end Folio.Decimal
