/-! A finite double of 64 bits as sign, mantissa and power of two, and the double nearest to a
fraction. All arithmetic is exact, on natural numbers. -/

namespace Folio.Decimal

/-- The number `mantissa * 2 ^ exponent`, negated if `negative`. Values made by `Binary64.ofRatio?`
have a mantissa of 53 bits, or the least exponent `-1074`. -/
structure Binary64 where
  negative : Bool
  mantissa : Nat
  exponent : Int
  deriving DecidableEq, Repr, Inhabited

/-- `num / den` rounded to the nearest natural number, a half to the even neighbour. -/
def roundDiv (num den : Nat) : Nat :=
  let below := num / den
  let rest := num % den
  if 2 * rest < den then below
  else if den < 2 * rest then below + 1
  else if below % 2 = 0 then below
  else below + 1

theorem two_mul_roundDiv_le {num den : Nat} : 2 * (roundDiv num den * den) ≤ 2 * num + den := by
  have h := Nat.div_add_mod num den
  have hm : den * (num / den) = num / den * den := Nat.mul_comm _ _
  simp only [roundDiv]
  split
  · omega
  · split
    · rw [Nat.add_mul]; omega
    · split
      · omega
      · rw [Nat.add_mul]; omega

theorem le_two_mul_roundDiv {num den : Nat} (pos : 0 < den) :
    2 * num ≤ 2 * (roundDiv num den * den) + den := by
  have h := Nat.div_add_mod num den
  have hr := Nat.mod_lt num pos
  have hm : den * (num / den) = num / den * den := Nat.mul_comm _ _
  simp only [roundDiv]
  split
  · omega
  · split
    · rw [Nat.add_mul]; omega
    · split
      · omega
      · rw [Nat.add_mul]; omega

namespace Binary64

/-- The least exponent, that of the numbers next to zero. -/
def minExponent : Int := -1074

/-- The exponent of the largest finite doubles. -/
def maxExponent : Int := 971

def zero (negative : Bool) : Binary64 := ⟨negative, 0, minExponent⟩

/-- The largest natural number not above `num / den / 2 ^ e`. -/
def floorAt (num den : Nat) (e : Int) : Nat :=
  if 0 ≤ e then num / (den * Nat.pow 2 e.toNat) else num * Nat.pow 2 (-e).toNat / den

/-- `num / den / 2 ^ e` rounded to nearest, ties to even. -/
def roundAt (num den : Nat) (e : Int) : Nat :=
  if 0 ≤ e then roundDiv num (den * Nat.pow 2 e.toNat)
  else roundDiv (num * Nat.pow 2 (-e).toNat) den

/-- The exponent at which `num / den` has a mantissa of 53 bits, or the least one if that is
larger. -/
def exponentFor (num den : Nat) : Int :=
  let guess : Int := (num.log2 : Int) - den.log2 - 53
  max minExponent (if Nat.pow 2 53 ≤ floorAt num den guess then guess + 1 else guess)

/-- The double nearest to `num / den`, ties to the even mantissa; `none` if that is not finite. -/
def ofRatio? (negative : Bool) (num den : Nat) : Option Binary64 :=
  if num = 0 then some (zero negative)
  else
    let e := exponentFor num den
    let m := roundAt num den e
    let rounded : Binary64 :=
      if m = Nat.pow 2 53 then ⟨negative, Nat.pow 2 52, e + 1⟩ else ⟨negative, m, e⟩
    if maxExponent < rounded.exponent then none else some rounded

def digitCount (n : Nat) : Nat := (Nat.toDigits 10 n).length

/-- The double nearest to `digits * 10 ^ power`; `none` if that is not finite. Numbers from
`10 ^ 310` on are not finite, and those below `10 ^ -330` are nearest to zero. -/
def ofDecimal? (negative : Bool) (digits : Nat) (power : Int) : Option Binary64 :=
  if digits = 0 then some (zero negative)
  else
    let magnitude := power + digitCount digits
    if 310 < magnitude then none
    else if magnitude < -330 then some (zero negative)
    else if 0 ≤ power then ofRatio? negative (digits * Nat.pow 10 power.toNat) 1
    else ofRatio? negative digits (Nat.pow 10 (-power).toNat)

def num (x : Binary64) : Nat := x.mantissa * Nat.pow 2 x.exponent.toNat

def den (x : Binary64) : Nat := Nat.pow 2 (-x.exponent).toNat

/-- The double nearest to the product of the absolute values. -/
def mul? (x y : Binary64) : Option Binary64 :=
  ofRatio? false (x.num * y.num) (x.den * y.den)

/-- The double nearest to the quotient of the absolute values, for `y` not zero. -/
def div? (x y : Binary64) : Option Binary64 :=
  ofRatio? false (x.num * y.den) (x.den * y.num)

def withSign (x : Binary64) (negative : Bool) : Binary64 := { x with negative }

end Binary64

end Folio.Decimal
