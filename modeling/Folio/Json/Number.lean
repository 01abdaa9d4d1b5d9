import Folio.Value.Path

/-! A number without fraction and exponent is whole as long as it fits into 64 bits, with or without
a sign; `-0` and all other numbers are doubles. A double is read in two roundings: as many leading
digits as fit into 64 bits are rounded to a double, which is then multiplied or divided by a power
of ten. -/

namespace Folio.Json

open Decimal (Binary64)
open Text (digitsValue)

def maxSignificand : Nat := Nat.pow 2 64 - 1

/-- A significand of 64 bits with a power of ten. -/
structure Scientific where
  significand : Nat
  power : Int

/-- Takes digits into the significand while it fits into 64 bits. The result tells how many digits
were left out. -/
def takeDigits (significand : Nat) : List Char → Nat × Nat
  | [] => (significand, 0)
  | c :: rest =>
    let longer := 10 * significand + (c.toNat - '0'.toNat)
    if longer ≤ maxSignificand then takeDigits longer rest else (significand, rest.length + 1)

/-- The significand of the digits before and after the point. Digits before the point that do not
fit raise the power of ten, those after the point are ignored. -/
def Scientific.ofDigits (whole fraction : List Char) : Scientific :=
  let (significand, left) := takeDigits 0 whole
  let (significand', left') := takeDigits significand fraction
  ⟨significand', (left : Int) - (fraction.length - left')⟩

/-- The largest power of ten that is a finite double. -/
def maxPower : Int := 308

def powerOfTen (power : Nat) : Binary64 :=
  (Binary64.ofDecimal? false 1 power).getD (Binary64.zero false)

/-- The double times ten to the given power, in as many steps as the power needs; `none` if it is
too large. -/
def scale (x : Binary64) (power : Int) : Option Binary64 :=
  if x.mantissa = 0 then some x
  else if maxPower < power then none
  else if 0 ≤ power then x.mul? (powerOfTen power.toNat)
  else if -maxPower ≤ power then x.div? (powerOfTen (-power).toNat)
  else (x.div? (powerOfTen maxPower.toNat)).bind fun y => scale y (power + maxPower)
termination_by (-power).toNat
decreasing_by simp only [maxPower] at *; omega

def Scientific.real? (s : Scientific) (negative : Bool) : Option Binary64 :=
  (Binary64.ofRatio? false s.significand 1).bind fun x =>
    (scale x s.power).map fun y => y.withSign negative

/-- A whole number if it fits into 64 bits, otherwise a double. -/
def wholeNumber? (negative : Bool) (digits : List Char) : Option Number :=
  let n := digitsValue digits
  if negative then
    if 0 < n ∧ n ≤ Nat.pow 2 63 then some (.whole (-n))
    else ((Scientific.ofDigits digits []).real? true).map .real
  else
    if n ≤ maxSignificand then some (.whole n)
    else ((Scientific.ofDigits digits []).real? false).map .real

/-- Exponents from here on make a number too large or zero, whatever its digits. -/
def exponentLimit : Nat := Nat.pow 2 31

def realNumber? (negative : Bool) (whole fraction : List Char) (exponent : Int) : Option Number :=
  let s := Scientific.ofDigits whole fraction
  if exponentLimit ≤ exponent.natAbs then
    if s.significand ≠ 0 ∧ 0 < exponent then none else some (.real (Binary64.zero negative))
  else
    (Scientific.real? ⟨s.significand, s.power + exponent⟩ negative).map .real

end Folio.Json
