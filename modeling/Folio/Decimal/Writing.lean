import Folio.Decimal.Shortest

namespace Folio.Decimal

/-- When a decimal is written positionally: if the power of ten of its first digit is at least
`positionalFrom` and below `positionalBelow`. -/
structure Style where
  positionalFrom : Int
  positionalBelow : Int

/-- The digits with a point after the first `before` of them, which is padded by zeros on either
side so that a digit stands before and after the point. -/
def withPoint (digits : List Char) (before : Int) : List Char :=
  if before ≤ 0 then
    '0' :: '.' :: List.replicate (-before).toNat '0' ++ digits
  else
    let n := before.toNat
    let whole := digits.take n ++ List.replicate (n - digits.length) '0'
    let fraction := digits.drop n
    whole ++ '.' :: (if fraction.isEmpty then ['0'] else fraction)

/-- The digits with a point after the first one, if there are more, and the power of ten with its
sign. -/
def withExponent (digits : List Char) (power : Int) : List Char :=
  let mantissa := match digits with
    | first :: second :: rest => first :: '.' :: second :: rest
    | digits => digits
  let sign := if power < 0 then '-' else '+'
  mantissa ++ 'e' :: sign :: Nat.toDigits 10 power.natAbs

def Style.write (style : Style) (d : Scaled) : List Char :=
  let digits := Nat.toDigits 10 d.digits
  let before : Int := digits.length + d.power
  if style.positionalFrom ≤ before - 1 ∧ before - 1 < style.positionalBelow then
    withPoint digits before
  else
    withExponent digits (before - 1)

def Style.writeReal (style : Style) (x : Binary64) : String :=
  let unsigned := if x.mantissa = 0 then ['0', '.', '0'] else style.write (shortest x)
  String.ofList (if x.negative then '-' :: unsigned else unsigned)

end Folio.Decimal
