import Folio.Decimal.Binary64

/-! Every double is the nearest one to all the reals of an interval around it. Among the decimals in
that interval `shortest` takes one with the fewest digits, and of those the nearest to the double.
-/

namespace Folio.Decimal

structure Scaled where
  digits : Nat
  power : Int
  deriving DecidableEq, Repr, Inhabited

/-- The interval of reals that round to `value / den`, from `low / den` to `high / den`. Its ends
belong to it iff `closed`. -/
structure Interval where
  low : Nat
  value : Nat
  high : Nat
  den : Nat
  closed : Bool
  deriving Repr

/-- The interval of the reals that round to `x`: half the way to either neighbour, of which the
lower one is nearer at a power of two. -/
def Interval.around (x : Binary64) : Interval :=
  let below := if x.mantissa = Nat.pow 2 52 ∧ Binary64.minExponent < x.exponent then 1 else 2
  let up := Nat.pow 2 (x.exponent - 2).toNat
  { low := (4 * x.mantissa - below) * up
    value := 4 * x.mantissa * up
    high := (4 * x.mantissa + 2) * up
    den := Nat.pow 2 (2 - x.exponent).toNat
    closed := x.mantissa % 2 = 0 }

namespace Interval

/-- The largest `c` with `c * 10 ^ power` not above the value. -/
def floorAt (i : Interval) (power : Int) : Nat :=
  if 0 ≤ power then i.value / (i.den * Nat.pow 10 power.toNat)
  else i.value * Nat.pow 10 (-power).toNat / i.den

/-- `c * 10 ^ power` and the three points of the interval as natural numbers on one scale: the
decimal, then low, value and high. -/
def onScale (i : Interval) (d : Scaled) : Nat × Nat × Nat × Nat :=
  let up := Nat.pow 10 (-d.power).toNat
  (d.digits * Nat.pow 10 d.power.toNat * i.den, i.low * up, i.value * up, i.high * up)

def contains (i : Interval) (d : Scaled) : Bool :=
  let (place, low, _, high) := i.onScale d
  if i.closed then low ≤ place && place ≤ high else low < place && place < high

/-- How far the decimal is from the value, on the scale of its power of ten. -/
def distance (i : Interval) (d : Scaled) : Nat :=
  let (place, _, value, _) := i.onScale d
  (place - value) + (value - place)

/-- The decimal with the given power that lies in the interval and is nearest to the value, among
the two next to the value; if they are equally near, the one with an even last digit. -/
def hit? (i : Interval) (power : Int) : Option Scaled :=
  let below : Scaled := ⟨i.floorAt power, power⟩
  let above : Scaled := ⟨i.floorAt power + 1, power⟩
  match i.contains below, i.contains above with
  | true, true =>
    if i.distance above < i.distance below then some above
    else if i.distance below < i.distance above then some below
    else if below.digits % 2 = 0 then some below
    else some above
  | true, false => some below
  | false, true => some above
  | false, false => none

theorem contains_of_hit? {i : Interval} {power : Int} {d : Scaled} (h : i.hit? power = some d) :
    i.contains d = true ∧ d.power = power := by
  simp only [hit?] at h
  split at h
  · split at h
    · cases h; simp_all
    · split at h
      · cases h; simp_all
      · split at h <;> (cases h; simp_all)
  · cases h; simp_all
  · cases h; simp_all
  · simp at h

/-- The power of ten of the first digit of the value, which is at least `10 ^ -400`. -/
def magnitude (i : Interval) : Int :=
  (Binary64.digitCount (i.value * Nat.pow 10 400 / i.den) : Int) - 401

end Interval

/-- The nearest decimal among the shortest ones that round to `x`, which is not zero. The first
power of ten tried is the one above the value, where only a one can be hit; 17 digits are always
enough. -/
def shortest (x : Binary64) : Scaled :=
  let i := Interval.around x
  let top := i.magnitude + 1
  match (List.range 18).findSome? fun (n : Nat) => i.hit? (top - n) with
  | some d => d
  | none => ⟨i.floorAt (top - 17), top - 17⟩

end Folio.Decimal
