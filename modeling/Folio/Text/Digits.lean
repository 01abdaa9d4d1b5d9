namespace Folio.Text

def digitsValue (digits : List Char) : Nat :=
  digits.foldl (fun n c => 10 * n + (c.toNat - '0'.toNat)) 0

def hexValue? (c : Char) : Option Nat :=
  if c.isDigit then some (c.toNat - '0'.toNat)
  else if 'a' ≤ c ∧ c ≤ 'f' then some (c.toNat - 'a'.toNat + 10)
  else if 'A' ≤ c ∧ c ≤ 'F' then some (c.toNat - 'A'.toNat + 10)
  else none

/-- The value of a digit in the system of the given base, up to sixteen. -/
def digitValue? (base : Nat) (c : Char) : Option Nat :=
  (hexValue? c).filter (· < base)

def baseValue (base : Nat) (digits : List Char) : Nat :=
  digits.foldl (fun n c => base * n + (digitValue? base c).getD 0) 0

theorem foldl_digits (digits : List Char) (n : Nat) :
    digits.foldl (fun n c => 10 * n + (c.toNat - '0'.toNat)) n =
      n * Nat.pow 10 digits.length + digitsValue digits := by
  induction digits generalizing n with
  | nil => simp [digitsValue]
  | cons c rest ih =>
    simp only [digitsValue, List.foldl_cons, List.length_cons] at ih ⊢
    rw [ih, ih (10 * 0 + _)]
    have step : Nat.pow 10 (rest.length + 1) = 10 * Nat.pow 10 rest.length := Nat.mul_comm _ _
    have later : 10 * n * Nat.pow 10 rest.length = n * (10 * Nat.pow 10 rest.length) := by
      rw [Nat.mul_comm 10 n, Nat.mul_assoc]
    rw [step, Nat.add_mul, Nat.add_mul, later]
    omega

theorem digitsValue_append (a b : List Char) :
    digitsValue (a ++ b) = digitsValue a * Nat.pow 10 b.length + digitsValue b := by
  rw [digitsValue, List.foldl_append, foldl_digits]
  rfl

end Folio.Text
