import Folio.Text.Digits
import Folio.Value.Basic

/-! Underscores may stand between the digits of a number. Whole numbers fit into 64 bits with a sign
and may be written with the base two, eight or sixteen. Infinite numbers and those that are no
numbers have no value and are read as null. -/

namespace Folio.Toml

open Text (baseValue digitValue? digitsValue)
open Decimal (Binary64)

/-- Whether a text starts and ends with a digit and has no two underscores in a row. -/
def isSpaced : List Char → Bool
  | [] => false
  | '_' :: _ => false
  | [_] => true
  | _ :: '_' :: rest => isSpaced rest
  | _ :: rest => isSpaced rest

/-- Digits of the given base with single underscores between them, without the underscores, and the
rest. -/
def digitRun? (base : Nat) (text : List Char) : Option (List Char × List Char) :=
  let isPart (c : Char) : Bool := c = '_' || (digitValue? base c).isSome
  let run := text.takeWhile isPart
  if isSpaced run then some (run.filter (· ≠ '_'), text.dropWhile isPart) else none

/-- The whole number, if it fits into 64 bits with a sign. -/
def whole? (n : Int) : Option Value :=
  if -Int.pow 2 63 ≤ n ∧ n < Int.pow 2 63 then some (.number (.whole n)) else none

/-- The base that a number is written with, from the letter after a leading zero. -/
def base? (c : Char) : Option Nat :=
  if c = 'x' then some 16 else if c = 'o' then some 8 else if c = 'b' then some 2 else none

def fractionPart? (text : List Char) : Option (Option (List Char) × List Char) :=
  match text with
  | '.' :: rest => (digitRun? 10 rest).map fun found => (some found.1, found.2)
  | text => some (none, text)

/-- A sign, true for minus, and the rest. -/
def signPart (text : List Char) : Option Bool × List Char :=
  match text with
  | '-' :: rest => (some true, rest)
  | '+' :: rest => (some false, rest)
  | text => (none, text)

def exponentPart? (text : List Char) : Option (Option Int × List Char) :=
  match text with
  | [] => some (none, [])
  | c :: rest =>
    if c = 'e' ∨ c = 'E' then do
      let (sign?, rest) := signPart rest
      let (digits, rest) ← digitRun? 10 rest
      let n : Int := digitsValue digits
      some (some (if sign? = some true then -n else n), rest)
    else
      some (none, text)

/-- The number with the given digits, fraction and exponent. What is too large is refused with a
plus sign and infinite, that is null, with a minus sign. -/
def real? (negative : Bool) (whole fraction : List Char) (exponent : Int) : Option Value :=
  let digits := digitsValue (whole ++ fraction)
  match Binary64.ofDecimal? negative digits (exponent - fraction.length) with
  | some x => some (.number (.real x))
  | none => if negative then some .null else none

/-- A number in the decimal system, read after its sign. -/
def decimal? (negative : Bool) (text : List Char) : Option (Value × List Char) := do
  let (whole, text) ← digitRun? 10 text
  guard (whole.head? = some '0' → whole.length = 1)
  let (fraction?, text) ← fractionPart? text
  let (exponent?, text) ← exponentPart? text
  let value ← match fraction?, exponent? with
    | none, none => whole? (if negative then -(digitsValue whole : Int) else digitsValue whole)
    | _, _ => real? negative whole (fraction?.getD []) (exponent?.getD 0)
  return (value, text)

def number? (text : List Char) : Option (Value × List Char) :=
  match signPart text with
  | (_, 'i' :: 'n' :: 'f' :: rest) => some (.null, rest)
  | (_, 'n' :: 'a' :: 'n' :: rest) => some (.null, rest)
  | (none, '0' :: c :: rest) =>
    match base? c with
    | some base => do
      let (digits, rest) ← digitRun? base rest
      let value ← whole? (baseValue base digits)
      return (value, rest)
    | none => decimal? false text
  | (sign?, rest) => decimal? (sign? = some true) rest

end Folio.Toml
