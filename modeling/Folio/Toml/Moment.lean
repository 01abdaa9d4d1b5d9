import Folio.Value.Path

namespace Folio.Toml

open Text (digitsValue)

structure Date where
  year : Nat
  month : Nat
  day : Nat
  deriving DecidableEq, Repr

/-- A time of a day; `nanos` are billionths of a second. -/
structure Time where
  hour : Nat
  minute : Nat
  second : Nat
  nanos : Nat
  deriving DecidableEq, Repr

/-- The distance from universal time: none, or a number of minutes. -/
inductive Offset where
  | zulu
  | minutes (count : Int)
  deriving DecidableEq, Repr

structure Moment where
  date? : Option Date
  time? : Option Time
  offset? : Option Offset
  deriving DecidableEq, Repr

def padded (width n : Nat) : String :=
  let digits := Nat.toDigits 10 n
  String.ofList (List.replicate (width - digits.length) '0' ++ digits)

def Date.text (d : Date) : String :=
  padded 4 d.year ++ "-" ++ padded 2 d.month ++ "-" ++ padded 2 d.day

/-- The fraction of a second with its point; nothing if it is zero. -/
def fractionText (nanos : Nat) : String :=
  if nanos = 0 then ""
  else
    let digits := (padded 9 nanos).toList
    "." ++ String.ofList (digits.reverse.dropWhile (· = '0')).reverse

def Time.text (t : Time) : String :=
  padded 2 t.hour ++ ":" ++ padded 2 t.minute ++ ":" ++ padded 2 t.second ++ fractionText t.nanos

def Offset.text : Offset → String
  | .zulu => "Z"
  | .minutes count =>
    let n := count.natAbs
    (if count < 0 then "-" else "+") ++ padded 2 (n / 60) ++ ":" ++ padded 2 (n % 60)

def Moment.text (m : Moment) : String :=
  let date := (m.date?.map Date.text).getD ""
  let between := if m.date?.isSome && m.time?.isSome then "T" else ""
  let time := (m.time?.map Time.text).getD ""
  date ++ between ++ time ++ (m.offset?.map Offset.text).getD ""

/-- The name of the only field of the object that a moment is read as. -/
def momentField : String := "$__toml_private_datetime"

def Moment.value (m : Moment) : Value :=
  .object [(momentField, .text m.text)]

def daysOf (year month : Nat) : Nat :=
  if month = 2 then
    if year % 4 = 0 ∧ (year % 100 ≠ 0 ∨ year % 400 = 0) then 29 else 28
  else if month = 4 ∨ month = 6 ∨ month = 9 ∨ month = 11 then 30
  else 31

/-- Exactly `width` digits whose value lies between `low` and `high`, and the rest. -/
def part? (width low high : Nat) (text : List Char) : Option (Nat × List Char) :=
  let digits := text.take width
  let n := digitsValue digits
  if digits.length = width ∧ digits.all Char.isDigit ∧ low ≤ n ∧ n ≤ high then
    some (n, text.drop width)
  else
    none

def char? (wanted : Char → Bool) : List Char → Option (Char × List Char)
  | c :: rest => if wanted c then some (c, rest) else none
  | [] => none

def date? (text : List Char) : Option (Date × List Char) := do
  let (year, text) ← part? 4 0 9999 text
  let (_, text) ← char? (· = '-') text
  let (month, text) ← part? 2 1 12 text
  let (_, text) ← char? (· = '-') text
  let (day, text) ← part? 2 1 31 text
  if daysOf year month < day then none else some (⟨year, month, day⟩, text)

/-- The fraction of a second after its point, of which nine digits count. -/
def fraction (text : List Char) : Nat × List Char :=
  match text with
  | '.' :: rest =>
    let digits := rest.takeWhile Char.isDigit
    if digits = [] then (0, text)
    else
      let kept := digits.take 9
      (digitsValue kept * Nat.pow 10 (9 - kept.length), rest.dropWhile Char.isDigit)
  | text => (0, text)

def time? (text : List Char) : Option (Time × List Char) := do
  let (hour, text) ← part? 2 0 23 text
  let (_, text) ← char? (· = ':') text
  let (minute, text) ← part? 2 0 59 text
  let (_, text) ← char? (· = ':') text
  let (second, text) ← part? 2 0 60 text
  let (nanos, text) := fraction text
  some (⟨hour, minute, second, nanos⟩, text)

def offset? (text : List Char) : Option (Offset × List Char) :=
  match text with
  | [] => none
  | c :: rest =>
    if c = 'Z' ∨ c = 'z' then some (.zulu, rest)
    else if c = '+' ∨ c = '-' then do
      let (hours, rest) ← part? 2 0 23 rest
      let (_, rest) ← char? (· = ':') rest
      let (minutes, rest) ← part? 2 0 59 rest
      let count : Int := hours * 60 + minutes
      some (.minutes (if c = '-' then -count else count), rest)
    else none

def moment? (text : List Char) : Option (Moment × List Char) :=
  match date? text with
  | some (date, rest) =>
    let later := do
      let (_, rest) ← char? (fun c => c = 'T' || c = 't' || c = ' ') rest
      time? rest
    match later with
    | none => some (⟨some date, none, none⟩, rest)
    | some (time, rest) =>
      match offset? rest with
      | some (offset, rest) => some (⟨some date, some time, some offset⟩, rest)
      | none => some (⟨some date, some time, none⟩, rest)
  | none =>
    match time? text with
    | some (time, rest) => some (⟨none, some time, none⟩, rest)
    | none => none

end Folio.Toml
