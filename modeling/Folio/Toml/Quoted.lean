import Folio.Text.Digits
import Folio.Toml.Gap

/-! A text stands between double quotes, where a backslash starts an escape, or between single
quotes, where it stands for itself. Between three quotes it may go on over many lines; a line break
right after the opening quotes does not count. -/

namespace Folio.Toml

open Text (Parsed Reader baseValue digitValue?)

inductive Quote where
  | double
  | single
  deriving DecidableEq, Repr

def Quote.char : Quote → Char
  | .double => '"'
  | .single => '\''

def Quote.ofChar? (c : Char) : Option Quote :=
  if c = '"' then some .double else if c = '\'' then some .single else none

/-- The character with the code that exactly `count` hexadecimal digits give. -/
def codePoint (count : Nat) : Reader Char := fun text =>
  let digits := text.take count
  let code := baseValue 16 digits
  if h : digits.length = count ∧ 0 < count ∧ digits.all (fun c => (digitValue? 16 c).isSome) ∧
      code.isValidChar then
    some ⟨Char.ofNat code, text.drop count, by
      have := h.1
      have := h.2.1
      simp only [digits, List.length_take, List.length_drop] at *
      omega⟩
  else
    none

/-- The character that a backslash and `c` stand for. -/
def shortEscape? (c : Char) : Option Char :=
  match c with
  | 'b' => some '\x08'
  | 't' => some '\t'
  | 'n' => some '\n'
  | 'f' => some '\x0c'
  | 'r' => some '\r'
  | '"' => some '"'
  | '\\' => some '\\'
  | _ => none

/-- The character that an escape stands for, read after its backslash. -/
def escape : Reader Char
  | [] => none
  | c :: rest =>
    if c = 'u' then (codePoint 4 rest).map (·.afterFirst)
    else if c = 'U' then (codePoint 8 rest).map (·.afterFirst)
    else (shortEscape? c).map .first

def withChar {text later : List Char} (c : Char) (p : Parsed (List Char) later)
    (h : later.length ≤ text.length) : Parsed (List Char) text :=
  (p.map (c :: ·)).after h

/-- The characters of a text on one line up to its closing quote, which is read as well. -/
def lineRest (quote : Quote) (text : List Char) : Option (Parsed (List Char) text) :=
  match text with
  | [] => none
  | c :: rest =>
    if c = quote.char then some (.first [])
    else if c = '\\' ∧ quote = .double then
      match escape rest with
      | none => none
      | some ⟨c, later, h⟩ =>
        (lineRest quote later).map fun p =>
          withChar c p (by simp only [List.length_cons]; omega)
    else if isPlain c then (lineRest quote rest).map fun p => withChar c p (by simp)
    else none
termination_by text.length

def lineText : Reader String
  | [] => none
  | c :: rest =>
    match Quote.ofChar? c with
    | none => none
    | some quote => (lineRest quote rest).map fun p => (p.map String.ofList).afterFirst

/-- The most quotes that may stand together at the end of a text: two of the text and three that
close it. -/
def maxQuotes : Nat := 5

/-- The characters of a text over many lines up to its closing quotes, which are read as well. A
backslash at the end of a line takes the break and the blanks after it out of the text. -/
def blockRest (quote : Quote) (text : List Char) : Option (Parsed (List Char) text) :=
  match text with
  | [] => none
  | c :: rest =>
    if c = quote.char then
      let more := (rest.takeWhile (· = c)).length
      if more < 2 then (blockRest quote rest).map fun p => withChar c p (by simp)
      else if more < maxQuotes then
        some ⟨List.replicate (more - 2) c, rest.drop more, by
          simp only [List.length_drop, List.length_cons]; omega⟩
      else none
    else if c = '\\' ∧ quote = .double then
      match h' : afterBreak? (rest.dropWhile isSpace) with
      | some later =>
        have hLater : (dropBreaks later).length < (c :: rest).length := by
          have := length_dropBreaks_le later
          have := length_afterBreak_lt h'
          have := Text.length_dropWhile_le isSpace rest
          simp only [List.length_cons]
          omega
        (blockRest quote (dropBreaks later)).map fun p => p.after (Nat.le_of_lt hLater)
      | none =>
        match escape rest with
        | none => none
        | some ⟨c, later, h⟩ =>
          (blockRest quote later).map fun p =>
            withChar c p (by simp only [List.length_cons]; omega)
    else
      match h' : afterBreak? (c :: rest) with
      | some later =>
        have hLater := length_afterBreak_lt h'
        (blockRest quote later).map fun p => withChar '\n' p (Nat.le_of_lt hLater)
      | none =>
        if isPlain c then (blockRest quote rest).map fun p => withChar c p (by simp)
        else none
termination_by text.length
decreasing_by all_goals simp only [List.length_cons] at *; omega

def blockText (quote : Quote) : Reader String := fun text =>
  match h : afterBreak? text with
  | some later =>
    (blockRest quote later).map fun p =>
      (p.map String.ofList).after (Nat.le_of_lt (length_afterBreak_lt h))
  | none => (blockRest quote text).map fun p => p.map String.ofList

def quoted : Reader String
  | '"' :: '"' :: '"' :: rest =>
    (blockText .double rest).map fun p => p.after (by simp only [List.length_cons]; omega)
  | '\'' :: '\'' :: '\'' :: rest =>
    (blockText .single rest).map fun p => p.after (by simp only [List.length_cons]; omega)
  | text => lineText text

end Folio.Toml
