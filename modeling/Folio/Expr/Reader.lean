import Folio.Expr.Basic
import Folio.Text.Blank
import Folio.Text.Digits
import Folio.Text.Letter
import Folio.Text.Reading

/-! `Expr.read` reads a whole text as one expression. White space may stand around every part. A
reader for nested expressions is passed down to lists, objects and calls, one level less each time,
so that nesting is bounded. -/

namespace Folio.Expr

open Text (Parsed digitsValue isBlank isLetter isAlphanumeric trimStart length_dropWhile_le
  length_lt_of_dropWhile_eq_cons)

abbrev Reader (α : Type) := (text : List Char) → Except ExprError (Parsed α text)

/-- A letter or an underscore, with which a name starts. -/
def isNameStart (c : Char) : Bool :=
  isLetter c || c = '_'

def isNameChar (c : Char) : Bool :=
  isAlphanumeric c || c = '_' || c = '.'

def escaped (c : Char) : Char :=
  match c with
  | 'n' => '\n'
  | 't' => '\t'
  | c => c

/-- The characters of a string up to its closing quote, which is read as well. -/
def stringRest (quote : Char) : Reader (List Char)
  | [] => .error .openString
  | ['\\'] => .error .openString
  | '\\' :: c :: rest =>
    match stringRest quote rest with
    | .error error => .error error
    | .ok p => .ok (p.map (escaped c :: ·)).afterFirst.afterFirst
  | c :: rest =>
    if c = quote then .ok (.first [])
    else match stringRest quote rest with
      | .error error => .error error
      | .ok p => .ok (p.map (c :: ·)).afterFirst

def string : Reader String
  | [] => .error .openString
  | quote :: rest =>
    match stringRest quote rest with
    | .error error => .error error
    | .ok p => .ok (p.map String.ofList).afterFirst

def isNumberChar (c : Char) : Bool :=
  c.isDigit || c = '.' || c = 'e' || c = 'E'

/-- The whole number that the text stands for, if it is one of 64 bits with sign. -/
def whole? (negative : Bool) (digits : List Char) : Option Int :=
  if digits ≠ [] ∧ digits.all Char.isDigit then
    let n := digitsValue digits
    if negative then if n ≤ Nat.pow 2 63 then some (-(n : Int)) else none
    else if n < Nat.pow 2 63 then some n else none
  else
    none

def exponent? : List Char → Option Nat
  | [] => some 0
  | mark :: digits =>
    if (mark = 'e' ∨ mark = 'E') ∧ digits ≠ [] ∧ digits.all Char.isDigit then
      some (digitsValue digits)
    else
      none

/-- The finite double that the text stands for: digits, of which some may follow a point, and an
exponent without sign. -/
def real? (negative : Bool) (text : List Char) : Option Decimal.Binary64 :=
  let before := text.takeWhile Char.isDigit
  let (after, rest) := match text.dropWhile Char.isDigit with
    | '.' :: rest => (rest.takeWhile Char.isDigit, rest.dropWhile Char.isDigit)
    | rest => ([], rest)
  if before ++ after = [] then none
  else
    (exponent? rest).bind fun exponent =>
      Decimal.Binary64.ofDecimal? negative (digitsValue (before ++ after))
        ((exponent : Int) - after.length)

def number? (text : List Char) : Option Number :=
  let (negative, unsigned) := match text with
    | '-' :: unsigned => (true, unsigned)
    | unsigned => (false, unsigned)
  match whole? negative unsigned with
  | some n => some (.whole n)
  | none => (real? negative unsigned).map .real

def number : Reader Value
  | [] => .error (.badNumber "")
  | first :: rest =>
    let text := first :: rest.takeWhile isNumberChar
    match number? text with
    | some n =>
      .ok ⟨.number n, rest.dropWhile isNumberChar, by
        have := length_dropWhile_le isNumberChar rest; simp only [List.length_cons]; omega⟩
    | none => .error (.badNumber (String.ofList text))

/-- The dotted name that starts with the first character of the text, whatever that is. -/
def dottedName : Reader String
  | [] => .error .noFieldName
  | first :: rest =>
    .ok ⟨String.ofList (first :: rest.takeWhile isNameChar), rest.dropWhile isNameChar, by
      have := length_dropWhile_le isNameChar rest; simp only [List.length_cons]; omega⟩

/-- The names that are no keys. -/
def keyword? (name : String) : Option Value :=
  if name = "true" then some (.bool true)
  else if name = "false" then some (.bool false)
  else if name = "null" then some .null
  else none

/-- The expressions up to the closing bracket, at least one. -/
def items (nested : Reader Expr) (close : Char) (text : List Char) :
    Except ExprError (Parsed (List Expr) text) :=
  match nested text with
  | .error error => .error error
  | .ok ⟨item, rest, h⟩ =>
    match h' : trimStart rest with
    | [] => .error (.openList close)
    | c :: more =>
      have hMore : more.length < text.length :=
        Nat.lt_trans (length_lt_of_dropWhile_eq_cons h') h
      if c = ',' then
        match items nested close more with
        | .error error => .error error
        | .ok p => .ok ⟨item :: p.value, p.rest, Nat.lt_trans p.shorter hMore⟩
      else if c = close then .ok ⟨[item], more, hMore⟩
      else .error (.wrongSeparator close c)
termination_by text.length

def bracketed (nested : Reader Expr) (close : Char) (text : List Char) :
    Except ExprError (Parsed (List Expr) text) :=
  match h : trimStart text with
  | [] => items nested close text
  | c :: rest =>
    if c = close then .ok ⟨[], rest, length_lt_of_dropWhile_eq_cons h⟩
    else items nested close text

def fieldName (text : List Char) : Except ExprError (Parsed String text) :=
  match text with
  | [] => .error .noFieldName
  | c :: rest =>
    if c = '"' ∨ c = '\'' then string (c :: rest)
    else if isNameStart c then dottedName (c :: rest)
    else .error .noFieldName

def expect (wanted : Char) (text : List Char) : Except ExprError (Parsed Unit text) :=
  match h : trimStart text with
  | [] => .error (.missingChar wanted)
  | c :: rest =>
    if c = wanted then .ok ⟨(), rest, length_lt_of_dropWhile_eq_cons h⟩
    else .error (.wrongChar wanted c)

def field (nested : Reader Expr) (text : List Char) :
    Except ExprError (Parsed (String × Expr) text) :=
  match fieldName (trimStart text) with
  | .error error => .error error
  | .ok name =>
    match expect ':' name.rest with
    | .error error => .error error
    | .ok colon =>
      match nested colon.rest with
      | .error error => .error error
      | .ok value =>
        .ok ⟨(name.value, value.value), value.rest, by
          have hText := length_dropWhile_le isBlank text
          have hName : name.rest.length < (text.dropWhile isBlank).length := name.shorter
          have := colon.shorter
          have := value.shorter
          omega⟩

def fields (nested : Reader Expr) (text : List Char) :
    Except ExprError (Parsed (List (String × Expr)) text) :=
  match field nested text with
  | .error error => .error error
  | .ok ⟨first, rest, h⟩ =>
    match h' : trimStart rest with
    | ',' :: more =>
      have hMore : more.length < text.length :=
        Nat.lt_trans (length_lt_of_dropWhile_eq_cons h') h
      match fields nested more with
      | .error error => .error error
      | .ok p => .ok ⟨first :: p.value, p.rest, Nat.lt_trans p.shorter hMore⟩
    | '}' :: more =>
      .ok ⟨[first], more, Nat.lt_trans (length_lt_of_dropWhile_eq_cons h') h⟩
    | _ => .error .wrongFieldEnd
termination_by text.length

def braced (nested : Reader Expr) (text : List Char) :
    Except ExprError (Parsed (List (String × Expr)) text) :=
  match h : trimStart text with
  | '}' :: rest => .ok ⟨[], rest, length_lt_of_dropWhile_eq_cons h⟩
  | _ => fields nested text

/-- A keyword, a key, or a call if an opening parenthesis follows the name. -/
def nameOrCall (nested : Reader Expr) (text : List Char) :
    Except ExprError (Parsed Expr text) :=
  match dottedName text with
  | .error error => .error error
  | .ok ⟨name, rest, h⟩ =>
    match keyword? name with
    | some value => .ok ⟨.literal value, rest, h⟩
    | none =>
      match h' : trimStart rest with
      | '(' :: more =>
        match bracketed nested ')' more with
        | .error error => .error error
        | .ok p =>
          .ok ⟨.call name p.value, p.rest, by
            have := length_lt_of_dropWhile_eq_cons h'
            have := p.shorter
            omega⟩
      | _ => .ok ⟨.key name, rest, h⟩

def term (nested : Reader Expr) (text : List Char) : Except ExprError (Parsed Expr text) :=
  match text with
  | [] => .error .empty
  | c :: rest =>
    if c = '"' ∨ c = '\'' then
      match string (c :: rest) with
      | .error error => .error error
      | .ok p => .ok (p.map fun s => .literal (.text s))
    else if c = '[' then
      match bracketed nested ']' rest with
      | .error error => .error error
      | .ok p => .ok (p.map .list).afterFirst
    else if c = '{' then
      match braced nested rest with
      | .error error => .error error
      | .ok p => .ok (p.map .object).afterFirst
    else if c = '-' ∨ c.isDigit then
      match number (c :: rest) with
      | .error error => .error error
      | .ok p => .ok (p.map .literal)
    else if isNameStart c then nameOrCall nested (c :: rest)
    else .error (.strayChar c)

/-- An expression after white space, nested at most `levels` deep. -/
def nested : (levels : Nat) → Reader Expr
  | 0, _ => .error .tooDeep
  | levels + 1, text =>
    match term (nested levels) (trimStart text) with
    | .error error => .error error
    | .ok p => .ok (p.after (length_dropWhile_le isBlank text))

def read (source : List Char) : Except ExprError Expr :=
  match nested maxLevels source with
  | .error error => .error error
  | .ok p =>
    match trimStart p.rest with
    | [] => .ok p.value
    | rest => .error (.strayRest (String.ofList rest) (String.ofList source))

end Folio.Expr
