import Folio.Toml.Moment
import Folio.Toml.Numeral
import Folio.Toml.Quoted
import Folio.Toml.Table

/-! A document is a sequence of lines: headers of tables, and pairs of a dotted key and a value that
go into the table of the header before them. `read?` reads a whole document as the object of its
tables. Lists and inline tables may be nested up to 79 levels. -/

namespace Folio.Toml

open Text (Parsed Reader length_dropWhile_le length_le_of_dropWhile_eq
  length_lt_of_dropWhile_eq_cons)

def isNameChar (c : Char) : Bool :=
  c.isAlphanum || c = '_' || c = '-'

def name : Reader String := fun text =>
  match lineText text with
  | some p => some p
  | none =>
    let found := text.takeWhile isNameChar
    let rest := text.dropWhile isNameChar
    if h : rest.length < text.length then some ⟨String.ofList found, rest, h⟩ else none

def maxNames : Nat := 79

def names (text : List Char) : Option (Parsed (List String) text) :=
  match name (text.dropWhile isSpace) with
  | none => none
  | some ⟨first, rest, h⟩ =>
    have hRest : rest.length < text.length :=
      Nat.lt_of_lt_of_le h (length_dropWhile_le isSpace text)
    match h' : rest.dropWhile isSpace with
    | '.' :: more =>
      have : more.length < text.length :=
        Nat.lt_trans (length_lt_of_dropWhile_eq_cons h') hRest
      (names more).map fun p => (p.map (first :: ·)).after (Nat.le_of_lt this)
    | later =>
      some ⟨[first], later, Nat.lt_of_le_of_lt (length_le_of_dropWhile_eq h') hRest⟩
termination_by text.length
decreasing_by exact this

/-- A dotted key: the names that lead to its table, and its last name. -/
def key : Reader (List String × String) := fun text =>
  match names text with
  | none => none
  | some p =>
    match p.value.getLast? with
    | some last =>
      if p.value.length ≤ maxNames then some (p.map fun path => (path.dropLast, last)) else none
    | none => none

structure Pair where
  path : List String
  name : String
  value : Value

def pair (item : Reader Value) : Reader Pair := fun text =>
  match key text with
  | some ⟨(path, name), '=' :: rest, h⟩ =>
    (item (rest.dropWhile isSpace)).map fun p =>
      ⟨⟨path, name, p.value⟩, p.rest.dropWhile isSpace, by
        have := p.shorter
        have := length_dropWhile_le isSpace rest
        have := length_dropWhile_le isSpace p.rest
        simp only [List.length_cons] at h
        omega⟩
  | _ => none

/-- The items of a list up to its closing bracket; a comma may follow the last one. -/
def items (item : Reader Value) (text : List Char) : Option (Parsed (List Value) text) :=
  match h : dropGaps text with
  | ']' :: more => some ⟨[], more, length_le_of_dropGaps_eq h⟩
  | later =>
    match item later with
    | none => none
    | some ⟨value, rest, h'⟩ =>
      have hRest : rest.length < text.length :=
        Nat.lt_of_lt_of_le h' (length_le_of_dropGaps_eq h)
      match h'' : dropGaps rest with
      | ',' :: more =>
        have : more.length < text.length := Nat.lt_trans (length_le_of_dropGaps_eq h'') hRest
        (items item more).map fun p => (p.map (value :: ·)).after (Nat.le_of_lt this)
      | ']' :: more => some ⟨[value], more, Nat.lt_trans (length_le_of_dropGaps_eq h'') hRest⟩
      | _ => none
termination_by text.length
decreasing_by exact this

def pairs (item : Reader Value) (text : List Char) : Option (Parsed (List Pair) text) :=
  match (pair item text).bind Parsed.next? with
  | some (',', first) =>
    (pairs item first.rest).map fun p =>
      (p.map (first.value :: ·)).after (Nat.le_of_lt first.shorter)
  | some ('}', last) => some (last.map ([·]))
  | _ => none
termination_by text.length
decreasing_by exact first.shorter

def inlineTable? (pairs : List Pair) : Option Value :=
  let add (entries : Entries) (pair : Pair) : Option Entries :=
    Entries.setValue pair.name pair.value pair.path entries
  (pairs.foldlM add []).map fun entries => .ofFields (finishEntries entries)

/-- A reading that gives the rest of a text, if the rest is shorter. -/
def parsed? {α : Type} {text : List Char} (found : α × List Char) : Option (Parsed α text) :=
  if h : found.2.length < text.length then some ⟨found.1, found.2, h⟩ else none

def scalar : Reader Value := fun text =>
  match text with
  | 't' :: 'r' :: 'u' :: 'e' :: rest => parsed? (.bool true, rest)
  | 'f' :: 'a' :: 'l' :: 's' :: 'e' :: rest => parsed? (.bool false, rest)
  | '"' :: rest => (quoted ('"' :: rest)).map fun p => p.map .text
  | '\'' :: rest => (quoted ('\'' :: rest)).map fun p => p.map .text
  | text =>
    match moment? text with
    | some (moment, rest) => parsed? (moment.value, rest)
    | none => (number? text).bind parsed?

/-- A value in which lists and inline tables are nested at most `levels` deep. -/
def value (levels : Nat) : Reader Value := fun text =>
  match levels, text with
  | levels + 1, '[' :: rest =>
    (items (value levels) rest).map fun p => (p.map .list).afterFirst
  | levels + 1, '{' :: rest =>
    match h : rest.dropWhile isSpace with
    | '}' :: more => some ⟨.object [], more, by
        have := length_lt_of_dropWhile_eq_cons h
        simp only [List.length_cons]
        omega⟩
    | _ =>
      match pairs (value levels) rest with
      | none => none
      | some p => (inlineTable? p.value).map fun table => ⟨table, p.rest, by
          have := p.shorter
          simp only [List.length_cons]
          omega⟩
  | _, text => scalar text

def maxLevels : Nat := 79

inductive Line where
  | blank
  | table (path : List String) (name : String)
  | element (path : List String) (name : String)
  | pair (pair : Pair)

def lineContent? (text : List Char) : Option (Line × List Char) :=
  match text with
  | '[' :: '[' :: rest =>
    match key rest with
    | some ⟨(path, name), ']' :: ']' :: rest, _⟩ => some (.element path name, rest)
    | _ => none
  | '[' :: rest =>
    match key rest with
    | some ⟨(path, name), ']' :: rest, _⟩ => some (.table path name, rest)
    | _ => none
  | c :: rest =>
    if c = '#' ∨ c = '\n' ∨ c = '\r' then some (.blank, c :: rest)
    else (pair (value maxLevels) (c :: rest)).map fun p => (.pair p.value, p.rest)
  | [] => some (.blank, [])

def line : Reader Line := fun text => do
  let (content, rest) ← lineContent? (text.dropWhile isSpace)
  let rest ← afterLine? rest
  parsed? (content, rest)

def lines? (text : List Char) : Option (List Line) :=
  match text with
  | [] => some []
  | c :: text =>
    match line (c :: text) with
    | none => none
    | some ⟨first, rest, h⟩ =>
      have : rest.length < (c :: text).length := h
      (lines? rest).map (first :: ·)
termination_by text.length
decreasing_by all_goals simp only [List.length_cons] at *; omega

/-- The tables read so far, and the way to the one that pairs go into. -/
structure Draft where
  root : Entries
  current : List String

def Draft.add (draft : Draft) : Line → Option Draft
  | .blank => some draft
  | .table path name => do
    let root ← Entries.descend (Entries.openTable name) path draft.root
    return ⟨root, path ++ [name]⟩
  | .element path name => do
    let root ← Entries.descend (Entries.openElement name) path draft.root
    return ⟨root, path ++ [name]⟩
  | .pair pair => do
    let change := Entries.setValue pair.name pair.value pair.path
    let root ← Entries.descend change draft.current draft.root
    return ⟨root, draft.current⟩

/-- The text without the byte order mark it may start with. -/
def dropMark : List Char → List Char
  | '\ufeff' :: rest => rest
  | text => text

/-- The object that a whole document stands for. -/
def read? (text : String) : Option Value := do
  let lines ← lines? (dropMark text.toList)
  let draft ← lines.foldlM Draft.add ⟨[], []⟩
  return .ofFields (finishEntries draft.root)

end Folio.Toml
