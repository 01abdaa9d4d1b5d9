import Folio.Text.Reading

namespace Folio.Toml

open Text (length_dropWhile_le)

def isSpace (c : Char) : Bool :=
  c = ' ' || c = '\t'

/-- A character that may stand in a comment or in a string: any but control characters, tabs
excepted. -/
def isPlain (c : Char) : Bool :=
  c = '\t' || (' ' ≤ c && c ≠ '\x7f')

def afterBreak? : List Char → Option (List Char)
  | '\n' :: rest => some rest
  | '\r' :: '\n' :: rest => some rest
  | _ => none

def dropComment : List Char → List Char
  | '#' :: rest => rest.dropWhile isPlain
  | text => text

/-- What follows the line that a text starts in the middle of, if nothing but blanks and a comment
is left of the line. -/
def afterLine? (text : List Char) : Option (List Char) :=
  match dropComment (text.dropWhile isSpace) with
  | [] => some []
  | rest => afterBreak? rest

def dropBreaks : List Char → List Char
  | '\n' :: rest => dropBreaks rest
  | '\r' :: '\n' :: rest => dropBreaks rest
  | c :: rest => if isSpace c then dropBreaks rest else c :: rest
  | [] => []

def dropGaps (text : List Char) : List Char :=
  match text with
  | '\n' :: rest => dropGaps rest
  | '\r' :: '\n' :: rest => dropGaps rest
  | '#' :: rest => dropGaps (rest.dropWhile isPlain)
  | c :: rest => if isSpace c then dropGaps rest else c :: rest
  | [] => []
termination_by text.length
decreasing_by
  all_goals simp only [List.length_cons]
  · omega
  · omega
  · have := length_dropWhile_le isPlain rest; omega
  · omega

theorem length_afterBreak_lt {text rest : List Char} (h : afterBreak? text = some rest) :
    rest.length < text.length := by
  unfold afterBreak? at h
  split at h
  · simp only [Option.some.injEq] at h; simp [h]
  · simp only [Option.some.injEq] at h; simp only [List.length_cons, h]; omega
  · contradiction

theorem length_dropComment_le (text : List Char) : (dropComment text).length ≤ text.length := by
  unfold dropComment
  split
  · have := length_dropWhile_le isPlain ‹List Char›
    simp only [List.length_cons]
    omega
  · exact Nat.le_refl _

theorem length_afterLine_le {text rest : List Char} (h : afterLine? text = some rest) :
    rest.length ≤ text.length := by
  have hComment := length_dropComment_le (text.dropWhile isSpace)
  have hSpace := length_dropWhile_le isSpace text
  unfold afterLine? at h
  split at h
  · simp_all
  · have := length_afterBreak_lt h
    omega

theorem length_dropBreaks_le (text : List Char) : (dropBreaks text).length ≤ text.length := by
  fun_induction dropBreaks text <;> simp_all <;> omega

theorem length_dropGaps_le (text : List Char) : (dropGaps text).length ≤ text.length := by
  fun_induction dropGaps text with
  | case3 rest ih =>
    have := length_dropWhile_le isPlain rest
    simp only [List.length_cons]
    omega
  | _ => simp_all <;> omega

theorem length_le_of_dropGaps_eq {text rest : List Char} (h : dropGaps text = rest) :
    rest.length ≤ text.length :=
  h ▸ length_dropGaps_le text

end Folio.Toml
