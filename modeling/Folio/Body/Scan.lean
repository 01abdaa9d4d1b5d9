import Folio.Body.Tag

/-! A scanner goes through a text once, from the first character to the last. In a text it waits for
two opening braces, inside a tag for two closing ones; a single brace may turn out to be none of
them, and then the character after it is looked at once more. Two opening braces that are never
closed make no tag. -/

namespace Folio

/-- Where a scanner is: in text, after one opening brace, inside a tag, or inside a tag after one
closing brace. The content of a tag is kept in reverse. -/
inductive ScanState where
  | text (backslashes : Nat)
  | opening (start backslashes : Nat)
  | inside (start backslashes : Nat) (content : List Char)
  | closing (start backslashes : Nat) (content : List Char)
  deriving DecidableEq, Repr

structure Scanner where
  state : ScanState
  position : Nat
  line : Nat
  deriving DecidableEq, Repr

/-- What a scanner does with a character: the next scanner, a tag that has ended, and whether the
character is used up. -/
structure ScanStep where
  next : Scanner
  tag? : Option Tag
  consumed : Bool
  deriving DecidableEq, Repr

namespace Scanner

def start : Scanner := ⟨.text 0, 0, 1⟩

def lineAfter (line : Nat) (c : Char) : Nat :=
  if c = '\n' then line + 1 else line

def advance (state : ScanState) (scanner : Scanner) (c : Char) : ScanStep :=
  ⟨⟨state, scanner.position + 1, lineAfter scanner.line c⟩, none, true⟩

/-- The scanner looks at the same character in another state. -/
def retry (state : ScanState) (scanner : Scanner) : ScanStep :=
  ⟨{ scanner with state }, none, false⟩

def step (scanner : Scanner) (c : Char) : ScanStep :=
  match scanner.state with
  | .text backslashes =>
    if c = '\\' then scanner.advance (.text (backslashes + 1)) c
    else if c = '{' then scanner.advance (.opening scanner.position backslashes) c
    else scanner.advance (.text 0) c
  | .opening start backslashes =>
    if c = '{' then scanner.advance (.inside start backslashes []) c
    else scanner.retry (.text 0)
  | .inside start backslashes content =>
    if c = '}' then scanner.advance (.closing start backslashes content) c
    else scanner.advance (.inside start backslashes (c :: content)) c
  | .closing start backslashes content =>
    if c = '}' then
      { scanner.advance (.text 0) c with
        tag? := some ⟨start, content.reverse, backslashes, scanner.line⟩ }
    else
      scanner.retry (.inside start backslashes ('}' :: content))

/-- How often a state can put a character back: once after a single brace. -/
def rank (scanner : Scanner) : Nat :=
  match scanner.state with
  | .text _ => 0
  | .inside _ _ _ => 0
  | .opening _ _ => 1
  | .closing _ _ _ => 1

theorem rank_lt_of_not_consumed {scanner : Scanner} {c : Char}
    (h : (scanner.step c).consumed = false) : (scanner.step c).next.rank < scanner.rank := by
  rcases scanner with ⟨_ | _ | _ | _, position, line⟩ <;> simp only [step] at h ⊢ <;>
    (repeat' split at h) <;> simp_all [advance, retry, rank]

/-- A character that was put back is used up by the next step. -/
theorem consumed_of_not_consumed {scanner : Scanner} {c : Char}
    (h : (scanner.step c).consumed = false) : ((scanner.step c).next.step c).consumed = true := by
  cases h' : ((scanner.step c).next.step c).consumed with
  | true => rfl
  | false =>
    have first := rank_lt_of_not_consumed h
    have second := rank_lt_of_not_consumed h'
    have : scanner.rank ≤ 1 := by unfold rank; split <;> simp
    omega

def tags (scanner : Scanner) (text : List Char) : List Tag :=
  match text with
  | [] => []
  | c :: rest =>
    match _h : (scanner.step c).consumed with
    | true => (scanner.step c).tag?.toList ++ (scanner.step c).next.tags rest
    | false => (scanner.step c).tag?.toList ++ (scanner.step c).next.tags (c :: rest)
termination_by (text.length, scanner.rank)
decreasing_by
  · exact Prod.Lex.left _ _ (by simp)
  · exact Prod.Lex.right _ (rank_lt_of_not_consumed _h)

/-- How many steps the scanner makes until the text is used up. -/
def steps (scanner : Scanner) (text : List Char) : Nat :=
  match text with
  | [] => 0
  | c :: rest =>
    match _h : (scanner.step c).consumed with
    | true => 1 + (scanner.step c).next.steps rest
    | false => 1 + (scanner.step c).next.steps (c :: rest)
termination_by (text.length, scanner.rank)
decreasing_by
  · exact Prod.Lex.left _ _ (by simp)
  · exact Prod.Lex.right _ (rank_lt_of_not_consumed _h)

end Scanner

def scan (text : List Char) : List Tag :=
  Scanner.start.tags text

@[simp] theorem scan_nil : scan [] = [] := by
  simp [scan, Scanner.tags]

end Folio
