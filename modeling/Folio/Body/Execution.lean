import Folio.Body.Block
import Folio.Body.Evaluation

/-! Text outside tags is written as it stands. The backslashes before a tag are halved, an escaped
tag is text, an expression tag writes its value, and a block executes the text up to its closing
tag: a loop once for each item of its list, a section once, handing the result over to the scope.
Lines are counted from the start of the file, also inside blocks. -/

namespace Folio.Body

variable {σ : Type}

/-- The list and the variable of a loop, from the text `list |variable|`. -/
def eachArgs? (args : List Char) : Option (String × String) := do
  let (key, rest) ← Text.cut? '|' args
  let (name, trailing) ← Text.cut? '|' rest
  let key := Text.trim key
  let name := Text.trim name
  guard (key ≠ [] ∧ name ≠ [] ∧ Text.trim trailing = [])
  return (String.ofList key, String.ofList name)

def newlines (text : List Char) : Nat :=
  text.count '\n'

/-- The position of the first two opening braces with an even number of backslashes before them,
for a text that follows `position` characters, the last `backslashes` of which are backslashes. -/
def openBraces? (position backslashes : Nat) : List Char → Option Nat
  | '{' :: '{' :: rest =>
    if backslashes % 2 = 0 then some position else openBraces? (position + 2) 0 rest
  | c :: rest => openBraces? (position + 1) (if c = '\\' then backslashes + 1 else 0) rest
  | [] => none

/-- The text between the cursor and a tag, with the backslashes before the tag halved. -/
def lead (text : List Char) (cursor : Nat) (tag : Tag) : List Char :=
  text.extract cursor (tag.start - tag.backslashes) ++ List.replicate (tag.backslashes / 2) '\\'

/-- The text after the last tag, in which no tag may be left open. -/
def trailing (path : Path) (text : List Char) (offset cursor : Nat) : Run σ (List Char) :=
  let rest := text.drop cursor
  match openBraces? 0 0 rest with
  | some position =>
    malformed path (offset + 1 + newlines (text.take (cursor + position))) .openTag
  | none => pure rest

def loopItems (path : Path) (line : Nat) (scope : Scope σ) (key : String) : Run σ (List Value) := do
  match ← scope.ask key with
  | some (.list items) => pure items
  | some _ => malformed path line (.notList key)
  | none => fail path (.undefined key line)

def sectionName (path : Path) (line : Nat) (scope : Scope σ) (source : List Char) :
    Run σ String := do
  match ← evaluateSource path line scope source with
  | .text name => pure name
  | value => malformed path line (.sectionName value)

def shownSource (path : Path) (line : Nat) (scope : Scope σ) (source : List Char) :
    Run σ (List Char) := do
  let value ← evaluateSource path line scope source
  output path source value

/-- The text that takes the place of a block, whose inner text is executed by `inner`. -/
def runBlock (path : Path) (line : Nat) (scope : Scope σ) (args : List Char)
    (inner : Scope σ → Run σ (List Char)) : BlockKind → Run σ (List Char)
  | .each =>
    match eachArgs? args with
    | none => malformed path line (.eachArgs (String.ofList args))
    | some (key, name) => do
      let items ← loopItems path line scope key
      let shown ← items.mapM fun item => inner (scope.bind name item)
      pure shown.flatten
  | .capture => do
    let name ← sectionName path line scope args
    let content ← inner scope
    let shown ← scope.declare name (String.ofList content)
    pure shown.toList

theorem length_inner_lt {text : List Char} {tag close : Tag} {block : BlockKind}
    (h : findBlockEnd block (text.drop tag.stop) = some close) :
    ((text.drop tag.stop).take close.start).length < text.length := by
  have nonempty := List.length_pos_iff.mpr (ne_nil_of_findBlockEnd h)
  have positive : 0 < tag.stop := Nat.lt_of_le_of_lt (Nat.zero_le _) tag.start_lt_stop
  simp only [List.length_take, List.length_drop] at *
  omega

/-- Executes the rest of a text from the cursor on, whose tags are `tags`. Tags before the cursor
belong to a block that is done. The text follows `offset` lines of its file. -/
def runTags (path : Path) (text : List Char) (offset : Nat) (scope : Scope σ) (cursor : Nat)
    (tags : List Tag) : Run σ (List Char) :=
  match tags with
  | [] => trailing path text offset cursor
  | tag :: tags =>
    if tag.start < cursor then runTags path text offset scope cursor tags
    else if tag.isEscaped then do
      let after ← runTags path text offset scope tag.stop tags
      pure (lead text cursor tag ++ text.extract tag.start tag.stop ++ after)
    else
      let line := offset + tag.line
      match tag.kind with
      | .expression source => do
        let shown ← shownSource path line scope source
        let after ← runTags path text offset scope tag.stop tags
        pure (lead text cursor tag ++ shown ++ after)
      | .closing keyword => malformed path line (.strayClosing keyword)
      | .opening block args =>
        match _h : findBlockEnd block (text.drop tag.stop) with
        | none => malformed path line (.openBlock block)
        | some close => do
          let inner := (text.drop tag.stop).take close.start
          let execute := fun scope => runTags path inner (line - 1) scope 0 (scan inner)
          let shown ← runBlock path line scope args execute block
          let after ← runTags path text offset scope (tag.stop + close.stop) tags
          pure (lead text cursor tag ++ shown ++ after)
termination_by (text.length, tags.length)
decreasing_by
  all_goals first
    | exact Prod.Lex.left _ _ (length_inner_lt _h)
    | exact Prod.Lex.right _ (by simp)

/-- Executes a text that follows `offset` lines of the file at `path`. -/
def runText (path : Path) (text : List Char) (offset : Nat) (scope : Scope σ) :
    Run σ (List Char) :=
  runTags path text offset scope 0 (scan text)

def execute (path : Path) (source : String) (scope : Scope σ) : Run σ String := do
  let text ← runText path source.toList 0 scope
  pure (String.ofList text)

end Folio.Body
