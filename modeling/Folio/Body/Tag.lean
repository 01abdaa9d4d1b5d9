import Folio.Text.Blank

namespace Folio

/-- The blocks: a loop over a list, and a section whose content is captured. -/
inductive BlockKind where
  | each
  | capture
  deriving DecidableEq, Repr

def BlockKind.keyword : BlockKind → String
  | .each => "each"
  | .capture => "section"

inductive TagKind where
  | expression (source : List Char)
  | opening (block : BlockKind) (args : List Char)
  | closing (keyword : String)
  deriving DecidableEq, Repr

namespace TagKind

/-- What follows the keyword of a block and the blank after it. -/
def blockArgs? (block : BlockKind) (text : List Char) : Option (List Char) :=
  match block.keyword.toList.isPrefixOf? text with
  | some (c :: rest) => if Text.isBlank c then some (Text.trim rest) else none
  | _ => none

def ofContent (content : List Char) : TagKind :=
  match Text.trim content with
  | '/' :: rest => .closing (String.ofList (Text.trim rest))
  | text =>
    match blockArgs? .each text, blockArgs? .capture text with
    | some args, _ => .opening .each args
    | none, some args => .opening .capture args
    | none, none => .expression text

end TagKind

/-- A tag of a text: the position of its opening braces, what stands between the braces, how many
backslashes stand before it, and the line on which it ends. -/
structure Tag where
  start : Nat
  content : List Char
  backslashes : Nat
  line : Nat
  deriving DecidableEq, Repr

namespace Tag

def kind (tag : Tag) : TagKind := .ofContent tag.content

/-- The number of characters of the tag with its four braces. -/
def length (tag : Tag) : Nat := tag.content.length + 4

/-- The position just past the closing braces. -/
def stop (tag : Tag) : Nat := tag.start + tag.length

/-- Whether the tag is text and not a tag. -/
def isEscaped (tag : Tag) : Bool := tag.backslashes % 2 = 1

theorem start_lt_stop (tag : Tag) : tag.start < tag.stop := by
  simp [stop, length]

end Tag

end Folio
