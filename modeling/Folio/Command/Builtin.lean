import Folio.Command.Basic
import Folio.Text.Case
import Folio.Text.Markup
import Folio.Value.Text

namespace Folio

open Text (upper lower trim escapeMarkup)

namespace Filter

/-- The filter that changes the text of a value; null is declined. -/
def ofText (change : List Char → List Char) : Filter := fun value _ =>
  match value with
  | .null => .ok .null
  | value => .ok (.text (String.ofList (change value.displayed.toList)))

def charValue : Option Char → Value
  | some c => .text (String.ofList [c])
  | none => .null

/-- The first item of a list or the first character of a text. -/
def first : Filter := fun value _ =>
  match value with
  | .list items => .ok (items.head?.getD .null)
  | .text s => .ok (charValue s.toList.head?)
  | _ => .ok .null

def last : Filter := fun value _ =>
  match value with
  | .list items => .ok (items.getLast?.getD .null)
  | .text s => .ok (charValue s.toList.getLast?)
  | _ => .ok .null

/-- The items of a list as one text, with the first argument between them. -/
def join : Filter := fun value args =>
  match value with
  | .list items =>
    let separator := (args.head?.map Value.displayed).getD ""
    .ok (.text (Text.joinWith separator (items.map Value.displayed)))
  | _ => .ok .null

/-- The first argument in place of null or of an empty text. -/
def orElse : Filter := fun value args =>
  match value with
  | .null => .ok (args.head?.getD .null)
  | .text s => .ok (if s = "" then args.head?.getD .null else .null)
  | _ => .ok .null

end Filter

namespace Helper

/-- The displayed text of the first argument, escaped for HTML. -/
def escape : Helper := fun args =>
  let text := (args.head?.getD .null).displayed
  .ok (.text (String.ofList (escapeMarkup text.toList)))

def raw : Helper := fun args =>
  .ok (.text (args.head?.getD .null).displayed)

end Helper

def Commands.builtin (strict : Bool) : Commands where
  helpers := [("e", Helper.escape), ("raw", Helper.raw)]
  filters :=
    [("upper", Filter.ofText upper), ("lower", Filter.ofText lower), ("trim", Filter.ofText trim),
     ("escape", Filter.ofText escapeMarkup), ("first", Filter.first), ("last", Filter.last),
     ("join", Filter.join), ("default", Filter.orElse)]
  strict := strict

end Folio
