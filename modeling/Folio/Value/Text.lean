import Folio.Json.Writer

namespace Folio.Value

/-- The text of a value in the output of a page. -/
def shown? : Value → Option String
  | .null => some ""
  | .text s => some s
  | .number n => some (Json.numberText n)
  | .bool b => some (if b then "true" else "false")
  | .list _ => none
  | .object _ => none

/-- The text of a value for helpers and filters. -/
def displayed : Value → String
  | .null => ""
  | .text s => s
  | value => Json.compact value

theorem displayed_of_shown? {value : Value} {text : String} (h : value.shown? = some text) :
    value.displayed = text := by
  cases value <;> simp_all [shown?, displayed, Json.compact]

end Folio.Value
