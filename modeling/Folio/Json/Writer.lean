import Folio.Decimal.Writing
import Folio.Value.Basic

namespace Folio.Json

/-- Doubles are written positionally from 0.00001 up to 16 digits before the point. -/
def realStyle : Decimal.Style := ⟨-5, 16⟩

/-- The text of a number; a double always shows a fraction or an exponent. -/
def numberText : Number → String
  | .whole n => toString n
  | .real x => realStyle.writeReal x

def quoteChar (c : Char) : List Char :=
  match c with
  | '"' => ['\\', '"']
  | '\\' => ['\\', '\\']
  | '\x08' => ['\\', 'b']
  | '\x0c' => ['\\', 'f']
  | '\n' => ['\\', 'n']
  | '\r' => ['\\', 'r']
  | '\t' => ['\\', 't']
  | c =>
    if c.toNat < 0x20 then
      ['\\', 'u', '0', '0', Nat.digitChar (c.toNat / 16), Nat.digitChar (c.toNat % 16)]
    else
      [c]

def quote (text : String) : String :=
  String.ofList ('"' :: text.toList.flatMap quoteChar ++ ['"'])

mutual

def compact : Value → String
  | .null => "null"
  | .bool b => if b then "true" else "false"
  | .number n => numberText n
  | .text s => quote s
  | .list items => "[" ++ compactItems items ++ "]"
  | .object fields => "\x7b" ++ compactFields fields ++ "\x7d"

def compactItems : List Value → String
  | [] => ""
  | [item] => compact item
  | item :: rest => compact item ++ "," ++ compactItems rest

def compactFields : List (String × Value) → String
  | [] => ""
  | [(name, value)] => quote name ++ ":" ++ compact value
  | (name, value) :: rest => quote name ++ ":" ++ compact value ++ "," ++ compactFields rest

end

def newLine (level : Nat) : String :=
  String.ofList ('\n' :: List.replicate (2 * level) ' ')

mutual

/-- The indented JSON text of a value that stands on the given level. -/
def indented (level : Nat) : Value → String
  | .null => "null"
  | .bool b => if b then "true" else "false"
  | .number n => numberText n
  | .text s => quote s
  | .list [] => "[]"
  | .list (item :: items) =>
    "[" ++ newLine (level + 1) ++ indented (level + 1) item ++ indentedItems (level + 1) items
      ++ newLine level ++ "]"
  | .object [] => "\x7b\x7d"
  | .object ((name, value) :: fields) =>
    "\x7b" ++ newLine (level + 1) ++ quote name ++ ": " ++ indented (level + 1) value
      ++ indentedFields (level + 1) fields ++ newLine level ++ "\x7d"

/-- The items after the first one, each on a line of its own. -/
def indentedItems (level : Nat) : List Value → String
  | [] => ""
  | item :: rest => "," ++ newLine level ++ indented level item ++ indentedItems level rest

def indentedFields (level : Nat) : List (String × Value) → String
  | [] => ""
  | (name, value) :: rest =>
    "," ++ newLine level ++ quote name ++ ": " ++ indented level value ++ indentedFields level rest

end

end Folio.Json
