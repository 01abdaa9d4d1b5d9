namespace Folio

inductive Operation where
  | filter
  | layout
  | lastBuffer
  | supply
  | insert
  | insertIf
  | get
  | data
  deriving DecidableEq, Repr

namespace Operation

/-- The name by which messages call an operation. -/
def name : Operation → String
  | .filter => "filter"
  | .layout => "layout"
  | .lastBuffer => "last_buffer"
  | .supply => "supply"
  | .insert => "insert"
  | .insertIf => "insert_if"
  | .get => "get"
  | .data => "data"

/-- The names that a body can call operations by, with their operations. -/
def spellings : List (String × Operation) :=
  [("filter", .filter), ("layout", .layout), ("last_buffer", .lastBuffer),
   ("lastBuffer", .lastBuffer), ("buffer", .lastBuffer), ("supply", .supply),
   ("insert", .insert), ("insert_if", .insertIf), ("insertif", .insertIf), ("get", .get),
   ("data", .data)]

def ofName? (name : String) : Option Operation :=
  spellings.lookup name

/-- Every operation answers to its own name. -/
theorem ofName?_name (operation : Operation) : ofName? operation.name = some operation := by
  cases operation <;> decide

end Operation

end Folio
