import Folio.Decimal.Binary64
import Folio.Text.Split

namespace Folio

open Decimal (Binary64)

inductive Number where
  | whole (value : Int)
  | real (value : Binary64)
  deriving DecidableEq, Repr, Inhabited

inductive Value where
  | null
  | bool (value : Bool)
  | number (value : Number)
  | text (value : String)
  | list (items : List Value)
  | object (fields : List (String × Value))
  deriving Repr, Inhabited

/-- The fields of an object: names with their values. Those made by `insert` and `ofList` are in
increasing order of the names. -/
abbrev Fields := List (String × Value)

namespace Fields

def get? (fields : Fields) (name : String) : Option Value :=
  List.lookup name fields

def insert (name : String) (value : Value) : Fields → Fields
  | [] => [(name, value)]
  | (other, old) :: rest =>
    if name = other then (name, value) :: rest
    else if name < other then (name, value) :: (other, old) :: rest
    else (other, old) :: insert name value rest

/-- The fields in order; of several fields of one name the last counts. -/
def ofList (fields : List (String × Value)) : Fields :=
  fields.foldl (fun sorted field => insert field.1 field.2 sorted) []

@[simp] theorem get?_nil (name : String) : get? [] name = none := rfl

theorem get?_cons (name other : String) (value : Value) (rest : Fields) :
    get? ((other, value) :: rest) name = if name = other then some value else get? rest name := by
  by_cases h : name = other
  · subst h; simp [get?]
  · have : (name == other) = false := by simp [h]
    simp [get?, List.lookup_cons, this, h]

@[simp] theorem get?_insert_self (name : String) (value : Value) (fields : Fields) :
    get? (insert name value fields) name = some value := by
  induction fields with
  | nil => simp [insert, get?_cons]
  | cons field rest ih =>
    obtain ⟨other, old⟩ := field
    by_cases same : name = other
    · simp [insert, get?_cons, same]
    · by_cases before : name < other
      · simp [insert, get?_cons, same, before]
      · simp [insert, get?_cons, same, before, ih]

theorem get?_insert_of_ne {name other : String} (h : other ≠ name) (value : Value)
    (fields : Fields) : get? (insert name value fields) other = get? fields other := by
  induction fields with
  | nil => simp [insert, get?_cons, h]
  | cons field rest ih =>
    obtain ⟨first, old⟩ := field
    simp only [insert]
    split
    · rename_i heq
      simp [get?_cons, h, ← heq]
    · split
      · simp [get?_cons, h]
      · simp [get?_cons, ih]

theorem get?_ofList (fields : List (String × Value)) (name : String) :
    get? (ofList fields) name = fields.reverse.lookup name := by
  have each (sorted : Fields) :
      get? (fields.foldl (fun sorted field => insert field.1 field.2 sorted) sorted) name =
        (fields.reverse.lookup name).or (get? sorted name) := by
    induction fields generalizing sorted with
    | nil => rfl
    | cons field rest ih =>
      obtain ⟨other, value⟩ := field
      rw [List.foldl_cons, ih, List.reverse_cons, List.lookup_append, Option.or_assoc]
      congr 1
      by_cases same : name = other
      · subst same
        simp
      · have differs : (name == other) = false := by simp [same]
        simp [List.lookup_cons, differs, get?_insert_of_ne same]
  rw [ofList, each, get?_nil, Option.or_none]

end Fields

namespace Value

def ofFields (fields : List (String × Value)) : Value :=
  .object (Fields.ofList fields)

end Value

end Folio
