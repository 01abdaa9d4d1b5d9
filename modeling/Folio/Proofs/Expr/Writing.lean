import Folio.Expr.Reader

/-! How an expression may be written down: strings between quotes, with backslashes before some of
their characters, commas between items and fields, and white space around every part. A style asks
for more than what is needed to read the expression back. -/

namespace Folio

def Text.AllBlank (text : List Char) : Prop :=
  ∀ c ∈ text, isBlank c = true

instance (text : List Char) : Decidable (Text.AllBlank text) :=
  decidable_of_iff (text.all Text.isBlank = true) List.all_eq_true

theorem Text.allBlank_nil : AllBlank [] := by decide

namespace Expr

open Text (AllBlank allBlank_nil)

/-! ## Levels -/

mutual

/-- How many levels of nested expressions there are, a literal or a key alone having one. -/
def levels : Expr → Nat
  | .literal _ => 1
  | .key _ => 1
  | .list items => 1 + levelsAll items
  | .object fields => 1 + levelsFields fields
  | .call _ args => 1 + levelsAll args

def levelsAll : List Expr → Nat
  | [] => 0
  | item :: items => max item.levels (levelsAll items)

def levelsFields : List (String × Expr) → Nat
  | [] => 0
  | (_, item) :: fields => max item.levels (levelsFields fields)

end

theorem levels_pos (expr : Expr) : 0 < expr.levels := by
  cases expr <;> simp only [levels] <;> omega

theorem levelsAll_le_iff {items : List Expr} {n : Nat} :
    levelsAll items ≤ n ↔ ∀ item ∈ items, item.levels ≤ n := by
  induction items with
  | nil => simp [levelsAll]
  | cons item items ih => rw [levelsAll, Nat.max_le, ih, List.forall_mem_cons]

theorem levelsFields_le_iff {fields : List (String × Expr)} {n : Nat} :
    levelsFields fields ≤ n ↔ ∀ field ∈ fields, field.2.levels ≤ n := by
  induction fields with
  | nil => simp [levelsFields]
  | cons field fields ih => rw [levelsFields, Nat.max_le, ih, List.forall_mem_cons]

/-- What holds of an expression if it holds of all its parts holds of every expression. -/
theorem nestedInduction {P : Expr → Prop} (literal : ∀ value, P (.literal value))
    (key : ∀ name, P (.key name)) (list : ∀ items, (∀ item ∈ items, P item) → P (.list items))
    (object : ∀ fields, (∀ field ∈ fields, P field.2) → P (.object fields))
    (call : ∀ name args, (∀ arg ∈ args, P arg) → P (.call name args)) : ∀ expr, P expr
  | .literal value => literal value
  | .key name => key name
  | .list items => list items fun item _ => nestedInduction literal key list object call item
  | .object fields =>
    object fields fun field _ => nestedInduction literal key list object call field.2
  | .call name args => call name args fun arg _ => nestedInduction literal key list object call arg
termination_by expr => expr
decreasing_by
  · exact Nat.lt_of_lt_of_le (List.sizeOf_lt_of_mem ‹_›) (by simp)
  · obtain ⟨name, item⟩ := field
    have smaller := List.sizeOf_lt_of_mem ‹(name, item) ∈ fields›
    simp only [Prod.mk.sizeOf_spec, Expr.object.sizeOf_spec] at smaller ⊢
    omega
  · exact Nat.lt_of_lt_of_le (List.sizeOf_lt_of_mem ‹_›) (by simp)

/-! ## Parts of a written expression -/

/-- What is asked of a written expression. -/
structure Style where
  /-- The characters of a string that have to follow a backslash, besides its quotes. -/
  guarded : Char → Bool
  /-- White space may stand between the name of a call and its parenthesis. -/
  loose : Bool
  /-- White space has to stand right before the closing brace of an object. -/
  apart : Bool
  backslash : guarded '\\' = true

/-- All that is needed to read an expression back. -/
def Style.free : Style where
  guarded c := c = '\\'
  loose := true
  apart := false
  backslash := rfl

/-- What is needed besides to write an expression in a tag. -/
def Style.tag : Style where
  guarded c := c = '"' || c = '\'' || c = '\\' || c = '}'
  loose := false
  apart := true
  backslash := rfl

/-- How the characters of a string are written between its quotes. Any of them may follow a
backslash but `n` and `t`, which stand for a line break and a tab there. -/
inductive Spelled (style : Style) (quote : Char) : List Char → List Char → Prop
  | nil : Spelled style quote [] []
  | plain {c : Char} {chars text : List Char} : c ≠ quote → style.guarded c = false →
      Spelled style quote chars text → Spelled style quote (c :: chars) (c :: text)
  | escaped {c : Char} {chars text : List Char} : c ≠ 'n' → c ≠ 't' →
      Spelled style quote chars text → Spelled style quote (c :: chars) ('\\' :: c :: text)

inductive Quoted (style : Style) : String → List Char → Prop
  | mk {s : String} {quote : Char} {text : List Char} : quote = '"' ∨ quote = '\'' →
      Spelled style quote s.toList text → Quoted style s (quote :: text ++ [quote])

/-- A letter or an underscore, and then letters, numerals, underscores and dots. -/
def IsWord (text : List Char) : Prop :=
  ∃ first rest, text = first :: rest ∧ isNameStart first = true ∧ ∀ c ∈ rest, isNameChar c = true

structure IsName (name : String) : Prop where
  word : IsWord name.toList
  free : name ≠ "true" ∧ name ≠ "false" ∧ name ≠ "null"

instance : (text : List Char) → Decidable (IsWord text)
  | [] => .isFalse fun ⟨_, _, absent, _⟩ => nomatch absent
  | first :: rest =>
    decidable_of_iff (isNameStart first = true ∧ rest.all isNameChar = true)
      ⟨fun h => ⟨first, rest, rfl, h.1, List.all_eq_true.mp h.2⟩, by
        rintro ⟨first, rest, ⟨⟩, start, all⟩
        exact ⟨start, List.all_eq_true.mpr all⟩⟩

instance (name : String) : Decidable (IsName name) :=
  decidable_of_iff
    (IsWord name.toList ∧ name ≠ "true" ∧ name ≠ "false" ∧ name ≠ "null")
    ⟨fun h => ⟨h.1, h.2⟩, fun h => ⟨h.word, h.free⟩⟩

/-- A minus sign or a digit, and then what may follow in a number. -/
def IsNumeral (text : List Char) : Prop :=
  ∃ first rest, text = first :: rest ∧ (first = '-' ∨ first.isDigit = true) ∧
    ∀ c ∈ rest, isNumberChar c = true

def Padded (core text : List Char) : Prop :=
  ∃ before after, AllBlank before ∧ AllBlank after ∧ text = before ++ core ++ after

theorem Padded.refl (core : List Char) : Padded core core :=
  ⟨[], [], allBlank_nil, allBlank_nil, by simp⟩

/-- Parts with commas between them and white space around each; if there are none, white space. -/
inductive Row {α : Type} (written : α → List Char → Prop) : List α → List Char → Prop
  | none {blanks : List Char} : AllBlank blanks → Row written [] blanks
  | last {part : α} {core text : List Char} : written part core → Padded core text →
      Row written [part] text
  | next {part other : α} {parts : List α} {core text more : List Char} : written part core →
      Padded core text → Row written (other :: parts) more →
      Row written (part :: other :: parts) (text ++ ',' :: more)

/-- A field: its name in quotes, or as it is if it is a word, a colon and its expression. -/
inductive Field (style : Style) (written : Expr → List Char → Prop) :
    String × Expr → List Char → Prop
  | mk {name : String} {item : Expr} {label before after core : List Char} :
      Quoted style name label ∨ IsWord name.toList ∧ label = name.toList →
      AllBlank before → AllBlank after → written item core →
      Field style written (name, item) (label ++ before ++ ':' :: (after ++ core))

/-- The texts that an expression may be written as, without white space around it. -/
inductive Written (style : Style) : Expr → List Char → Prop
  | text {s : String} {text : List Char} : Quoted style s text →
      Written style (.literal (.text s)) text
  | whole {n : Int} : -(Nat.pow 2 63 : Int) ≤ n → n < (Nat.pow 2 63 : Int) →
      Written style (.literal (.number (.whole n))) (toString n).toList
  /-- There are many texts for a double; any of them will do. -/
  | real {x : Decimal.Binary64} {text : List Char} : IsNumeral text →
      number? text = some (.real x) → Written style (.literal (.number (.real x))) text
  | bool (b : Bool) : Written style (.literal (.bool b)) (if b then "true" else "false").toList
  | null : Written style (.literal .null) "null".toList
  | key {name : String} : IsName name → Written style (.key name) name.toList
  | list {items : List Expr} {inner : List Char} : Row (Written style) items inner →
      Written style (.list items) ('[' :: inner ++ [']'])
  | object {fields : List (String × Expr)} {inner : List Char} :
      Row (Field style (Written style)) fields inner →
      (style.apart = true → ∃ front blank, inner = front ++ [blank] ∧ Text.isBlank blank = true) →
      Written style (.object fields) ('{' :: inner ++ ['}'])
  | call {name : String} {args : List Expr} {gap inner : List Char} : IsName name →
      AllBlank gap → (style.loose = false → gap = []) → Row (Written style) args inner →
      Written style (.call name args) (name.toList ++ gap ++ '(' :: inner ++ [')'])

end Expr

end Folio
