import Folio.Page.Operation

namespace Folio

/-- A word that may stand before the names of calls. -/
structure Alias where
  word : String
  deriving DecidableEq, Repr

/-- The name that a call means. Right after the word only the spelling of an operation counts as a
name, so that helpers whose names merely start with the word keep them. -/
def Alias.resolve (called : Alias) (name : String) : String :=
  match called.word.toList.isPrefixOf? name.toList with
  | none => name
  | some ('.' :: rest) => if rest = [] then name else String.ofList rest
  | some rest =>
    let bare := String.ofList rest
    if (Operation.ofName? bare).isSome then bare else name

theorem Alias.resolve_of_isPrefixOf?_eq_none {called : Alias} {name : String}
    (h : called.word.toList.isPrefixOf? name.toList = none) : called.resolve name = name := by
  simp [resolve, h]

theorem Alias.isPrefixOf?_append (word rest : List Char) :
    word.isPrefixOf? (word ++ rest) = some rest := by
  induction word with
  | nil => rfl
  | cons c word ih =>
    have step : (c :: word).isPrefixOf? (c :: (word ++ rest)) =
        if c == c then word.isPrefixOf? (word ++ rest) else none := rfl
    rw [List.cons_append, step, if_pos (beq_self_eq_true c), ih]

/-- What follows the word and a dot is the name. -/
theorem Alias.resolve_dotted {called : Alias} {name : String} (h : name ≠ "") :
    called.resolve (called.word ++ "." ++ name) = name := by
  simp [resolve, isPrefixOf?_append, h]

end Folio
