/-! A reader takes something off the start of a text and gives back the rest, which it proves to be
shorter. The proof is what lets loops over a text end. -/

namespace Folio.Text

/-- What was read off the start of `text`, and the rest. -/
structure Parsed (α : Type) (text : List Char) where
  value : α
  rest : List Char
  shorter : rest.length < text.length

/-- A reader of some part of a text; `none` if the text does not start with such a part. -/
abbrev Reader (α : Type) := (text : List Char) → Option (Parsed α text)

def Parsed.map {α β : Type} {text : List Char} (f : α → β) (p : Parsed α text) : Parsed β text :=
  ⟨f p.value, p.rest, p.shorter⟩

/-- A reading of what is left of a text, as a reading of the text. -/
def Parsed.after {α : Type} {text later : List Char} (p : Parsed α later)
    (h : later.length ≤ text.length) : Parsed α text :=
  ⟨p.value, p.rest, Nat.lt_of_lt_of_le p.shorter h⟩

def Parsed.first {α : Type} {c : Char} {rest : List Char} (value : α) : Parsed α (c :: rest) :=
  ⟨value, rest, Nat.lt_succ_self _⟩

def Parsed.afterFirst {α : Type} {c : Char} {rest : List Char} (p : Parsed α rest) :
    Parsed α (c :: rest) :=
  p.after (Nat.le_succ _)

def Parsed.next? {α : Type} {text : List Char} : Parsed α text → Option (Char × Parsed α text)
  | ⟨_, [], _⟩ => none
  | ⟨value, c :: rest, shorter⟩ => some (c, ⟨value, rest, Nat.lt_of_succ_lt shorter⟩)

theorem length_dropWhile_le (keep : Char → Bool) (text : List Char) :
    (text.dropWhile keep).length ≤ text.length := by
  induction text with
  | nil => simp
  | cons c rest ih =>
    rw [List.dropWhile_cons]
    split
    · exact Nat.le_succ_of_le ih
    · exact Nat.le_refl _

theorem length_le_of_dropWhile_eq {keep : Char → Bool} {text rest : List Char}
    (h : text.dropWhile keep = rest) : rest.length ≤ text.length :=
  h ▸ length_dropWhile_le keep text

theorem length_lt_of_dropWhile_eq_cons {keep : Char → Bool} {text rest : List Char} {c : Char}
    (h : text.dropWhile keep = c :: rest) : rest.length < text.length := by
  have := length_dropWhile_le keep text
  rw [h, List.length_cons] at this
  omega

theorem takeWhile_append_dropWhile (keep : Char → Bool) (text : List Char) :
    text.takeWhile keep ++ text.dropWhile keep = text :=
  List.takeWhile_append_dropWhile

end Folio.Text
