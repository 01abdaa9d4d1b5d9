namespace Folio

/-- Sections by name, one for a name. -/
structure Sections where
  entries : List (String × String)
  deriving DecidableEq, Repr, Inhabited

namespace Sections

def empty : Sections := ⟨[]⟩

def get? (sections : Sections) (name : String) : Option String :=
  sections.entries.lookup name

def has (sections : Sections) (name : String) : Bool :=
  (sections.get? name).isSome

/-- The entries with the one of `name`, if there is one, replaced or else a new one at the end. -/
def putEntry (name content : String) : List (String × String) → List (String × String)
  | [] => [(name, content)]
  | (other, old) :: rest =>
    if name = other then (name, content) :: rest else (other, old) :: putEntry name content rest

def put (sections : Sections) (name content : String) : Sections :=
  ⟨putEntry name content sections.entries⟩

def size (sections : Sections) : Nat := sections.entries.length

@[simp] theorem get?_empty (name : String) : empty.get? name = none := rfl

theorem get?_cons (other old name : String) (rest : List (String × String)) :
    get? ⟨(other, old) :: rest⟩ name = if name = other then some old else get? ⟨rest⟩ name := by
  by_cases h : name = other
  · subst h; simp [get?]
  · have : (name == other) = false := by simp [h]
    simp [get?, List.lookup_cons, this, h]

@[simp] theorem get?_put_self (sections : Sections) (name content : String) :
    (sections.put name content).get? name = some content := by
  rcases sections with ⟨entries⟩
  induction entries with
  | nil => simp [put, putEntry, get?]
  | cons entry rest ih =>
    obtain ⟨other, old⟩ := entry
    simp only [put, putEntry] at ih ⊢
    split
    · simp [get?_cons]
    · rename_i h; simp [get?_cons, h, ih]

theorem get?_put_of_ne {sections : Sections} {name other content : String} (ne : other ≠ name) :
    (sections.put name content).get? other = sections.get? other := by
  rcases sections with ⟨entries⟩
  induction entries with
  | nil =>
    have : (other == name) = false := by simp [ne]
    simp [put, putEntry, get?, this]
  | cons entry rest ih =>
    obtain ⟨first, old⟩ := entry
    simp only [put, putEntry] at ih ⊢
    split
    · rename_i h; simp [get?_cons, ne, ← h]
    · simp [get?_cons, ih]

end Sections

end Folio
