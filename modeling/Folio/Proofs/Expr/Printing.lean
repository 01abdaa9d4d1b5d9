import Folio.Proofs.Expr.RoundTrip

namespace Folio.Expr

open Text (AllBlank isBlank)

/-- The characters of a string with backslashes before those that need one in a tag. -/
def spellChars (chars : List Char) : List Char :=
  chars.flatMap fun c => if Style.tag.guarded c then ['\\', c] else [c]

def spell (s : String) : List Char :=
  '"' :: spellChars s.toList ++ ['"']

theorem spelled_spellChars (chars : List Char) :
    Spelled .tag '"' chars (spellChars chars) := by
  induction chars with
  | nil => exact .nil
  | cons c chars ih =>
    rw [spellChars, List.flatMap_cons]
    cases guarded : Style.tag.guarded c with
    | true =>
      have ne : c ≠ 'n' ∧ c ≠ 't' := by
        constructor <;> rintro rfl <;> revert guarded <;> decide
      exact .escaped ne.1 ne.2 ih
    | false =>
      have ne : c ≠ '"' := by rintro rfl; revert guarded; decide
      exact .plain ne guarded ih

theorem quoted_spell (s : String) : Quoted .tag s (spell s) :=
  .mk (.inl rfl) (spelled_spellChars s.toList)

/-- Parts that can be written alone can be written in a row that ends with a space. -/
theorem exists_row {α : Type} {written : α → List Char → Prop} {parts : List α}
    (h : ∀ part ∈ parts, ∃ core, written part core) :
    ∃ front, Row written parts (front ++ [' ']) := by
  induction parts with
  | nil => exact ⟨[], .none (by decide)⟩
  | cons part parts ih =>
    obtain ⟨⟨core, first⟩, others⟩ := List.forall_mem_cons.mp h
    cases parts with
    | nil => exact ⟨core, .last first ⟨[], [' '], by decide, by decide, rfl⟩⟩
    | cons other parts =>
      obtain ⟨front, row⟩ := ih others
      refine ⟨core ++ ',' :: front, ?_⟩
      rw [List.append_assoc, List.cons_append]
      exact .next first (.refl core) row

/-- What is made of expressions that can be written can be written. -/
theorem exists_written_of_made {expr : Expr}
    (h : Made (fun part => ∃ core, Written .tag part core) expr) :
    ∃ core, Written .tag expr core := by
  cases h with
  | text s => exact ⟨_, .text (quoted_spell s)⟩
  | @number text n numeral value =>
    cases n with
    | whole n =>
      obtain ⟨low, high⟩ := bounds_of_number? value
      exact ⟨_, .whole low high⟩
    | real x => exact ⟨text, .real numeral value⟩
  | bool b => exact ⟨_, .bool b⟩
  | null => exact ⟨_, .null⟩
  | key name => exact ⟨_, .key name⟩
  | list parts =>
    obtain ⟨front, row⟩ := exists_row parts
    exact ⟨_, .list row⟩
  | @object fields parts =>
    have entries : ∀ field ∈ fields, ∃ core, Field .tag (Written .tag) field core := by
      rintro ⟨name, item⟩ mem
      obtain ⟨core, written⟩ := parts _ mem
      exact ⟨_, @Field.mk _ _ name item _ [] [] core (.inl (quoted_spell name)) (by decide)
        (by decide) written⟩
    obtain ⟨front, row⟩ := exists_row entries
    exact ⟨_, .object row fun _ => ⟨front, ' ', rfl, by decide⟩⟩
  | call name parts =>
    obtain ⟨front, row⟩ := exists_row parts
    exact ⟨_, .call name Text.allBlank_nil (fun _ => rfl) row⟩

theorem exists_written {source : List Char} {expr : Expr} (h : read source = .ok expr) :
    ∃ core, Written .tag expr core := by
  obtain ⟨rest, first⟩ := nested_of_read h
  exact of_nested (P := fun _ expr => ∃ core, Written .tag expr core)
    (fun _ _ made => exists_written_of_made made) first

end Folio.Expr
