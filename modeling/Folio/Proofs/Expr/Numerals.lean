import Folio.Proofs.Expr.Writing

namespace Folio.Expr

def IsDigits (text : List Char) : Prop :=
  text ≠ [] ∧ ∀ c ∈ text, c.isDigit = true

instance (text : List Char) : Decidable (IsDigits text) :=
  decidable_of_iff (text ≠ [] ∧ text.all Char.isDigit = true) (and_congr_right' List.all_eq_true)

theorem toList_toString (n : Int) :
    (toString n).toList =
      if 0 ≤ n then Nat.toDigits 10 n.toNat else '-' :: Nat.toDigits 10 (-n).toNat := by
  rw [Int.toString_eq_repr, Int.repr_eq_if]
  split
  · rw [Nat.toList_repr]
  · rw [String.toList_append, Nat.toList_repr]
    rfl

theorem isDigit_toDigits {n : Nat} {c : Char} (mem : c ∈ Nat.toDigits 10 n) :
    c.isDigit = true :=
  Nat.isDigit_of_mem_toDigits (by decide) (by decide) mem

theorem digitsValue_toDigits (n : Nat) : Text.digitsValue (Nat.toDigits 10 n) = n := by
  have value := Nat.ofDigitChars_ten_toDigits (n := n)
  rwa [Nat.ofDigitChars_eq_foldl] at value

theorem whole?_toDigits (negative : Bool) (n : Nat) :
    whole? negative (Nat.toDigits 10 n) =
      if negative then if n ≤ Nat.pow 2 63 then some (-(n : Int)) else none
      else if n < Nat.pow 2 63 then some (n : Int) else none := by
  have digits : (Nat.toDigits 10 n).all Char.isDigit = true :=
    List.all_eq_true.mpr fun c mem => isDigit_toDigits mem
  rw [whole?, if_pos ⟨Nat.toDigits_ne_nil, digits⟩, digitsValue_toDigits]

theorem isNumeral_toString (n : Int) : IsNumeral (toString n).toList := by
  have digits {m : Nat} {c : Char} (mem : c ∈ Nat.toDigits 10 m) : isNumberChar c = true := by
    simp [isNumberChar, isDigit_toDigits mem]
  rw [toList_toString]
  split
  · obtain ⟨first, rest, eq⟩ := List.exists_cons_of_ne_nil (Nat.toDigits_ne_nil (n := n.toNat))
    have all : ∀ c ∈ first :: rest, c ∈ Nat.toDigits 10 n.toNat := fun c mem => eq ▸ mem
    exact ⟨first, rest, eq, .inr (isDigit_toDigits (all first List.mem_cons_self)),
      fun c mem => digits (all c (List.mem_cons_of_mem _ mem))⟩
  · exact ⟨'-', _, rfl, .inl rfl, fun c mem => digits mem⟩

theorem number?_toString {n : Int} (low : -(Nat.pow 2 63 : Int) ≤ n)
    (high : n < (Nat.pow 2 63 : Int)) : number? (toString n).toList = some (.whole n) := by
  rw [toList_toString]
  split
  · rename_i positive
    have sign : ∀ rest, Nat.toDigits 10 n.toNat ≠ '-' :: rest := by
      intro rest eq
      have := isDigit_toDigits (n := n.toNat) (c := '-') (by simp [eq])
      revert this
      decide
    have value : whole? false (Nat.toDigits 10 n.toNat) = some n := by
      rw [whole?_toDigits, if_neg Bool.false_ne_true, if_pos (by omega),
        Int.toNat_of_nonneg positive]
    rw [number?]
    · simp only [value]
    · exact sign
  · rename_i negative
    have value : whole? true (Nat.toDigits 10 (-n).toNat) = some n := by
      rw [whole?_toDigits, if_pos rfl, if_pos (by omega), Int.toNat_of_nonneg (by omega),
        Int.neg_neg]
    simp [number?, value]

section
variable {negative : Bool} {digits : List Char} {n : Int}

/-- A whole number is read from digits alone, and is what they stand for, with its sign. -/
theorem cases_of_whole? (h : whole? negative digits = some n) :
    (∀ c ∈ digits, c.isDigit = true) ∧
      (negative = true ∧ Text.digitsValue digits ≤ Nat.pow 2 63 ∧
          n = -(Text.digitsValue digits : Int) ∨
        negative = false ∧ Text.digitsValue digits < Nat.pow 2 63 ∧
          n = Text.digitsValue digits) := by
  rw [whole?] at h
  split at h
  · rename_i all
    refine ⟨List.all_eq_true.mp all.2, ?_⟩
    dsimp only at h
    split at h
    · rename_i sign
      split at h
      · rename_i bound
        exact .inl ⟨sign, bound, (Option.some.inj h).symm⟩
      · cases h
    · rename_i sign
      have sign : negative = false := by simpa using sign
      split at h
      · rename_i bound
        exact .inr ⟨sign, bound, (Option.some.inj h).symm⟩
      · cases h
  · cases h

theorem bounds_of_whole? (h : whole? negative digits = some n) :
    -(Nat.pow 2 63 : Int) ≤ n ∧ n < (Nat.pow 2 63 : Int) := by
  have pos : 0 < Nat.pow 2 63 := by decide
  rcases (cases_of_whole? h).2 with ⟨-, bound, rfl⟩ | ⟨-, bound, rfl⟩ <;> omega

end

theorem bounds_of_number? {text : List Char} {n : Int} (h : number? text = some (.whole n)) :
    -(Nat.pow 2 63 : Int) ≤ n ∧ n < (Nat.pow 2 63 : Int) := by
  unfold number? at h
  split at h
  split at h
  · cases h
    exact bounds_of_whole? ‹_›
  · obtain ⟨x, _, eq⟩ := Option.map_eq_some_iff.mp h
    cases eq

end Folio.Expr
