import Folio.Proofs.Body.Expressions
import Folio.Proofs.Expr.Numbers
import Folio.Proofs.Page.Lookup

namespace Folio.Body

open Decimal.Binary64 (limit)

variable {σ : Type} {path : Path} {scope : Scope σ} {state : σ} {text : List Char} {i : Int}

theorem output_whole (source : List Char) :
    (output path source (.number (.whole i)) : Run σ (List Char)) = pure (toString i).toList := rfl

theorem execute_whole (padded : Expr.Padded (toString i).toList text)
    (low : -(Nat.pow 2 63 : Int) ≤ i) (high : i < (Nat.pow 2 63 : Int)) :
    execute path (String.ofList (tagged text)) scope = pure (toString i) := by
  have written : Expr.Written .tag (.literal (.number (.whole i))) (toString i).toList :=
    .whole low high
  have one : (Expr.literal (.number (.whole i))).levels ≤ Expr.maxLevels :=
    Nat.le_of_ble_eq_true rfl
  rw [execute_tagged written padded one, evaluate, pure_bind, output_whole, pure_bind,
    String.ofList_toList]

theorem execute_key {key : String} (name : Expr.IsName key) (padded : Expr.Padded key.toList text)
    (found : scope.lookup state key = some (.number (.whole i))) :
    (execute path (String.ofList (tagged text)) scope).eval state =
      (.ok (toString i), scope.asked key state) := by
  have written : Expr.Written .tag (.key key) key.toList := .key name
  have one : (Expr.key key).levels ≤ Expr.maxLevels := Nat.le_of_ble_eq_true rfl
  have value := eval_evaluate_key path (1 + newlines (tagged text)) scope key state
  rw [found] at value
  rw [execute_tagged written padded one, Run.bind_of_ok value, output_whole, pure_bind,
    String.ofList_toList, Run.eval_pure]

/-- What is read for a number that JSON has. Without a sign in its exponent, it is the number itself
or the double that is nearest to it, if there is one, and otherwise an error; with a sign there, it
is an error that ends before the sign. A whole number of 64 bits with a sign is that number, and its
tag writes the same as one with a key that leads to it. Whole numbers of 64 bits without a sign that
are larger are doubles. -/
theorem numbers_in_tags (text : List Char) :
    (∀ n : Expr.Numeral, n.Signless → Expr.Padded n.text text →
      if |n.value| < limit then
        ∃ number : Number, Expr.read text = .ok (.literal (.number number)) ∧ number.Reads n.value
      else Expr.read text = .error (.badNumber (String.ofList n.text))) ∧
    (∀ (n : Expr.Numeral) (e : Expr.NumeralExponent) (sign : Char),
      n.exponent? = some e → e.sign? = some sign → Expr.Padded n.text text →
      Expr.read text = .error (.badNumber (String.ofList (n.front ++ [e.mark])))) ∧
    (∀ i : Int, Expr.Padded (toString i).toList text →
      -(2 ^ 63 : Int) ≤ i → i < (2 ^ 63 : Int) →
      Expr.read text = .ok (.literal (.number (.whole i))) ∧
      ∀ (σ : Type) (path : Path) (scope : Scope σ) (state : σ) (key : String) (text' : List Char),
        Expr.IsName key → Expr.Padded key.toList text' →
        scope.lookup state key = some (.number (.whole i)) →
        ((execute path (String.ofList (tagged text)) scope).eval state).1 = .ok (toString i) ∧
        ((execute path (String.ofList (tagged text')) scope).eval state).1 = .ok (toString i)) ∧
    ∀ i : Int, Expr.Padded (toString i).toList text →
      (2 ^ 63 : Int) ≤ i → i < (2 ^ 64 : Int) →
      ∃ x, Expr.read text = .ok (.literal (.number (.real x))) ∧ x.Rounds i := by
  refine ⟨?_, ?_, ?_, ?_⟩
  · intro n signless padded
    have ends := Expr.Numeral.read_text signless padded
    split at ends
    · rename_i fits
      obtain ⟨number, -, read, reads⟩ := ends
      rw [if_pos fits]
      exact ⟨number, read, reads⟩
    · rename_i large
      rwa [if_neg large]
  · intro n e sign exponent signed padded
    exact Expr.Numeral.read_signed exponent signed padded
  · intro i padded low high
    refine ⟨Expr.read_whole padded low high, ?_⟩
    intro σ path scope state key text' name padded' found
    rw [execute_whole padded low high, execute_key name padded' found]
    exact ⟨rfl, rfl⟩
  · intro i padded low high
    have outside : ¬ (-(Nat.pow 2 63 : Int) ≤ i ∧ i < (Nat.pow 2 63 : Int)) := by
      have same : (Nat.pow 2 63 : Int) = 2 ^ 63 := rfl
      omega
    have high' : (i : ℚ) < 2 ^ 64 := by exact_mod_cast high
    have positive : (0 : ℚ) ≤ i := by exact_mod_cast (by omega : 0 ≤ i)
    apply Expr.read_large padded outside
    rw [abs_of_nonneg positive]
    exact high'.trans Decimal.Binary64.pow_lt_limit

/-- A number in scientific notation. -/
def scientific (sign? : Option Char) (isSign : ∀ sign ∈ sign?, sign = '+' ∨ sign = '-') :
    Expr.Numeral where
  negative := false
  whole := ['2']
  fraction? := some ['5']
  exponent? := some ⟨'E', sign?, ['3'], .inr rfl, isSign, by decide⟩
  isWhole := by decide
  isFraction := by
    rintro fraction ⟨⟩
    decide

/-- Such a number with a sign in its exponent and without, and whole numbers at the bounds. -/
theorem numbers_in_tags_bounds :
    (∃ number : Number, Expr.read "2.5E3".toList = .ok (.literal (.number number)) ∧
      number.Reads 2500) ∧
    Expr.read "2.5E+3".toList = .error (.badNumber "2.5E") ∧
    Expr.read "-9223372036854775808".toList =
      .ok (.literal (.number (.whole (-9223372036854775808)))) ∧
    ∃ x, Expr.read "9223372036854775808".toList = .ok (.literal (.number (.real x))) ∧
      x.Rounds 9223372036854775808 := by
  have signless := (numbers_in_tags "2.5E3".toList).1
  have signed := (numbers_in_tags "2.5E+3".toList).2.1
  have whole := (numbers_in_tags "-9223372036854775808".toList).2.2.1
  have real := (numbers_in_tags "9223372036854775808".toList).2.2.2
  refine ⟨?_, ?_, ?_, ?_⟩
  · have value : (scientific none (by simp)).value = 2500 := by
      have digits : Text.digitsValue ['2', '5'] = 25 := by decide
      have power : Text.digitsValue ['3'] = 3 := by decide
      simp only [scientific, Expr.Numeral.value, Expr.Numeral.fraction, Option.getD_some,
        List.cons_append, List.nil_append, digits, Option.elim_some, Expr.NumeralExponent.value,
        power, reduceCtorEq, if_false]
      norm_num [Decimal.Binary64.signed]
    have plain : (scientific none (by simp)).Signless := by
      simp [Expr.Numeral.Signless, scientific]
    have ends := signless (scientific none (by simp)) plain (.refl _)
    rw [value, if_pos] at ends
    · exact ends
    · norm_num
      linarith [Decimal.Binary64.pow_lt_limit]
  · exact signed (scientific (some '+') (by simp)) _ '+' rfl rfl (.refl _)
  · have digits : toString (-9223372036854775808 : Int) = "-9223372036854775808" := by
      decide +kernel
    have least : Expr.Padded (toString (-9223372036854775808 : Int)).toList
        "-9223372036854775808".toList := digits ▸ .refl _
    exact (whole (-9223372036854775808) least (by decide) (by decide)).1
  · have digits : toString (9223372036854775808 : Int) = "9223372036854775808" := by
      decide +kernel
    have next : Expr.Padded (toString (9223372036854775808 : Int)).toList
        "9223372036854775808".toList := digits ▸ .refl _
    exact_mod_cast real 9223372036854775808 next (by decide) (by decide)

def greatest : Scope Unit where
  lookup _ _ := some (.number (.whole 18446744073709551615))
  invoke name _ := pure (.text name)
  declare _ content := pure content

/-- The exponent of a number may have no sign, and the greatest number of 64 bits is not written
with the same digits by a tag that holds it and by one with a key that leads to it. -/
theorem numbers_not_in_tags :
    Expr.read "1e-5".toList = .error (.badNumber "1e") ∧
    (execute "page" (String.ofList (tagged "18446744073709551615".toList)) greatest).eval () =
      (.ok "1.8446744073709552e+19", ()) ∧
    (execute "page" (String.ofList (tagged "n".toList)) greatest).eval () =
      (.ok "18446744073709551615", ()) := by
  refine ⟨by cbv, ?_, ?_⟩
  · have value : Expr.number? "18446744073709551615".toList =
        some (.real ⟨false, Nat.pow 2 52, 12⟩) := by decide +kernel
    have numeral : Expr.IsNumeral "18446744073709551615".toList :=
      Expr.isNumeral_toString 18446744073709551615
    have written : Expr.Written .tag (.literal (.number (.real ⟨false, Nat.pow 2 52, 12⟩)))
        "18446744073709551615".toList := .real numeral value
    have shown : Json.numberText (.real ⟨false, Nat.pow 2 52, 12⟩) = "1.8446744073709552e+19" := by
      decide +kernel
    have output_real : (output "page" "18446744073709551615".toList
        (.number (.real ⟨false, Nat.pow 2 52, 12⟩)) : Run Unit (List Char)) =
        pure "1.8446744073709552e+19".toList := by
      rw [← shown]
      rfl
    rw [execute_tagged written (.refl _) (Nat.le_of_ble_eq_true rfl), evaluate, pure_bind,
      output_real, pure_bind, String.ofList_toList, Run.eval_pure]
  · have name : Expr.IsName "n" := by decide
    have found : greatest.lookup () "n" = some (.number (.whole 18446744073709551615)) := rfl
    exact execute_key name (.refl _) found

end Folio.Body
