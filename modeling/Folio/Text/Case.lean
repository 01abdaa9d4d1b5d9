import Folio.Text.CaseRuns
import Folio.Text.CasedRanges

/-! Every character is replaced by its full case mapping, which may have several characters. A
capital sigma at the end of a word becomes a final sigma in lower case; nothing else depends on its
neighbours. -/

namespace Folio.Text

def CaseRun.image? (run : CaseRun) (n : Nat) : Option Nat :=
  if run.first ≤ n ∧ n ≤ run.last ∧ (n - run.first) % run.step = 0 then
    some (n + run.shift).toNat
  else
    none

/-- The case mapping of `c` in the two tables; a character in neither maps to itself. -/
def mapCase (runs : List CaseRun) (specials : List (Nat × List Nat)) (c : Char) : List Char :=
  match specials.lookup c.toNat with
  | some codes => codes.map Char.ofNat
  | none =>
    match runs.findSome? (·.image? c.toNat) with
    | some code => [Char.ofNat code]
    | none => [c]

def upper (text : List Char) : List Char :=
  text.flatMap (mapCase upperRuns upperSpecials)

/-- Whether the first character that is not case-ignorable has case. -/
def startsCased (text : List Char) : Bool :=
  match text.dropWhile fun c => caseIgnorableRanges.has c.toNat with
  | [] => false
  | c :: _ => casedRanges.has c.toNat

/-- The lower case of `c` between the reversed text `before` and the text `after`: a capital sigma
that ends a word becomes a final sigma. -/
def lowerAt (before : List Char) (c : Char) (after : List Char) : List Char :=
  if c = 'Σ' then
    if startsCased before && !startsCased after then ['ς'] else ['σ']
  else
    mapCase lowerRuns lowerSpecials c

def lowerAfter (before : List Char) : List Char → List Char
  | [] => []
  | c :: rest => lowerAt before c rest ++ lowerAfter (c :: before) rest

def lower (text : List Char) : List Char :=
  lowerAfter [] text

end Folio.Text
