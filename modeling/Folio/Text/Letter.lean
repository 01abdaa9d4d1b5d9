import Folio.Text.LetterRanges

namespace Folio.Text

def isLetter (c : Char) : Bool :=
  if c.toNat < 128 then c.isAlpha else letterRanges.has c.toNat

/-- A numeral of any script that is not alphabetic. -/
def isNumeral (c : Char) : Bool :=
  if c.toNat < 128 then c.isDigit else numeralRanges.has c.toNat

def isAlphanumeric (c : Char) : Bool :=
  isLetter c || isNumeral c

theorem isAlphanumeric_of_isLetter {c : Char} (h : isLetter c = true) :
    isAlphanumeric c = true := by
  simp [isAlphanumeric, h]

end Folio.Text
