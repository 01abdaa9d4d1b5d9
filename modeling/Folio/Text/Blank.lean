import Folio.Text.Ranges

namespace Folio.Text

/-- The code points with the Unicode property White_Space. -/
def blankRanges : Ranges :=
  [(0x9, 0xd), (0x20, 0x20), (0x85, 0x85), (0xa0, 0xa0), (0x1680, 0x1680), (0x2000, 0x200a),
   (0x2028, 0x2029), (0x202f, 0x202f), (0x205f, 0x205f), (0x3000, 0x3000)]

def isBlank (c : Char) : Bool :=
  blankRanges.has c.toNat

def trimStart (text : List Char) : List Char :=
  text.dropWhile isBlank

def trimEnd (text : List Char) : List Char :=
  (text.reverse.dropWhile isBlank).reverse

def trim (text : List Char) : List Char :=
  trimEnd (trimStart text)

def trimString (text : String) : String :=
  String.ofList (trim text.toList)

@[simp] theorem trim_nil : trim [] = [] := rfl

theorem trim_of_not_blank {first last : Char} {middle : List Char}
    (h : isBlank first = false) (h' : isBlank last = false) :
    trim (first :: middle ++ [last]) = first :: middle ++ [last] := by
  simp [trim, trimStart, trimEnd, h, h']

end Folio.Text
