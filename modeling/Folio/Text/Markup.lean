namespace Folio.Text

def markupEntity (c : Char) : List Char :=
  match c with
  | '&' => "&amp;".toList
  | '<' => "&lt;".toList
  | '>' => "&gt;".toList
  | '"' => "&quot;".toList
  | '\'' => "&#x27;".toList
  | '/' => "&#x2F;".toList
  | c => [c]

def escapeMarkup (text : List Char) : List Char :=
  text.flatMap markupEntity

theorem escapeMarkup_append (a b : List Char) :
    escapeMarkup (a ++ b) = escapeMarkup a ++ escapeMarkup b := by
  simp [escapeMarkup]

end Folio.Text
