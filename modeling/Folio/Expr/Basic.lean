import Folio.Value.Basic

namespace Folio

inductive Expr where
  | literal (value : Value)
  | key (key : String)
  | list (items : List Expr)
  | object (fields : List (String × Expr))
  | call (name : String) (args : List Expr)
  deriving Repr, Inhabited

inductive ExprError where
  | tooDeep
  | empty
  | strayChar (c : Char)
  | strayRest (rest source : String)
  | openString
  | badNumber (text : String)
  | wrongChar (wanted found : Char)
  | missingChar (wanted : Char)
  | wrongSeparator (close found : Char)
  | openList (close : Char)
  | noFieldName
  | wrongFieldEnd
  deriving DecidableEq, Repr

namespace Expr

/-- How many levels expressions may be nested, a literal alone having one. -/
def maxLevels : Nat := 64

end Expr

def ExprError.message : ExprError → String
  | .tooDeep => s!"expression nested deeper than {Expr.maxLevels} levels"
  | .empty => "empty expression"
  | .strayChar c => s!"unexpected character '{c}'"
  | .strayRest rest source => s!"unexpected '{rest}' in expression '{source}'"
  | .openString => "unterminated string literal"
  | .badNumber text => s!"invalid number '{text}'"
  | .wrongChar wanted found => s!"expected '{wanted}', found '{found}'"
  | .missingChar wanted => s!"expected '{wanted}', found end of expression"
  | .wrongSeparator close found => s!"expected ',' or '{close}', found '{found}'"
  | .openList close => s!"unclosed '{close}'"
  | .noFieldName => "expected object key"
  | .wrongFieldEnd => "expected ',' or '\x7d' in object"

end Folio
