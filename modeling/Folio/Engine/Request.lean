import Folio.Engine.Basic

namespace Folio

inductive Request where
  | render (name : String) (context : Fields)
  | renderFile (path : Path) (context : Fields)
  | renderLayout (path : Path) (context : Fields) (buffer : String)
  | put (name content : String)
  | clear
  deriving Repr

namespace Engine

/-- Answers a request; a request about sections has no output. -/
def perform (engine : Engine) : Request → Run Desk String
  | .render name context => engine.render name context
  | .renderFile path context => engine.renderFile path context
  | .renderLayout path context buffer => engine.renderLayout path context buffer
  | .put name content => do
    Run.update fun desk => { desk with sections := desk.sections.put name content }
    pure ""
  | .clear => do
    Run.update fun desk => { desk with sections := .empty }
    pure ""

/-- The desk after requests that were answered one after the other, whatever the answers were. -/
def performAll (engine : Engine) (requests : List Request) (desk : Desk) : Desk :=
  requests.foldl (fun desk request => ((engine.perform request).eval desk).2) desk

end Engine

end Folio
