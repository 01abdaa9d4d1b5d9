import Folio.Body.Execution
import Folio.Page.Call

/-! The body of a page is executed first. If it asked for a layout, the host renders that around the
output of the body; otherwise the output of the body is the output of the page. A body that fails
leaves no layout behind. -/

namespace Folio.Page

variable {σ : Type}

def declareSection (host : Host σ) (name content : String) : Run (Session σ) String :=
  Session.outside (host.declare name content)

def scope (host : Host σ) : Scope (Session σ) where
  lookup session key := session.page.get? key
  invoke := dispatch host
  declare := declareSection host

def collect (host : Host σ) : Run (Session σ) String := do
  let path ← Run.look fun session => session.page.path
  match host.disk.read path with
  | .error error => Run.fail (.file error)
  | .ok source => Body.execute path source (scope host)

/-- Renders the layout of the page around the output of its body, if there is a layout. -/
def wrap (host : Host σ) (context : Fields) (body : String) :
    Option Path → Run (Session σ) String
  | none => pure body
  | some path => do
    Session.fire host (.layout path)
    let rendered ← Session.outside (host.renderLayout path context body)
    Session.fire host (.renderlayout path)
    pure rendered

/-- Renders the page under a context, with the layouts around it. -/
def render (host : Host σ) (context : Fields) : Run (Session σ) String := do
  Session.updatePage fun page => { page with context }
  Session.fire host .prerender
  let body ← Run.onError (collect host) fun session =>
    { session with page := { session.page with layout? := none } }
  let page ← Run.look Session.page
  Session.note host (.collected page body)
  Session.updatePage fun page => { page with buffer := body, layout? := none }
  let output ← wrap host context body page.layout?
  Session.fire host .rendered
  pure output

end Folio.Page
