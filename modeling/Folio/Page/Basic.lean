import Folio.Page.Alias
import Folio.Value.Path
import Folio.Files.Path

/-! A page is the state of rendering one body file: the data bound to it, the output of its body and
the layout that the body has asked for. While it is rendered it sends events; an event carries the
page as it is at that moment. Of what else it does it only makes remarks. -/

namespace Folio

/-- The state of rendering one body file. -/
structure Page where
  path : Path
  context : Fields := []
  buffer : String := ""
  layout? : Option Path := none
  alias? : Option Alias := none
  deriving Repr

/-- The stage of a render that an event reports. -/
inductive Stage where
  | prerender
  | layout (path : Path)
  | renderlayout (path : Path)
  | rendered
  | prepartial (name : String) (context : Fields)
  | afterpartial
  deriving Repr

/-- The name under which a stage is listened to. -/
def Stage.name : Stage → String
  | .prerender => "f.template.prerender"
  | .layout _ => "f.template.layout"
  | .renderlayout _ => "f.template.renderlayout"
  | .rendered => "f.template.rendered"
  | .prepartial _ _ => "f.template.prepartial"
  | .afterpartial => "f.template.afterpartial"

structure Event where
  stage : Stage
  page : Page
  deriving Repr

def Event.layout? (event : Event) : Option Path :=
  match event.stage with
  | .layout path => some path
  | .renderlayout path => some path
  | _ => none

def Event.partial? (event : Event) : Option (String × Fields) :=
  match event.stage with
  | .prepartial name context => some (name, context)
  | _ => none

/-- Something that a page has done and that nobody listens to. -/
inductive Remark where
  /-- The body has been executed with the output `body`, and has left the page as it is here. -/
  | collected (page : Page) (body : String)
  /-- A section has been captured with the text `own`; `written` is what takes its place. -/
  | captured (name own written : String)
  /-- A section has been asked for, with the text `fallback` in case there is none. -/
  | supplied (name fallback written : String)
  deriving Repr

namespace Page

def get? (page : Page) (key : String) : Option Value :=
  page.context.resolve? key

end Page

end Folio
