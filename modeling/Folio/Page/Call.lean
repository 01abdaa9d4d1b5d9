import Folio.Page.Args
import Folio.Page.Host
import Folio.Text.Blank
import Folio.Value.Text

namespace Folio.Page

variable {σ : Type}

/-- Runs the stages of a filter pipeline from left to right, each with its own arguments; blank
stages are left out. A stage that answers null hands its input on. -/
def runStages (host : Host σ) (value : Value) : List String → List (List Value) → Run σ Value
  | [], _ => pure value
  | stage :: stages, args => do
    let name := Text.trimString stage
    if name = "" then runStages host value stages args.tail
    else
      match ← host.filter name value (args.headD []) with
      | .null => runStages host value stages args.tail
      | filtered => runStages host filtered stages args.tail

/-- Runs a value through the filters that a pipeline names between bars. -/
def filter (host : Host σ) (pipeline : String) (value : Value) (args : List (List Value)) :
    Run σ Value :=
  runStages host value (Text.splitString '|' pipeline) args

def setLayout (host : Host σ) (name : String) : Run (Session σ) Unit := do
  match ← Session.find host name with
  | none => Run.fail (.layoutNotFound name)
  | some path => Session.updatePage fun page => { page with layout? := some path }

/-- The content of a section, or else the text that `fallback` makes of the page. -/
def supply (host : Host σ) (name : String) (fallback : Page → String) :
    Run (Session σ) String := do
  let own ← Run.look fun session => fallback session.page
  Session.outside (host.supply name own)

/-- Renders a partial, between two events. -/
def insert (host : Host σ) (name : String) (context : Fields) : Run (Session σ) String := do
  Session.fire host (.prepartial name context)
  let rendered ← Session.outside (host.render name context)
  Session.fire host .afterpartial
  pure rendered

/-- Renders a partial if its name stands for a file; otherwise nothing is done. -/
def insertIf (host : Host σ) (name : String) (context : Fields) : Run (Session σ) String := do
  match ← Session.find host name with
  | none => pure ""
  | some _ => insert host name context

def operate (host : Host σ) (operation : Operation) (args : List Value) :
    Run (Session σ) Value :=
  match operation with
  | .filter => do
    let pipeline ← Run.ofExcept (textArg operation args 0)
    let stages ← Run.ofExcept (stagesArg operation args 2)
    Session.outside (filter host pipeline (argument args 1) stages)
  | .layout => do
    let name ← Run.ofExcept (textArg operation args 0)
    setLayout host name
    pure .null
  | .lastBuffer => Run.look fun session => .text session.page.buffer
  | .supply => do
    let name ← Run.ofExcept (textArg operation args 0)
    let content ← supply host name fun _ => (argument args 1).displayed
    pure (.text content)
  | .insert => do
    let name ← Run.ofExcept (textArg operation args 0)
    let context ← Run.ofExcept (contextArg operation args 1)
    let rendered ← insert host name context
    pure (.text rendered)
  | .insertIf => do
    let name ← Run.ofExcept (textArg operation args 0)
    let context ← Run.ofExcept (contextArg operation args 1)
    let rendered ← insertIf host name context
    pure (.text rendered)
  | .get => do
    let key ← Run.ofExcept (textArg operation args 0)
    Run.look fun session => (session.page.get? key).getD (argument args 1)
  | .data => Run.look fun session => .object session.page.context

@[simp] theorem eval_operate_lastBuffer (host : Host σ) (args : List Value)
    (session : Session σ) :
    (operate host .lastBuffer args).eval session = (.ok (.text session.page.buffer), session) := rfl

def callName (page : Page) (name : String) : String :=
  match page.alias? with
  | some called => called.resolve name
  | none => name

/-- Performs the operation of that name, or else runs the helper. -/
def dispatch (host : Host σ) (name : String) (args : List Value) : Run (Session σ) Value := do
  let name ← Run.look fun session => callName session.page name
  match Operation.ofName? name with
  | some operation => operate host operation args
  | none => Session.outside (host.run name args)

end Folio.Page
