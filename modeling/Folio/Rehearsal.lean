import Folio.Command.Builtin
import Folio.Page.Render
import Folio.Section

/-! A rehearsal stands in for an engine while a page is tried out: names lead to scripted files and
partials to scripted outputs, helpers and filters give prepared answers, and everything that the
page asks for is recorded. Only layouts are rendered from their files. -/

namespace Folio

structure Script where
  disk : Disk
  paths : List (String × Path) := []
  outputs : List (String × String) := []
  /-- Commands that run in place of the prepared answers. -/
  commands? : Option Commands := none
  /-- Whether a layout is rendered as a partial that is named by its path. -/
  layoutsByName : Bool := false

/-- What has been asked for so far, the answers that are left, and the sections, of which layouts
have their own. -/
structure Rehearsal where
  sections : Sections := .empty
  layoutSections : Sections := .empty
  helperAnswers : List Value := []
  filterAnswers : List Value := []
  finds : List String := []
  renders : List (String × Fields) := []
  events : List Event := []
  runs : List (String × List Value) := []
  filters : List (String × Value × List Value) := []
  deriving Inhabited

namespace Rehearsal

def find (script : Script) (name : String) (record : Rehearsal) : Option Path × Rehearsal :=
  (script.paths.lookup name, { record with finds := record.finds ++ [name] })

def render (script : Script) (name : String) (context : Fields) : Run Rehearsal String := do
  Run.update fun record => { record with renders := record.renders ++ [(name, context)] }
  match script.outputs.lookup name with
  | some output => pure output
  | none => Run.fail (.templateNotFound name)

def fire (event : Event) (record : Rehearsal) : Rehearsal :=
  { record with events := record.events ++ [event] }

/-- Answers a helper with the next prepared answer, or null when none is left. -/
def run (script : Script) (name : String) (args : List Value) : Run Rehearsal Value :=
  match script.commands? with
  | some commands => Run.ofExcept (commands.run name args)
  | none => Run.of fun record =>
    (.ok (record.helperAnswers.headD .null),
      { record with
        helperAnswers := record.helperAnswers.tail
        runs := record.runs ++ [(name, args)] })

def filter (script : Script) (name : String) (value : Value) (args : List Value) :
    Run Rehearsal Value :=
  match script.commands? with
  | some commands => Run.ofExcept (commands.filter name value args)
  | none => Run.of fun record =>
    (.ok (record.filterAnswers.headD .null),
      { record with
        filterAnswers := record.filterAnswers.tail
        filters := record.filters ++ [(name, value, args)] })

/-- The commands that layouts are rendered with. -/
def layoutCommands : Commands := .builtin true

/-- The host of a layout, for which further layouts are rendered by `renderLayout`. -/
def layoutHost (script : Script) (renderLayout : Path → Fields → String → Run Rehearsal String) :
    Host Rehearsal where
  disk := script.disk
  find := find script
  render := render script
  renderLayout := renderLayout
  fire := fire
  note _ record := record
  run name args := Run.ofExcept (layoutCommands.run name args)
  filter name value args := Run.ofExcept (layoutCommands.filter name value args)
  readSection record name := record.layoutSections.get? name
  storeSection name content record :=
    { record with layoutSections := record.layoutSections.put name content }

/-- Renders a layout from its file, with at most `levels` layouts around one another. -/
def renderLayout (script : Script) (limit levels : Nat) (path : Path) (context : Fields)
    (buffer : String) : Run Rehearsal String :=
  match levels with
  | 0 => Run.fail (.tooDeep path limit)
  | levels + 1 =>
    Run.of fun record =>
      let host := layoutHost script (renderLayout script limit levels)
      let (result, session) := (Page.render host context).eval ⟨{ path, buffer }, record⟩
      (result, session.world)

def maxLayouts : Nat := 10000

def host (script : Script) : Host Rehearsal where
  disk := script.disk
  find := find script
  render := render script
  renderLayout path context buffer :=
    if script.layoutsByName then render script path context
    else renderLayout script maxLayouts maxLayouts path context buffer
  fire := fire
  note _ record := record
  run := run script
  filter := filter script
  readSection record name := record.sections.get? name
  storeSection name content record :=
    { record with sections := record.sections.put name content }

theorem find_recorded (script : Script) (name : String) (record : Rehearsal) :
    (find script name record).2.finds = record.finds ++ [name] := rfl

/-- A partial has its scripted output, and without one there is no such template. -/
theorem eval_render (script : Script) (name : String) (context : Fields) (record : Rehearsal) :
    (render script name context).eval record =
      ((script.outputs.lookup name).elim (.error (.templateNotFound name)) .ok,
        { record with renders := record.renders ++ [(name, context)] }) := by
  unfold render
  rw [Run.eval_bind]
  cases script.outputs.lookup name <;> rfl

end Rehearsal

end Folio
