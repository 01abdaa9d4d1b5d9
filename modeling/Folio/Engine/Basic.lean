import Folio.Command.Basic
import Folio.Engine.Finder
import Folio.Page.Render
import Folio.Section

/-! An engine renders templates from files. All pages of one render share the sections, which are
cleared when an outermost render starts, and a journal of what the render does. Pages may insert one
another and lay themselves out in one another up to a number of levels. -/

namespace Folio

inductive Entry where
  | opened (path : Path)
  | closed (path : Path)
  | fired (event : Event)
  | remarked (remark : Remark)
  | ran (name : String) (args : List Value)
  | filtered (name : String) (value : Value) (args : List Value)
  | stored (name content : String)
  | cleared
  deriving Repr

def Entry.event? : Entry → Option Event
  | .fired event => some event
  | _ => none

/-- An entry of a journal, with the sections and the number of open files right after it. -/
structure Moment where
  entry : Entry
  sections : Sections
  depth : Nat
  deriving Repr

/-- What the pages of a render share: the sections, how many files are being rendered, and what has
been done, the latest moment first. -/
structure Desk where
  sections : Sections
  depth : Nat
  log : List Moment
  deriving Inhabited

namespace Desk

def empty : Desk := ⟨.empty, 0, []⟩

def journal (desk : Desk) : List Moment := desk.log.reverse

def note (desk : Desk) (entry : Entry) : Desk :=
  { desk with log := ⟨entry, desk.sections, desk.depth⟩ :: desk.log }

@[simp] theorem journal_empty : empty.journal = [] := rfl

@[simp] theorem journal_note (desk : Desk) (entry : Entry) :
    (desk.note entry).journal = desk.journal ++ [⟨entry, desk.sections, desk.depth⟩] := by
  simp [journal, note]

@[simp] theorem sections_note (desk : Desk) (entry : Entry) :
    (desk.note entry).sections = desk.sections := rfl

@[simp] theorem depth_note (desk : Desk) (entry : Entry) :
    (desk.note entry).depth = desk.depth := rfl

def clear (desk : Desk) : Desk :=
  { desk with sections := .empty }.note .cleared

def store (name content : String) (desk : Desk) : Desk :=
  { desk with sections := desk.sections.put name content }.note (.stored name content)

/-- The desk with one more open file. The sections are cleared for the first one. -/
def enter (path : Path) (desk : Desk) : Desk :=
  let desk := { desk with depth := desk.depth + 1 }
  (if desk.depth = 1 then desk.clear else desk).note (.opened path)

def leave (path : Path) (desk : Desk) : Desk :=
  { desk with depth := desk.depth - 1 }.note (.closed path)

/-- Opens a file, unless `limit` files are open. -/
def takeLevel (limit : Nat) (path : Path) : Run Desk Unit :=
  Run.of fun desk =>
    if limit < desk.depth + 1 then (.error (.tooDeep path limit), desk)
    else (.ok (), desk.enter path)

def events (desk : Desk) : List Event :=
  desk.journal.filterMap fun moment => moment.entry.event?

end Desk

/-- The files, the way to find them, the commands, the alias and the number of levels that an
engine renders with. -/
structure Engine where
  disk : Disk
  finder : Finder
  commands : Commands
  alias? : Option Alias
  maxDepth : Nat

namespace Engine

def find (engine : Engine) (name : String) : Option Path :=
  engine.finder.find engine.disk name

/-- How a file is rendered under a context, as a page that starts with a buffer. -/
abbrev Execute := Path → Fields → String → Run Desk String

def renderBy (engine : Engine) (execute : Execute) (name : String) (context : Fields) :
    Run Desk String :=
  match engine.find name with
  | none => Run.fail (.templateNotFound name)
  | some path => execute path context ""

/-- The engine as the host of a page, for which other files are rendered by `execute`. -/
def host (engine : Engine) (execute : Execute) : Host Desk where
  disk := engine.disk
  find name desk := (engine.find name, desk)
  render := engine.renderBy execute
  renderLayout := execute
  fire event desk := desk.note (.fired event)
  note remark desk := desk.note (.remarked remark)
  run name args := do
    Run.update fun desk => desk.note (.ran name args)
    Run.ofExcept (engine.commands.run name args)
  filter name value args := do
    Run.update fun desk => desk.note (.filtered name value args)
    Run.ofExcept (engine.commands.filter name value args)
  readSection desk name := desk.sections.get? name
  storeSection := Desk.store

/-- The page that a file is rendered as, with a buffer to start from. -/
def page (engine : Engine) (path : Path) (buffer : String) : Page :=
  { path, buffer, alias? := engine.alias? }

@[simp] theorem path_page (engine : Engine) (path : Path) (buffer : String) :
    (engine.page path buffer).path = path := rfl

@[simp] theorem buffer_page (engine : Engine) (path : Path) (buffer : String) :
    (engine.page path buffer).buffer = buffer := rfl

/-- Renders a file. How deep renders are nested is limited by the number of open files; `levels`
only bounds the recursion, and with one more level than files may still be opened it is never
reached. -/
def execute (engine : Engine) (levels : Nat) : Execute := fun path context buffer =>
  match levels with
  | 0 => Run.fail (.tooDeep path engine.maxDepth)
  | levels + 1 => do
    Desk.takeLevel engine.maxDepth path
    let host := engine.host (engine.execute levels)
    Run.ensure (Session.ofPage (engine.page path buffer) (Page.render host context))
      (Desk.leave path)

/-- Renders a file when no other one is open. -/
def executeOutermost (engine : Engine) : Execute :=
  engine.execute (engine.maxDepth + 1)

def render (engine : Engine) (name : String) (context : Fields) : Run Desk String :=
  engine.renderBy engine.executeOutermost name context

def renderFile (engine : Engine) (path : Path) (context : Fields) : Run Desk String :=
  engine.executeOutermost path context ""

/-- Renders a file by its path as the layout around a text. -/
def renderLayout (engine : Engine) (path : Path) (context : Fields) (buffer : String) :
    Run Desk String :=
  engine.executeOutermost path context buffer

end Engine

end Folio
