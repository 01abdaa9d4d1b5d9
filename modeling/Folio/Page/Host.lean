import Folio.Page.Basic
import Folio.Run

/-! A page does not find files, render other pages, run helpers or store sections by itself; it asks
a host. While a page is rendered, the state is the page together with the state of its host. -/

namespace Folio

/-- What a page asks for, on states of type `σ`. -/
structure Host (σ : Type) where
  disk : Disk
  find : String → σ → Option Path × σ
  /-- The whole output of a named template under a context. -/
  render : String → Fields → Run σ String
  /-- The whole output of a layout file around the output of a body. -/
  renderLayout : Path → Fields → String → Run σ String
  fire : Event → σ → σ
  note : Remark → σ → σ
  run : String → List Value → Run σ Value
  /-- Runs one stage of a filter pipeline; null declines. -/
  filter : String → Value → List Value → Run σ Value
  readSection : σ → String → Option String
  storeSection : String → String → σ → σ

namespace Host

variable {σ : Type}

def seek (host : Host σ) (name : String) : Run σ (Option Path) :=
  Run.of fun world => (.ok (host.find name world).1, (host.find name world).2)

/-- Hands over a section. The first content of a name is kept and written every time. -/
def declare (host : Host σ) (name content : String) : Run σ String := do
  match ← Run.look fun world => host.readSection world name with
  | some kept => do
    Run.update (host.note (.captured name content kept))
    pure kept
  | none => do
    Run.update (host.storeSection name content)
    Run.update (host.note (.captured name content content))
    pure content

def supply (host : Host σ) (name fallback : String) : Run σ String := do
  let content ← Run.look fun world => (host.readSection world name).getD fallback
  Run.update (host.note (.supplied name fallback content))
  pure content

theorem eval_declare (host : Host σ) (name content : String) (world : σ) :
    (host.declare name content).eval world =
      match host.readSection world name with
      | some kept => (.ok kept, host.note (.captured name content kept) world)
      | none => (.ok content,
          host.note (.captured name content content) (host.storeSection name content world)) := by
  rw [declare, Run.eval_bind, Run.eval_look]
  cases host.readSection world name <;> rfl

theorem eval_supply (host : Host σ) (name fallback : String) (world : σ) :
    (host.supply name fallback).eval world =
      let content := (host.readSection world name).getD fallback
      (.ok content, host.note (.supplied name fallback content) world) := rfl

end Host

/-- A page being rendered, with the state of its host. -/
structure Session (σ : Type) where
  page : Page
  world : σ

namespace Session

variable {σ α : Type}

/-- A run of the host, while the page stays as it is. -/
def outside (run : Run σ α) : Run (Session σ) α :=
  Run.within Session.world (fun world session => { session with world }) run

def updatePage (f : Page → Page) : Run (Session σ) Unit :=
  Run.update fun session => { session with page := f session.page }

def fire (host : Host σ) (stage : Stage) : Run (Session σ) Unit :=
  Run.update fun session =>
    { session with world := host.fire ⟨stage, session.page⟩ session.world }

def note (host : Host σ) (remark : Remark) : Run (Session σ) Unit :=
  Run.update fun session => { session with world := host.note remark session.world }

/-- The run of a new page, of which only the state of the host is kept. -/
def ofPage (page : Page) (run : Run (Session σ) α) : Run σ α :=
  Run.of fun world => ((run.eval ⟨page, world⟩).1, (run.eval ⟨page, world⟩).2.world)

def find (host : Host σ) (name : String) : Run (Session σ) (Option Path) :=
  outside (host.seek name)

end Session

end Folio
