import Folio.Page.Basic

namespace Folio

/-- The names that listeners listen to, in the order in which they were added; `none` listens to
every event. -/
abbrev Listeners := List (Option String)

namespace Listeners

def hears (name? : Option String) (event : String) : Bool :=
  match name? with
  | some name => name = event
  | none => true

/-- The positions of the listeners that hear the event. -/
def hearing (listeners : Listeners) (event : Event) : List Nat :=
  (listeners.zipIdx.filter fun entry => hears entry.1 event.stage.name).map (·.2)

def heard (listeners : Listeners) (events : List Event) : List (Nat × Event) :=
  events.flatMap fun event => (listeners.hearing event).map fun position => (position, event)

end Listeners

end Folio
