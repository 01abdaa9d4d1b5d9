import Folio.Proofs.Engine.Steps
import Mathlib

namespace Folio

theorem Finder.find_eq_of_climbs (finder : Finder) (disk : Disk) {name : String}
    (climbs : Path.climbs name = true) :
    finder.find disk name =
      if Path.isAbsolute name ∧ disk.isFile name then some name else none := by
  have nonempty : name ≠ "" := by
    rintro rfl
    cases climbs
  rw [find, if_neg nonempty]
  by_cases absolute : Path.isAbsolute name = true
  · simp [absolute]
  · simp [absolute, climbs]

namespace Engine

/-- Wherever the name is used, it stands for no file. -/
structure Unresolved (engine : Engine) (name : String) : Prop where
  find : engine.find name = none
  render (context : Fields) (desk : Desk) :
    (engine.render name context).eval desk = (.error (.templateNotFound name), desk)
  layout (execute : Execute) (session : Session Desk) :
    (Page.setLayout (engine.host execute) name).eval session =
      (.error (.layoutNotFound name), session)
  /-- The event before the partial is sent all the same. -/
  insert (execute : Execute) (context : Fields) (session : Session Desk) :
    (Page.insert (engine.host execute) name context).eval session =
      (.error (.templateNotFound name),
        ⟨session.page, session.world.note (.fired ⟨.prepartial name context, session.page⟩)⟩)
  insertIf (execute : Execute) (context : Fields) (session : Session Desk) :
    (Page.insertIf (engine.host execute) name context).eval session = (.ok "", session)

variable {engine : Engine} {name : String}

theorem eval_find_host (execute : Execute) (session : Session Desk) :
    (Session.find (engine.host execute) name).eval session =
      (.ok (engine.find name), session) := rfl

theorem Unresolved.of_find (absent : engine.find name = none) : engine.Unresolved name where
  find := absent
  render context desk := by
    rw [Engine.render, renderBy_of_none absent, Run.eval_fail]
  layout execute session := by
    rw [Page.setLayout, Run.bind_of_ok (eval_find_host execute session), absent]
    rfl
  insert execute context session := by
    have fired : (Session.fire (engine.host execute) (.prepartial name context)).eval session =
        (.ok (), ⟨session.page,
          session.world.note (.fired ⟨.prepartial name context, session.page⟩)⟩) := rfl
    rw [Page.insert, Run.bind_of_ok fired, host_render, renderBy_of_none absent]
    exact Run.bind_of_error rfl
  insertIf execute context session := by
    rw [Page.insertIf, Run.bind_of_ok (eval_find_host execute session), absent]
    rfl

/-- A name that climbs stands for no file, unless it is absolute and leads to one. -/
theorem find_climbing (engine : Engine) {name : String} (climbs : Path.climbs name = true) :
    if Path.isAbsolute name ∧ engine.disk.isFile name then engine.find name = some name
    else engine.Unresolved name := by
  have found : engine.find name = _ := engine.finder.find_eq_of_climbs engine.disk climbs
  split
  · rename_i reached
    rwa [if_pos reached] at found
  · rename_i missed
    rw [if_neg missed] at found
    exact .of_find found

/-- An engine with one template, which may also be reached over a folder beside it. -/
def besideFolder : Engine where
  disk := ⟨.folder [("page.tpl", .file (some "x")), ("sub", .folder [])], []⟩
  finder := ⟨["."], ["tpl"]⟩
  commands := .empty true
  alias? := none
  maxDepth := 64

/-- Seen from the folder of the templates, it cannot be reached that way. -/
theorem find_climbing_besideFolder :
    Path.climbs "sub/../page" = true ∧ besideFolder.Unresolved "sub/../page" := by
  have climbs : Path.climbs "sub/../page" = true := by decide +kernel
  have relative : Path.isAbsolute "sub/../page" = false := by decide +kernel
  have ends := besideFolder.find_climbing climbs
  rw [if_neg (by simp [relative])] at ends
  exact ⟨climbs, ends⟩

theorem find_besideFolder :
    Path.climbs "/sub/../page.tpl" = true ∧
      besideFolder.find "/sub/../page.tpl" = some "/sub/../page.tpl" := by
  decide +kernel

end Engine

end Folio
