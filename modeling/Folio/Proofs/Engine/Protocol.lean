import Folio.Proofs.Body.Rescan
import Folio.Proofs.Engine.Steps
import Folio.Proofs.Page.Speech
import Mathlib

namespace Folio

def Entry.cue? : Entry → Option Cue
  | .fired event => some (.fired event.page.path event.stage)
  | .remarked (.collected page _) => some (.left page.path page.layout?)
  | _ => none

def Cue.event? : Cue → Option (Path × Stage)
  | .fired path stage => some (path, stage)
  | .left _ _ => none

namespace Desk

def cues (desk : Desk) : List Cue :=
  desk.journal.filterMap fun moment => moment.entry.cue?

/-- Nothing but the events is heard, apart from the layouts that bodies leave. -/
theorem filterMap_cues (desk : Desk) :
    desk.cues.filterMap Cue.event? =
      desk.events.map fun event => (event.page.path, event.stage) := by
  rw [cues, events, List.filterMap_filterMap, List.map_filterMap]
  congr 1
  funext moment
  rcases moment.entry with _ | _ | _ | ⟨_ | _ | _⟩ | _ | _ | _ | _ <;> rfl

@[simp] theorem cues_note (desk : Desk) (entry : Entry) :
    (desk.note entry).cues = desk.cues ++ entry.cue?.toList := by
  rw [cues, journal_note, List.filterMap_append]
  cases h : entry.cue? <;> simp [cues, h]

theorem cues_clear (desk : Desk) : desk.clear.cues = desk.cues := by
  simp [clear, Entry.cue?]
  rfl

@[simp] theorem cues_store (desk : Desk) (name content : String) :
    (desk.store name content).cues = desk.cues := by
  simp [store, Entry.cue?]
  rfl

@[simp] theorem cues_enter (desk : Desk) (path : Path) : (desk.enter path).cues = desk.cues := by
  unfold enter
  dsimp only
  rw [cues_note]
  split
  · simp [cues_clear, Entry.cue?]
    rfl
  · simp [Entry.cue?]
    rfl

@[simp] theorem cues_leave (desk : Desk) (path : Path) : (desk.leave path).cues = desk.cues := by
  simp [leave, Entry.cue?]
  rfl

end Desk

/-- `find`, but for one name, which stands for a file. -/
def standIn (find : String → Option Path) (name : String) (file : Path) (other : String) :
    Option Path :=
  if other = name then some file else find other

theorem standIn_self (find : String → Option Path) (name : String) (file : Path) :
    standIn find name file name = some file := by
  simp [standIn]

theorem standIn_of_some {find : String → Option Path} {name other : String} {file file' : Path}
    (absent : find name = none) (found : find other = some file') :
    standIn find name file other = some file' := by
  have ne : other ≠ name := by
    rintro rfl
    rw [absent] at found
    cases found
  simp [standIn, ne, found]

namespace Engine

variable (engine : Engine)

theorem audible (execute : Execute) : (engine.host execute).Audible Desk.cues where
  seek _ _ := rfl
  fire event desk := Desk.cues_note desk _
  collected page body desk := Desk.cues_note desk _
  declare name content desk := by
    rw [Host.eval_declare]
    simp only [host]
    cases desk.sections.get? name <;> simp [Entry.cue?]
  supply name fallback desk := by
    rw [Host.eval_supply]
    simp [host, Entry.cue?]
  run name args desk := by
    simp [host, Run.eval_bind, Run.ofExcept, Entry.cue?]
  filter name value args desk := by
    simp [host, Run.eval_bind, Run.ofExcept, Entry.cue?]

theorem rendersBy {execute : Execute} {inner : Host Desk → Prop}
    (nested : ∀ path context buffer desk, Host.RendersFile inner Desk.cues path context buffer desk
      ((execute path context buffer).eval desk)) :
    (engine.host execute).RendersBy inner engine.find Desk.cues where
  toAudible := engine.audible execute
  missing absent context desk := by
    rw [host_render, renderBy_of_none absent]
    exact ⟨rfl, rfl⟩
  render present context desk := by
    rw [host_render, renderBy_of_some present]
    exact nested _ context "" desk
  renderLayout := nested

/-- All that an engine renders are pages. The induction is on the number of levels. -/
theorem rendersPages (levels : Nat) :
    (engine.host (engine.execute levels)).RendersPages engine.find Desk.cues := by
  induction levels with
  | zero =>
    refine .nest (fun _ => False) (engine.rendersBy fun path context buffer desk => ?_) nofun
    exact .refused rfl
  | succ levels ih =>
    refine .nest (· = engine.host (engine.execute levels)) (engine.rendersBy ?_) ?_
    · intro path context buffer desk
      by_cases room : desk.depth < engine.maxDepth
      · rw [eval_execute_of_room room]
        exact .page rfl (engine.path_page path buffer) (engine.buffer_page path buffer)
          (Desk.cues_enter desk path) (fun desk => Desk.cues_leave desk path) rfl
      · rw [eval_execute_of_full (by omega)]
        exact .refused rfl
    · rintro _ rfl
      exact ih

end Engine

/-- What has been said of a render of a file that ends with `result`: a word of the protocol, or
the start of one. But if a partial of it stands for no file, the last event is the one before that
partial, and this is the start of a word for any file that the name might stand for. -/
def Said (find : String → Option Path) (path : Path) (result : Except Error String)
    (cues : List Cue) : Prop :=
  match result with
  | .ok _ => Word find (.render path) cues
  | .error error =>
    (∃ word, Word find (.render path) word ∧ cues <+: word) ∨
    ∃ missing, error = .templateNotFound missing ∧ find missing = none ∧
      (∃ said last context, cues = said ++ [.fired last (.prepartial missing context)]) ∧
      ∀ file, ∃ word, Word (standIn find missing file) (.render path) word ∧ cues <+: word

theorem Speaks.said {find : String → Option Path} {path : Path} {before after : List Cue}
    {result : Except Error String} (speaks : Speaks find (.render path) before result after) :
    ∃ cues, after = before ++ cues ∧ Said find path result cues := by
  cases result with
  | ok output =>
    obtain ⟨cues, word, same⟩ := speaks
    exact ⟨cues, same, word⟩
  | error error =>
    obtain ⟨cues, cut, same⟩ := speaks
    refine ⟨cues, same, ?_⟩
    rcases cut.missing_or (.layoutNotFound "") with ⟨missing, rfl, absent, last⟩ | cut'
    · refine .inr ⟨missing, rfl, absent, last, ?_⟩
      intro file
      apply cut.exists_word
      · intro other file' found
        exact standIn_of_some absent found
      · intro other _ h
        cases h
        exact ⟨file, standIn_self _ _ _⟩
    · refine .inl (cut'.exists_word (fun _ _ found => found) ?_)
      intro other _ h
      cases h

/-- A render by name, of any host whose renders are heard as words. -/
theorem Host.Heard.said {σ : Type} {host : Host σ} {find : String → Option Path}
    {heard : σ → List Cue} (laws : host.Heard find heard) (name : String) (context : Fields)
    (world : σ) :
    let ended := (host.render name context).eval world
    find name = none ∧ ended.1 = .error (.templateNotFound name) ∧ heard ended.2 = heard world ∨
    ∃ path cues, find name = some path ∧ heard ended.2 = heard world ++ cues ∧
      Said find path ended.1 cues := by
  intro ended
  cases found : find name with
  | none => exact .inl ⟨rfl, laws.missing found context world⟩
  | some path =>
    obtain ⟨cues, same, said⟩ := (laws.render found context world).said
    exact .inr ⟨path, cues, rfl, same, said⟩

namespace Engine

variable (engine : Engine)

/-- What is heard of a render by name. A name that stands for no file is refused in silence. The
same holds of every host that renders files as pages, and of the render of a page with it. -/
theorem render_speaks :
    (∀ (name : String) (context : Fields) (desk : Desk),
      let ended := (engine.render name context).eval desk
      engine.find name = none ∧ ended = (.error (.templateNotFound name), desk) ∨
      ∃ path cues, engine.find name = some path ∧ ended.2.cues = desk.cues ++ cues ∧
        Said engine.find path ended.1 cues) ∧
    ∀ {σ : Type} (host : Host σ) (find : String → Option Path) (heard : σ → List Cue),
      host.RendersPages find heard →
      (∀ (name : String) (context : Fields) (world : σ),
        let ended := (host.render name context).eval world
        find name = none ∧ ended.1 = .error (.templateNotFound name) ∧
            heard ended.2 = heard world ∨
        ∃ path cues, find name = some path ∧ heard ended.2 = heard world ++ cues ∧
          Said find path ended.1 cues) ∧
      ∀ (page : Page) (context : Fields) (world : σ),
        let ended := (Session.ofPage page (Page.render host context)).eval world
        ∃ cues, heard ended.2 = heard world ++ cues ∧ Said find page.path ended.1 cues := by
  constructor
  · intro name context desk ended
    cases found : engine.find name with
    | none =>
      refine .inl ⟨rfl, ?_⟩
      simp only [ended, render, renderBy_of_none found, Run.eval_fail]
    | some path =>
      have laws := Host.Heard.of_rendersPages (engine.rendersPages (engine.maxDepth + 1))
      obtain ⟨absent, -⟩ | said := laws.said name context desk
      · cases found.symm.trans absent
      · rw [← found]
        exact .inr said
  · intro σ host find heard renders
    have laws := Host.Heard.of_rendersPages renders
    exact ⟨laws.said, fun page context world => (laws.speaks_render page context world).said⟩

/-! ## A partial that stands for no file -/

def insertMissing : String :=
  String.ofList (Piece.text ⟨[], "insert('missing')".toList⟩)

/-- An engine whose only file inserts a partial that stands for no file. -/
def danglingInsert : Engine where
  disk := ⟨.folder [("page.tpl", .file (some insertMissing))], []⟩
  finder := ⟨[""], ["tpl"]⟩
  commands := .empty true
  alias? := none
  maxDepth := 64

theorem find_page : danglingInsert.find "page" = some "page.tpl" := by decide +kernel

theorem find_missing : danglingInsert.find "missing" = none := by decide +kernel

theorem execute_insertMissing {σ : Type} (path : Path) (scope : Scope σ) :
    Body.execute path insertMissing scope = (do
      let value ← scope.invoke "insert" [.text "missing"]
      let shown ← Body.output path "insert('missing')".toList value
      pure (String.ofList shown)) := by
  have tags : scan insertMissing.toList = [⟨0, "insert('missing')".toList, 0, 1⟩] := by cbv
  have kind : Tag.kind ⟨0, "insert('missing')".toList, 0, 1⟩ =
      .expression "insert('missing')".toList := by cbv
  have read : Expr.read "insert('missing')".toList =
      .ok (.call "insert" [.literal (.text "missing")]) := by cbv
  have rest : insertMissing.toList.drop (Tag.stop ⟨0, "insert('missing')".toList, 0, 1⟩) = [] := by
    decide +kernel
  have lead : Body.lead insertMissing.toList 0 ⟨0, "insert('missing')".toList, 0, 1⟩ = [] := by
    decide +kernel
  rw [Body.execute, Body.runText, tags, Body.runTags_expression (Nat.zero_le _) rfl kind,
    Body.runTags, Body.trailing, rest, lead]
  simp only [Body.shownSource, Body.evaluateSource, read, Body.evaluate, Body.evaluateAll,
    Body.openBraces?]
  simp

/-- The event before the partial is sent. -/
theorem collect_danglingInsert (execute : Execute) (desk : Desk) :
    let page := danglingInsert.page "page.tpl" ""
    (Page.collect (danglingInsert.host execute)).eval ⟨page, desk⟩ =
      (.error (.templateNotFound "missing"),
        ⟨page, desk.note (.fired ⟨.prepartial "missing" [], page⟩)⟩) := by
  intro page
  have read : (danglingInsert.host execute).disk.read "page.tpl" = .ok insertMissing := rfl
  have name : Page.callName page "insert" = "insert" := rfl
  have operation : Operation.ofName? "insert" = some .insert := by decide
  have dispatch :
      (Page.dispatch (danglingInsert.host execute) "insert" [.text "missing"]).eval ⟨page, desk⟩ =
        (.error (.templateNotFound "missing"),
          ⟨page, desk.note (.fired ⟨.prepartial "missing" [], page⟩)⟩) := by
    unfold Page.dispatch
    rw [Run.eval_bind, Run.eval_look]
    simp only [name, operation, Page.operate]
    rw [Run.eval_bind]
    simp [Run.ofExcept, Page.textArg, Page.argument, Page.contextArg, Run.eval_bind, Page.insert,
      Session.fire, Session.outside, Run.within_apply, renderBy_of_none find_missing]
    rfl
  unfold Page.collect
  rw [Run.eval_bind, Run.eval_look]
  simp only [page, path_page, read]
  rw [execute_insertMissing, Run.eval_bind]
  simp only [Page.scope]
  rw [dispatch]

theorem eval_danglingInsert :
    let ended := (danglingInsert.render "page" []).eval Desk.empty
    ended.1 = .error (.templateNotFound "missing") ∧
      ended.2.cues =
        [.fired "page.tpl" .prerender, .fired "page.tpl" (.prepartial "missing" [])] := by
  intro ended
  have run : ended = (danglingInsert.executeOutermost "page.tpl" [] "").eval Desk.empty := by
    simp only [ended, render, renderBy_of_some find_page]
  have page : ({ danglingInsert.page "page.tpl" "" with context := [] } : Page) =
    danglingInsert.page "page.tpl" "" := rfl
  rw [executeOutermost, eval_execute_of_room (by decide)] at run
  rw [run]
  simp only [Session.ofPage, Page.render, Run.eval_bind, Session.updatePage, Session.fire,
    Run.onError, Run.eval_of, Run.eval_update, page, collect_danglingInsert]
  exact ⟨trivial, rfl⟩

/-- The host that this engine is for its pages renders them as pages, and says the start of a word
in which the name stands for a file. -/
theorem render_speaks_danglingInsert :
    let host := danglingInsert.host danglingInsert.executeOutermost
    host.RendersPages danglingInsert.find Desk.cues ∧
      Said danglingInsert.find "page.tpl" ((host.render "page" []).eval Desk.empty).1
        [.fired "page.tpl" .prerender, .fired "page.tpl" (.prepartial "missing" [])] := by
  intro host
  have renders : host.RendersPages danglingInsert.find Desk.cues :=
    danglingInsert.rendersPages (danglingInsert.maxDepth + 1)
  refine ⟨renders, ?_⟩
  obtain ⟨-, heard⟩ := eval_danglingInsert
  obtain ⟨absent, -⟩ | ⟨path, cues, found, same, said⟩ :=
    ((render_speaks danglingInsert).2 host danglingInsert.find Desk.cues renders).1 "page" []
      Desk.empty
  · cases find_page.symm.trans absent
  · obtain rfl : "page.tpl" = path := Option.some.inj (find_page.symm.trans found)
    obtain rfl : _ = cues := heard.symm.trans same
    exact said

/-- What is heard of a render that fails need not be the start of a word. -/
theorem not_start_of_word :
    let ended := (danglingInsert.render "page" []).eval Desk.empty
    (∃ error, ended.1 = .error error) ∧
      ¬ ∃ path word, Word danglingInsert.find (.render path) word ∧
        (ended.2.events.map fun event => (event.page.path, event.stage)) <+:
          word.filterMap Cue.event? := by
  intro ended
  rw [← Desk.filterMap_cues]
  obtain ⟨failed, heard⟩ := eval_danglingInsert
  refine ⟨⟨_, failed⟩, ?_⟩
  rintro ⟨path, word, said, start⟩
  have last : ("page.tpl", Stage.prepartial "missing" []) ∈ word.filterMap Cue.event? := by
    apply start.subset
    rw [heard]
    simp [Cue.event?]
  obtain ⟨cue, mem, event⟩ := List.mem_filterMap.mp last
  cases cue with
  | left path layout? => cases event
  | fired path stage =>
    cases event
    obtain ⟨file, found⟩ := said.found mem
    rw [find_missing] at found
    cases found

end Engine

end Folio
