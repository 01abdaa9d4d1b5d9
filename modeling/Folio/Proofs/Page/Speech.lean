import Folio.Proofs.Page.Bond
import Folio.Proofs.Page.Protocol

namespace Folio

/-- What a run adds to what was heard before it: a word, or one that breaks off with its error. -/
def Speaks (find : String → Option Path) (symbol : Symbol) (before : List Cue) {α : Type} :
    Except Error α → List Cue → Prop
  | .ok _, after => ∃ cues, Word find symbol cues ∧ after = before ++ cues
  | .error error, after => ∃ cues, Cut find error symbol cues ∧ after = before ++ cues

/-- A host of whose state `heard` is what was heard so far: the events of its pages and what their
bodies leave, and nothing else that is done for a page. -/
structure Host.Audible {σ : Type} (host : Host σ) (heard : σ → List Cue) : Prop where
  seek (name : String) (world : σ) : heard ((host.seek name).eval world).2 = heard world
  fire (event : Event) (world : σ) :
    heard (host.fire event world) = heard world ++ [.fired event.page.path event.stage]
  collected (page : Page) (body : String) (world : σ) :
    heard (host.note (.collected page body) world) = heard world ++ [.left page.path page.layout?]
  declare (name content : String) (world : σ) :
    heard ((host.declare name content).eval world).2 = heard world
  supply (name fallback : String) (world : σ) :
    heard ((host.supply name fallback).eval world).2 = heard world
  run (name : String) (args : List Value) (world : σ) :
    heard ((host.run name args).eval world).2 = heard world
  filter (name : String) (value : Value) (args : List Value) (world : σ) :
    heard ((host.filter name value args).eval world).2 = heard world

/-- A host for which names stand for files by `find`, and whose renders are heard as words. -/
structure Host.Heard {σ : Type} (host : Host σ) (find : String → Option Path)
    (heard : σ → List Cue) : Prop extends host.Audible heard where
  missing {name : String} (absent : find name = none) (context : Fields) (world : σ) :
    ((host.render name context).eval world).1 = .error (.templateNotFound name) ∧
      heard ((host.render name context).eval world).2 = heard world
  render {name : String} {file : Path} (present : find name = some file) (context : Fields)
    (world : σ) : Speaks find (.render file) (heard world)
      ((host.render name context).eval world).1 (heard ((host.render name context).eval world).2)
  renderLayout (path : Path) (context : Fields) (buffer : String) (world : σ) :
    Speaks find (.render path) (heard world) ((host.renderLayout path context buffer).eval world).1
      (heard ((host.renderLayout path context buffer).eval world).2)

/-- How the render of a file ends that is the render of a page, unless it is refused. The page is
rendered with a host out of `inner`; what is done before it and after it is not heard. -/
inductive Host.RendersFile {σ : Type} (inner : Host σ → Prop) (heard : σ → List Cue) (path : Path)
    (context : Fields) (buffer : String) (world : σ) : Except Error String × σ → Prop
  | refused {error : Error} {after : σ} : heard after = heard world →
      RendersFile inner heard path context buffer world (.error error, after)
  | page {host : Host σ} {page : Page} {opened left : σ} {close : σ → σ}
      {result : Except Error String} : inner host → page.path = path → page.buffer = buffer →
      heard opened = heard world → (∀ world, heard (close world) = heard world) →
      (Session.ofPage page (Page.render host context)).eval opened = (result, left) →
      RendersFile inner heard path context buffer world (result, close left)

/-- A host that renders the files of names and layouts as pages, with hosts out of `inner`. -/
structure Host.RendersBy {σ : Type} (host : Host σ) (inner : Host σ → Prop)
    (find : String → Option Path) (heard : σ → List Cue) : Prop extends host.Audible heard where
  missing {name : String} (absent : find name = none) (context : Fields) (world : σ) :
    ((host.render name context).eval world).1 = .error (.templateNotFound name) ∧
      heard ((host.render name context).eval world).2 = heard world
  render {name : String} {file : Path} (present : find name = some file) (context : Fields)
    (world : σ) :
    RendersFile inner heard file context "" world ((host.render name context).eval world)
  renderLayout (path : Path) (context : Fields) (buffer : String) (world : σ) :
    RendersFile inner heard path context buffer world
      ((host.renderLayout path context buffer).eval world)

/-- A host that renders all files as pages, however deep they are nested in one another. -/
inductive Host.RendersPages {σ : Type} (find : String → Option Path) (heard : σ → List Cue) :
    Host σ → Prop
  | nest {host : Host σ} (inner : Host σ → Prop) : host.RendersBy inner find heard →
      (∀ other, inner other → RendersPages find heard other) → RendersPages find heard host

variable {σ α : Type} {find : String → Option Path} {heard : σ → List Cue}

theorem Speaks.silent {path : Path} {before after : List Cue} (h : after = before)
    (result : Except Error α) : Speaks find (.partials path) before result after := by
  cases result with
  | error error => exact ⟨[], .here, by simpa using h⟩
  | ok value => exact ⟨[], .nil, by simpa using h⟩

theorem Speaks.prepend {path : Path} {before cues after : List Cue} {result : Except Error α}
    (word : Word find (.partials path) cues)
    (h : Speaks find (.partials path) (before ++ cues) result after) :
    Speaks find (.partials path) before result after := by
  cases result with
  | error error =>
    obtain ⟨more, cut, same⟩ := h
    exact ⟨cues ++ more, .append word cut, by rw [same, List.append_assoc]⟩
  | ok value =>
    obtain ⟨more, word', same⟩ := h
    exact ⟨cues ++ more, word.append word', by rw [same, List.append_assoc]⟩

/-- The runs of the body of a file: they stay on the page of the file and are heard as partials. -/
def speech (find : String → Option Path) (heard : σ → List Cue) (path : Path) :
    Bond (Session σ) (Session σ) where
  holds run _ := ∀ session, session.page.path = path →
    (run.eval session).2.page.path = path ∧
      Speaks find (.partials path) (heard session.world) (run.eval session).1
        (heard (run.eval session).2.world)
  pure _ _ on := ⟨on, .silent rfl _⟩
  fail _ _ on := ⟨on, .silent rfl _⟩
  bind := by
    intro α β run _ next _ first second session on
    obtain ⟨on', said⟩ := first session on
    rw [Run.eval_bind]
    generalize run.eval session = ended at on' said ⊢
    obtain ⟨error | value, after⟩ := ended
    · exact ⟨on', said⟩
    · obtain ⟨cues, word, same⟩ := said
      obtain ⟨on'', more⟩ := second value after on'
      dsimp only at same
      rw [same] at more
      exact ⟨on'', more.prepend word⟩

theorem speech_look {path : Path} (f : Page → α) :
    (speech find heard path).holds (Run.look fun session => f session.page)
      (Run.look fun session => f session.page) :=
  fun _ on => ⟨on, .silent rfl _⟩

theorem speech_outside {path : Path} {run : Run σ α}
    (h : ∀ world, heard (run.eval world).2 = heard world) :
    (speech find heard path).holds (Session.outside run) (Session.outside run) :=
  fun session on => ⟨on, .silent (h session.world) _⟩

namespace Host.Heard

variable {host : Host σ} (laws : host.Heard find heard) {path : Path}
include laws

theorem speech_insert (name : String) (context : Fields) :
    (speech find heard path).holds (Page.insert host name context)
      (Page.insert host name context) := by
  rintro ⟨page, world⟩ on
  dsimp only at on
  have opened := laws.fire ⟨.prepartial name context, page⟩ world
  simp only [on] at opened
  unfold Page.insert
  rw [Run.eval_bind]
  simp only [Session.fire, Run.eval_update]
  rw [Run.eval_bind]
  simp only [Session.outside, Run.within_apply]
  generalize host.fire ⟨.prepartial name context, page⟩ world = before at opened ⊢
  cases present : find name with
  | none =>
    obtain ⟨result, same⟩ := laws.missing present context before
    rw [result]
    refine ⟨on, _, .missing context present rfl, ?_⟩
    dsimp only
    rw [same, opened]
  | some file =>
    have said := laws.render present context before
    generalize (host.render name context).eval before = ended at said ⊢
    obtain ⟨error | rendered, after⟩ := ended
    · obtain ⟨cues, cut, same⟩ := said
      refine ⟨on, _, .inside context present cut, ?_⟩
      dsimp only at same ⊢
      rw [same, opened, List.append_assoc, List.singleton_append]
    · obtain ⟨cues, word, same⟩ := said
      have closed := laws.fire ⟨.afterpartial, page⟩ after
      simp only [on] at closed
      refine ⟨on, _, .cons context present word .nil, ?_⟩
      dsimp only at same ⊢
      rw [Run.eval_bind]
      simp only [Run.eval_update, Run.eval_pure]
      rw [closed, same, opened]
      simp

theorem calls : (speech find heard path).Calls host host where
  disk := rfl
  look := speech_look
  setLayout name := by
    apply (speech find heard path).bind (speech_outside (laws.seek name))
    rintro (_ | file)
    · exact (speech find heard path).fail _
    · exact fun _ on => ⟨on, .silent rfl _⟩
  supply name fallback := by
    apply (speech find heard path).bind (speech_look fallback)
    intro own
    exact speech_outside (laws.supply name own)
  declare name content := speech_outside (laws.declare name content)
  insert := laws.speech_insert
  insertIf name context := by
    apply (speech find heard path).bind (speech_outside (laws.seek name))
    rintro (_ | file)
    · exact (speech find heard path).pure ""
    · exact laws.speech_insert name context
  run name args := speech_outside (laws.run name args)
  filter name value args := speech_outside (laws.filter name value args)

theorem speaks_wrap {before body : List Cue} (session : Session σ) (on : session.page.path = path)
    (word : Word find (.partials path) body) (context : Fields) (buffer : String)
    (layout? : Option Path)
    (left : heard session.world =
      before ++ .fired path .prerender :: (body ++ [.left path layout?])) :
    let wrapped := (do
      let output ← Page.wrap host context buffer layout?
      Session.fire host .rendered
      pure output : Run (Session σ) String).eval session
    Speaks find (.render path) before wrapped.1 (heard wrapped.2.world) := by
  obtain ⟨page, world⟩ := session
  dsimp only at on left ⊢
  rw [Run.eval_bind]
  cases layout? with
  | none =>
    have rendered := laws.fire ⟨.rendered, page⟩ world
    refine ⟨_, .plain word, ?_⟩
    simp only [Page.wrap, Run.eval_pure, Run.eval_bind, Session.fire, Run.eval_update]
    rw [rendered, left, on]
    simp
  | some layout =>
    have opened := laws.fire ⟨.layout layout, page⟩ world
    simp only [Page.wrap, Run.eval_bind, Session.fire, Run.eval_update, Session.outside,
      Run.within_apply]
    generalize host.fire ⟨.layout layout, page⟩ world = inside at opened ⊢
    have said := laws.renderLayout layout context buffer inside
    generalize (host.renderLayout layout context buffer).eval inside = ended at said ⊢
    obtain ⟨error | rendered, after⟩ := ended
    · obtain ⟨around, cut, same⟩ := said
      refine ⟨_, .layout word cut, ?_⟩
      dsimp only at same ⊢
      rw [same, opened, left, on]
      simp
    · obtain ⟨around, word', same⟩ := said
      have closed := laws.fire ⟨.renderlayout layout, page⟩ after
      have last := laws.fire ⟨.rendered, page⟩ (host.fire ⟨.renderlayout layout, page⟩ after)
      refine ⟨_, .wrapped word word', ?_⟩
      dsimp only at same ⊢
      simp only [Run.eval_pure]
      rw [last, closed, same, opened, left, on]
      simp

/-- What the render of a page does is heard as a render. -/
theorem speaks_render (page : Page) (context : Fields) (world : σ) :
    let ended := (Session.ofPage page (Page.render host context)).eval world
    Speaks find (.render page.path) (heard world) ended.1 (heard ended.2) := by
  have opened := laws.fire ⟨.prerender, { page with context }⟩ world
  simp only [Session.ofPage, Run.eval_of]
  unfold Page.render
  rw [Run.eval_bind]
  simp only [Session.updatePage, Run.eval_update]
  rw [Run.eval_bind]
  simp only [Session.fire, Run.eval_update]
  rw [Run.eval_bind]
  simp only [Run.onError, Run.eval_of]
  generalize host.fire ⟨.prerender, { page with context }⟩ world = before at opened ⊢
  have calls : (speech find heard page.path).Calls host host := laws.calls
  obtain ⟨on, said⟩ := calls.collect ⟨{ page with context }, before⟩ rfl
  generalize (Page.collect host).eval ⟨{ page with context }, before⟩ = ended at on said ⊢
  obtain ⟨error | body, session⟩ := ended
  · obtain ⟨cues, cut, same⟩ := said
    refine ⟨_, .body cut, ?_⟩
    dsimp only at same ⊢
    rw [same, opened]
    simp
  · obtain ⟨cues, word, same⟩ := said
    have left := laws.collected session.page body session.world
    dsimp only at on same ⊢
    have before' : heard (host.note (.collected session.page body) session.world) =
        heard world ++
          .fired page.path .prerender :: (cues ++ [.left page.path session.page.layout?]) := by
      rw [left, same, opened, on]
      simp
    exact laws.speaks_wrap ⟨{ session.page with buffer := body, layout? := none }, _⟩ on word
      context body session.page.layout? before'

end Host.Heard

namespace Host

variable {host : Host σ} {inner : Host σ → Prop}

theorem RendersFile.speaks {path : Path} {context : Fields} {buffer : String} {world : σ}
    {ended : Except Error String × σ} (laws : ∀ other, inner other → other.Heard find heard)
    (renders : RendersFile inner heard path context buffer world ended) :
    Speaks find (.render path) (heard world) ended.1 (heard ended.2) := by
  cases renders with
  | refused silent => exact ⟨[], .refused, by simpa using silent⟩
  | @page other page opened left close result member onPath _ opens closes ran =>
    have said := (laws other member).speaks_render page context opened
    simp only [ran, onPath, opens] at said
    rwa [← closes left] at said

/-- If all that a host renders are pages, whatever it renders is heard as words. The induction is on
how deep pages are nested. -/
theorem Heard.of_rendersPages (renders : host.RendersPages find heard) : host.Heard find heard := by
  induction renders with
  | nest inner renders _ laws =>
    exact {
      toAudible := renders.toAudible
      missing := renders.missing
      render := fun present context world => (renders.render present context world).speaks laws
      renderLayout := fun path context buffer world =>
        (renders.renderLayout path context buffer world).speaks laws }

end Host

end Folio
