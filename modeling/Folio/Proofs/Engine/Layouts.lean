import Folio.Proofs.Engine.Levels
import Folio.Proofs.Page.Buffer

/-! A page whose body asks for a layout is rendered as that layout around the output of the body,
and a layout may ask for a layout in its turn. So a render goes through a chain of files, of which
each body is executed once, with the output of the one before it as its buffer. -/

namespace Folio

/-- A file in a chain of layouts: the buffer that its body finds, the desk before the body and after
it, the calls in the body, and its output. -/
structure Link where
  path : Path
  buffer : String
  start : Desk
  calls : List Call
  body : String
  left : Desk

namespace Link

variable (engine : Engine) (context : Fields) (link : Link)

def page : Page :=
  { engine.page link.path link.buffer with context }

def layout? : Option Path :=
  (link.page engine context).layoutAfter engine.find link.calls

def pageLeft : Page :=
  { link.page engine context with layout? := link.layout? engine context }

def finished : Page :=
  { link.page engine context with buffer := link.body, layout? := none }

def collected : Desk :=
  link.left.note (.remarked (.collected (link.pageLeft engine context) link.body))

structure Executed : Prop where
  ran : (Page.collect engine.pageHost).eval ⟨link.page engine context, link.start⟩ =
    (.ok link.body, ⟨link.pageLeft engine context, link.left⟩)
  traced : (Page.collectTraced engine.pageHost).eval
      (⟨link.page engine context, link.start⟩, []) =
    (.ok link.body, ⟨link.pageLeft engine context, link.left⟩, link.calls)

/-- The body finds the buffer of the link: its page has it from the start, answers with it whatever
layout has been asked for and whatever has been done, and the body does what it would do if all of
its questions for the last buffer were answered with it. -/
structure Handed : Prop where
  buffer : (link.page engine context).buffer = link.buffer
  answers (layout? : Option Path) (desk : Desk) :
    Page.AnswersBuffer engine.pageHost ⟨{ link.page engine context with layout? }, desk⟩ link.buffer
  throughout : (Page.collectAnswering engine.pageHost link.buffer).eval
      ⟨link.page engine context, link.start⟩ =
    (.ok link.body, ⟨link.pageLeft engine context, link.left⟩)

variable {engine context link}

theorem Executed.handed (executed : link.Executed engine context) : link.Handed engine context where
  buffer := engine.buffer_page link.path link.buffer
  answers layout? desk := Page.answersBuffer engine.pageHost _
  throughout := by
    rw [← executed.ran]
    exact Page.eval_collectAnswering engine.pageHost ⟨link.page engine context, link.start⟩

end Link

namespace Engine

/-- The chain of a file that is rendered with a buffer: what its links are, what its output is, and
what becomes of the desk. -/
inductive Chain (engine : Engine) (context : Fields) :
    Path → String → Desk → List Link → String → Desk → Prop
  | last {link : Link} {desk : Desk} :
      link.start = (desk.enter link.path).note (.fired ⟨.prerender, link.page engine context⟩) →
      link.Executed engine context → link.layout? engine context = none →
      Chain engine context link.path link.buffer desk [link] link.body
        (((link.collected engine context).note
          (.fired ⟨.rendered, link.finished engine context⟩)).leave link.path)
  | wrapped {link : Link} {desk : Desk} {next : Path} {links : List Link} {output : String}
      {after : Desk} :
      link.start = (desk.enter link.path).note (.fired ⟨.prerender, link.page engine context⟩) →
      link.Executed engine context → link.layout? engine context = some next →
      Chain engine context next link.body
        ((link.collected engine context).note
          (.fired ⟨.layout next, link.finished engine context⟩)) links output after →
      Chain engine context link.path link.buffer desk (link :: links) output
        (((after.note (.fired ⟨.renderlayout next, link.finished engine context⟩)).note
          (.fired ⟨.rendered, link.finished engine context⟩)).leave link.path)

variable {engine : Engine} {context : Fields}

/-! ## The render of a page in a chain -/

section
variable {link : Link} {opened : Desk}

theorem eval_render_of_last
    (start : link.start = opened.note (.fired ⟨.prerender, link.page engine context⟩))
    (executed : link.Executed engine context) (last : link.layout? engine context = none) :
    (Page.render engine.pageHost context).eval ⟨engine.page link.path link.buffer, opened⟩ =
      (.ok link.body, ⟨link.finished engine context, (link.collected engine context).note
        (.fired ⟨.rendered, link.finished engine context⟩)⟩) := by
  have ran := executed.ran
  rw [start] at ran
  exact Page.eval_render_bare ran last

theorem eval_render_of_wrapped
    (start : link.start = opened.note (.fired ⟨.prerender, link.page engine context⟩))
    (executed : link.Executed engine context) {next : Path}
    (wrapped : link.layout? engine context = some next) {output : String} {after : Desk}
    (nested : (engine.executeOutermost next context link.body).eval
      ((link.collected engine context).note
        (.fired ⟨.layout next, link.finished engine context⟩)) = (.ok output, after)) :
    (Page.render engine.pageHost context).eval ⟨engine.page link.path link.buffer, opened⟩ =
      (.ok output, ⟨link.finished engine context,
        (after.note (.fired ⟨.renderlayout next, link.finished engine context⟩)).note
          (.fired ⟨.rendered, link.finished engine context⟩)⟩) := by
  have ran := executed.ran
  rw [start] at ran
  exact Page.eval_render_wrapped ran wrapped nested

/-- A page whose render succeeds is a link. -/
theorem exists_link {path : Path} {buffer output : String} {ended : Session Desk}
    (h : (Page.render engine.pageHost context).eval ⟨engine.page path buffer, opened⟩ =
      (.ok output, ended)) :
    ∃ link : Link, link.path = path ∧ link.buffer = buffer ∧
      link.start = opened.note (.fired ⟨.prerender, link.page engine context⟩) ∧
      link.Executed engine context := by
  let page : Page := { engine.page path buffer with context }
  let start : Desk := opened.note (.fired ⟨.prerender, page⟩)
  obtain ⟨body, left, ran⟩ := Page.collect_of_render h
  change (Page.collect engine.pageHost).eval ⟨page, start⟩ = (.ok body, left) at ran
  have same := Page.collect_traced engine.pageHost ⟨page, start⟩ []
  cases traced : (Page.collectTraced engine.pageHost).eval (⟨page, start⟩, []) with
  | mk result rest =>
    obtain ⟨session, calls⟩ := rest
    rw [traced, ran, Prod.mk.injEq] at same
    obtain ⟨rfl, rfl⟩ := same
    have page : left.page = page.after engine.find calls :=
      Page.page_collectTraced (fun _ _ => rfl) traced
    obtain ⟨_, world⟩ := left
    subst page
    exact ⟨⟨path, buffer, start, calls, body, world⟩, rfl, rfl, rfl, ran, traced⟩

end

/-! ## Chains -/

theorem depth_left {link : Link} (executed : link.Executed engine context) :
    link.left.depth = link.start.depth :=
  depth_of_collect (engine.depth_execute (engine.maxDepth + 1)) executed.ran

theorem depth_collected {link : Link} {desk : Desk} {event : Event}
    (start : link.start = (desk.enter link.path).note (.fired event))
    (executed : link.Executed engine context) :
    (link.collected engine context).depth = desk.depth + 1 := by
  rw [Link.collected, Desk.depth_note, depth_left executed, start, Desk.depth_note,
    Desk.depth_enter]

/-- A render that succeeds is a chain. The induction is on the number of files that may still be
opened. -/
theorem exists_chain {path : Path} {buffer output : String} {desk after : Desk}
    (h : (engine.executeOutermost path context buffer).eval desk = (.ok output, after)) :
    ∃ links, Chain engine context path buffer desk links output after ∧
      desk.depth + links.length ≤ engine.maxDepth := by
  induction left : engine.maxDepth - desk.depth generalizing path buffer desk output after with
  | zero =>
    rw [eval_outermost_of_full (by omega)] at h
    cases h
  | succ left ih =>
    have room : desk.depth < engine.maxDepth := by omega
    rw [eval_outermost_of_room room] at h
    cases ran : (Page.render engine.pageHost context).eval
        ⟨engine.page path buffer, desk.enter path⟩ with
    | mk result ended =>
      simp only [Session.ofPage, Run.eval_of, ran, Prod.mk.injEq] at h
      obtain ⟨rfl, rfl⟩ := h
      obtain ⟨link, rfl, rfl, start, executed⟩ := exists_link ran
      cases wrapped : link.layout? engine context with
      | none =>
        rw [eval_render_of_last start executed wrapped] at ran
        cases ran
        exact ⟨[link], .last start executed wrapped, room⟩
      | some next =>
        cases nested : (engine.executeOutermost next context link.body).eval
            ((link.collected engine context).note
              (.fired ⟨.layout next, link.finished engine context⟩)) with
        | mk result inner =>
          obtain error | value := result
          · have broken := executed.ran
            rw [start] at broken
            rw [Page.eval_render_broken broken wrapped nested] at ran
            cases ran
          · rw [eval_render_of_wrapped start executed wrapped nested] at ran
            cases ran
            have depth := depth_collected start executed
            obtain ⟨links, chain, bound⟩ := ih nested (by rw [Desk.depth_note]; omega)
            rw [Desk.depth_note] at bound
            refine ⟨link :: links, .wrapped start executed wrapped chain, ?_⟩
            rw [List.length_cons]
            omega

namespace Chain

variable {path : Path} {buffer output : String} {desk after : Desk} {links : List Link}

theorem first (chain : Chain engine context path buffer desk links output after) :
    ∃ link rest, links = link :: rest ∧ link.path = path ∧ link.buffer = buffer ∧
      link.start = (desk.enter path).note (.fired ⟨.prerender, link.page engine context⟩) := by
  cases chain with
  | last start _ _ => exact ⟨_, _, rfl, rfl, rfl, start⟩
  | wrapped start _ _ _ => exact ⟨_, _, rfl, rfl, rfl, start⟩

theorem executed (chain : Chain engine context path buffer desk links output after) :
    ∀ link ∈ links, link.Executed engine context := by
  induction chain with
  | last _ executed _ => exact List.forall_mem_singleton.mpr executed
  | wrapped _ executed _ _ ih => exact List.forall_mem_cons.mpr ⟨executed, ih⟩

/-- The chain ends with the first body that asks for no layout, of which the output is that of the
chain. -/
theorem ends (chain : Chain engine context path buffer desk links output after) :
    ∃ link, links.getLast? = some link ∧ link.layout? engine context = none ∧
      link.body = output := by
  induction chain with
  | last _ _ last => exact ⟨_, rfl, last, rfl⟩
  | wrapped _ _ _ chain ih =>
    obtain ⟨head, rest, rfl, -⟩ := chain.first
    exact ih

/-- Every other body is followed by the layout that it asks for, which finds its output and the
sections as it leaves them. -/
theorem next (chain : Chain engine context path buffer desk links output after) :
    links.IsChain fun link next => link.layout? engine context = some next.path ∧
      next.buffer = link.body ∧ next.start.sections = link.left.sections := by
  induction chain with
  | last => exact .singleton _
  | @wrapped link _ _ _ _ _ start executed wrapped chain ih =>
    obtain ⟨head, rest, rfl, rfl, buffer, start'⟩ := chain.first
    have depth := depth_collected start executed
    refine .cons_cons ⟨wrapped, buffer, ?_⟩ ih
    rw [start', Desk.sections_note, Desk.enter_of_pos _ (by rw [Desk.depth_note]; omega)]
    rfl

/-- A chain for which there is room is what the engine renders. -/
theorem eval (chain : Chain engine context path buffer desk links output after)
    (bound : desk.depth + links.length ≤ engine.maxDepth) :
    (engine.executeOutermost path context buffer).eval desk = (.ok output, after) := by
  induction chain with
  | last start executed last =>
    rw [eval_outermost_of_room bound]
    simp only [Session.ofPage, Run.eval_of, eval_render_of_last start executed last]
  | wrapped start executed wrapped chain ih =>
    have depth := depth_collected start executed
    rw [List.length_cons] at bound
    have nested := ih (by rw [Desk.depth_note]; omega)
    rw [eval_outermost_of_room (by omega)]
    simp only [Session.ofPage, Run.eval_of, eval_render_of_wrapped start executed wrapped nested]

/-- The page of every file in the chain ends with the output of its own body as its buffer. -/
theorem rendered (chain : Chain engine context path buffer desk links output after)
    (bound : desk.depth + links.length ≤ engine.maxDepth) :
    ∀ link ∈ links, ∃ opened ended,
      link.start = opened.note (.fired ⟨.prerender, link.page engine context⟩) ∧
      (Page.render engine.pageHost context).eval ⟨engine.page link.path link.buffer, opened⟩ =
        (.ok output, ended) ∧
      ended.page.buffer = link.body ∧ Page.AnswersBuffer engine.pageHost ended link.body := by
  induction chain with
  | last start executed last =>
    have ran := eval_render_of_last start executed last
    exact List.forall_mem_singleton.mpr ⟨_, _, start, ran, rfl, Page.answersBuffer _ _⟩
  | @wrapped link desk next links output after start executed wrapped chain ih =>
    have depth := depth_collected start executed
    rw [List.length_cons] at bound
    have inner : ((link.collected engine context).note
        (.fired ⟨.layout next, link.finished engine context⟩)).depth + links.length ≤
          engine.maxDepth := by
      rw [Desk.depth_note]
      omega
    have ran := eval_render_of_wrapped start executed wrapped (chain.eval inner)
    exact List.forall_mem_cons.mpr ⟨⟨_, _, start, ran, rfl, Page.answersBuffer _ _⟩, ih inner⟩

end Chain

/-- What is in the chain of a file that is rendered with a buffer. -/
structure LayoutChain (engine : Engine) (context : Fields) (path : Path) (buffer : String)
    (desk : Desk) (links : List Link) (output : String) (after : Desk) : Prop where
  /-- The desk goes through the body of every link once, in their order, and through events. -/
  whole : Chain engine context path buffer desk links output after
  first : ∃ link rest, links = link :: rest ∧ link.path = path ∧ link.buffer = buffer
  executed : ∀ link ∈ links, link.Executed engine context
  handed : ∀ link ∈ links, link.Handed engine context
  next : links.IsChain fun link next => link.layout? engine context = some next.path ∧
    next.buffer = link.body ∧ next.start.sections = link.left.sections
  ends : ∃ link, links.getLast? = some link ∧ link.layout? engine context = none ∧
    link.body = output
  rendered : ∀ link ∈ links, ∃ opened ended,
    link.start = opened.note (.fired ⟨.prerender, link.page engine context⟩) ∧
    (Page.render engine.pageHost context).eval ⟨engine.page link.path link.buffer, opened⟩ =
      (.ok output, ended) ∧
    ended.page.buffer = link.body ∧ Page.AnswersBuffer engine.pageHost ended link.body
  bound : desk.depth + links.length ≤ engine.maxDepth

theorem layout_of_leaves {link : Link} {layout? : Option Path}
    (leaves : engine.Leaves link.path context layout?) (executed : link.Executed engine context) :
    link.layout? engine context = layout? := by
  obtain ⟨body, left, after, ran, same⟩ := leaves engine.executeOutermost link.buffer link.start
  cases executed.ran.symm.trans ran
  exact same

theorem LayoutChain.paths {path next : Path} {buffer output : String} {desk after : Desk}
    {links : List Link}
    (chain : LayoutChain engine context path buffer desk links output after)
    (leaves : engine.Leaves path context (some next)) (last : engine.Leaves next context none) :
    links.map Link.path = [path, next] := by
  obtain ⟨whole, ⟨first, rest, rfl, rfl, -⟩, executed, -, row, ends, -, -⟩ := chain
  have wrapped := layout_of_leaves leaves (executed first (by simp))
  cases rest with
  | nil =>
    obtain ⟨final, same, bare, -⟩ := ends
    cases same
    cases wrapped.symm.trans bare
  | cons second more =>
    obtain ⟨⟨asked, -⟩, row⟩ := List.isChain_cons_cons.mp row
    obtain rfl : second.path = next := Option.some.inj (asked.symm.trans wrapped)
    have bare := layout_of_leaves last (executed second (by simp))
    cases more with
    | nil => rfl
    | cons third more =>
      obtain ⟨⟨asked, -⟩, -⟩ := List.isChain_cons_cons.mp row
      cases asked.symm.trans bare

theorem layoutChain_of_execute {path : Path} {buffer output : String} {desk after : Desk}
    (h : (engine.executeOutermost path context buffer).eval desk = (.ok output, after)) :
    ∃ links, LayoutChain engine context path buffer desk links output after := by
  obtain ⟨links, chain, bound⟩ := exists_chain h
  obtain ⟨link, rest, same, onPath, onBuffer, -⟩ := chain.first
  have executed := chain.executed
  exact ⟨links, chain, ⟨link, rest, same, onPath, onBuffer⟩, executed,
    fun link member => (executed link member).handed, chain.next, chain.ends,
    chain.rendered bound, bound⟩

/-- The file of a template that is rendered has a chain. -/
theorem layoutChain_of_render {name output : String} {desk after : Desk}
    (h : (engine.render name context).eval desk = (.ok output, after)) :
    ∃ path links, engine.find name = some path ∧
      LayoutChain engine context path "" desk links output after := by
  cases found : engine.find name with
  | none =>
    rw [render, renderBy_of_none found] at h
    cases h
  | some path =>
    rw [render, renderBy_of_some found] at h
    obtain ⟨links, chain⟩ := layoutChain_of_execute h
    exact ⟨path, links, rfl, chain⟩

/-- So has a partial, between its two events. -/
theorem layoutChain_of_insert {name output : String} {session ended : Session Desk}
    (h : (Page.insert engine.pageHost name context).eval session = (.ok output, ended)) :
    ∃ path links after, engine.find name = some path ∧
      LayoutChain engine context path ""
        (session.world.note (.fired ⟨.prepartial name context, session.page⟩)) links output after ∧
      ended = ⟨session.page, after.note (.fired ⟨.afterpartial, session.page⟩)⟩ := by
  obtain ⟨_, start, opened, h⟩ := Run.exists_of_bind_ok h
  cases opened
  obtain ⟨rendered, between, inside, h⟩ := Run.exists_of_bind_ok h
  have render : engine.pageHost.render name context = engine.render name context := rfl
  rw [Session.outside, Run.within_apply, render] at inside
  cases nested : (engine.render name context).eval
      (session.world.note (.fired ⟨.prepartial name context, session.page⟩)) with
  | mk result after =>
    cases (congrArg (fun ended => (ended.1, Session.mk session.page ended.2)) nested).symm.trans
      inside
    cases h
    obtain ⟨path, links, found, chain⟩ := layoutChain_of_render nested
    exact ⟨path, links, after, found, chain, rfl⟩

variable (engine)

/-- The output of a render that succeeds is that of the first body without a layout, in a chain that
starts with the file of the name and an empty buffer, whatever is open and done already. A file that
is rendered with a buffer has such a chain, and a partial has one of its own, under its context. -/
theorem layout_chain :
    (∀ (path : Path) (context : Fields) (buffer output : String) (desk after : Desk),
      (engine.executeOutermost path context buffer).eval desk = (.ok output, after) →
        ∃ links, LayoutChain engine context path buffer desk links output after) ∧
    (∀ (name : String) (context : Fields) (output : String) (desk after : Desk),
      (engine.render name context).eval desk = (.ok output, after) →
        ∃ path links, engine.find name = some path ∧
          LayoutChain engine context path "" desk links output after) ∧
    ∀ (name : String) (context : Fields) (output : String) (session ended : Session Desk),
      (Page.insert engine.pageHost name context).eval session = (.ok output, ended) →
        ∃ path links after, engine.find name = some path ∧
          LayoutChain engine context path ""
            (session.world.note (.fired ⟨.prepartial name context, session.page⟩)) links output
            after ∧
          ended = ⟨session.page, after.note (.fired ⟨.afterpartial, session.page⟩)⟩ :=
  ⟨fun _ _ _ _ _ _ => layoutChain_of_execute, fun _ _ _ _ _ => layoutChain_of_render,
    fun _ _ _ _ _ => layoutChain_of_insert⟩

theorem layout_chain_threeFiles : ∃ output after links,
    ((threeFiles 3).executeOutermost "b.tpl" [] "").eval Desk.empty = (.ok output, after) ∧
      LayoutChain (threeFiles 3) [] "b.tpl" "" Desk.empty links output after ∧
      links.map Link.path = ["b.tpl", "c.tpl"] := by
  have chained : (threeFiles 3).Chained "b.tpl" [] 2 :=
    .layout (leaves_threeFiles 3) (.last (last_threeFiles 3))
  obtain ⟨output, rendered⟩ := (chained.takes "" Desk.empty).fits (by decide)
  cases ran : ((threeFiles 3).executeOutermost "b.tpl" [] "").eval Desk.empty with
  | mk result after =>
    rw [ran] at rendered
    cases rendered
    obtain ⟨links, chain⟩ := (layout_chain (threeFiles 3)).1 _ _ _ _ _ _ ran
    exact ⟨output, after, links, rfl, chain,
      chain.paths (leaves_threeFiles 3) (last_threeFiles 3)⟩

end Engine

end Folio
