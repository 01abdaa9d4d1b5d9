import Folio.Proofs.Body.Rescan
import Folio.Proofs.Engine.Steps
import Mathlib

namespace Folio

namespace Engine

section
variable (engine : Engine) (path : Path) (context : Fields)

/-- The body of a file cannot fail, renders no other file and leaves a layout, if any. How other
files are rendered does not matter to it. -/
def Leaves (layout? : Option Path) : Prop :=
  ∀ (execute : Execute) (buffer : String) (desk : Desk), ∃ body left after,
    (Page.collect (engine.host execute)).eval ⟨{ engine.page path buffer with context }, desk⟩ =
      (.ok body, ⟨left, after⟩) ∧ left.layout? = layout?

/-- The body of a file renders one other file under some context, cannot fail but with that file,
and leaves no layout. What it does before that does not depend on how the file is rendered. -/
def Inserts (next : Path) (nextContext : Fields) : Prop :=
  ∀ (buffer : String) (desk : Desk), ∃ asked : Desk, ∀ execute : Execute,
    match (execute next nextContext "").eval asked with
    | (.ok _, _) => ∃ body left after,
        (Page.collect (engine.host execute)).eval
          ⟨{ engine.page path buffer with context }, desk⟩ = (.ok body, ⟨left, after⟩) ∧
        left.layout? = none
    | (.error error, after) => ∃ left,
        (Page.collect (engine.host execute)).eval
          ⟨{ engine.page path buffer with context }, desk⟩ = (.error error, ⟨left, after⟩)

end

variable {engine : Engine} {path : Path}

/-- The text of a file is one tag, which calls by a name with one text. -/
def OneCall (engine : Engine) (path : Path) (name arg : String) : Prop :=
  ∃ content source,
    engine.disk.read path = .ok (String.ofList (Piece.mk [] content).text) ∧
    (Piece.mk [] content).Proper ∧ (Piece.mk [] content).kind = .expression source ∧
    Expr.read source = .ok (.call name [.literal (.text arg)])

theorem OneCall.eval_collect {name arg : String} (page : Page)
    (one : engine.OneCall page.path name arg) (execute : Execute) (desk : Desk) : ∃ source,
    (Page.collect (engine.host execute)).eval ⟨page, desk⟩ =
      (do
        let value ← Page.dispatch (engine.host execute) name [.text arg]
        let shown ← Body.output page.path source value
        pure (String.ofList shown)).eval ⟨page, desk⟩ := by
  obtain ⟨content, source, read, proper, kind, call⟩ := one
  refine ⟨source, ?_⟩
  have disk : (engine.host execute).disk = engine.disk := rfl
  unfold Page.collect
  rw [Run.eval_bind, Run.eval_look]
  simp only [disk, read]
  rw [Body.execute_expression proper kind]
  simp [Body.shownSource, Body.evaluateSource, call, Body.evaluate, Body.evaluateAll, Page.scope]

theorem eval_dispatch_operation {execute : Execute} {page : Page} {name : String}
    {operation : Operation} (bare : page.alias? = none)
    (called : Operation.ofName? name = some operation) (args : List Value) (desk : Desk) :
    (Page.dispatch (engine.host execute) name args).eval ⟨page, desk⟩ =
      (Page.operate (engine.host execute) operation args).eval ⟨page, desk⟩ := by
  have meant : Operation.ofName? (Page.callName page name) = some operation := by
    rwa [Page.callName, bare]
  exact Page.eval_dispatch_operation (engine.host execute) meant args

theorem eval_insert {execute : Execute} {page : Page} {desk after : Desk} {name : String}
    {context : Fields} {file : Path} {result : Except Error String}
    (found : engine.find name = some file)
    (nested : (execute file context "").eval
      (desk.note (.fired ⟨.prepartial name context, page⟩)) = (result, after)) :
    (Page.insert (engine.host execute) name context).eval ⟨page, desk⟩ = (result,
      ⟨page, if result.isOk then after.note (.fired ⟨.afterpartial, page⟩) else after⟩) := by
  have fire (event : Event) (desk : Desk) :
      (engine.host execute).fire event desk = desk.note (.fired event) := rfl
  cases result <;>
    simp only [Page.insert, Run.eval_bind, Session.fire, Session.outside, Run.within_apply,
      host_render, renderBy_of_some found, Run.eval_update, Run.eval_pure, fire, nested] <;> rfl

theorem eval_setLayout {execute : Execute} {page : Page} {name : String} {file : Path}
    (found : engine.find name = some file) (desk : Desk) :
    (Page.setLayout (engine.host execute) name).eval ⟨page, desk⟩ =
      (.ok (), ⟨{ page with layout? := some file }, desk⟩) := by
  have seek : (engine.host execute).find name desk = (some file, desk) := by
    rw [← found]
    rfl
  rw [Page.eval_setLayout]
  simp only [seek]

/-- A file whose text is a call of `insert` inserts the file that the name stands for. -/
theorem OneCall.inserts {name : String} {next : Path} (one : engine.OneCall path "insert" name)
    (bare : engine.alias? = none) (found : engine.find name = some next) (context : Fields) :
    engine.Inserts path context next [] := by
  intro buffer desk
  let page : Page := { engine.page path buffer with context }
  have called : Operation.ofName? "insert" = some .insert := by decide
  refine ⟨desk.note (.fired ⟨.prepartial name [], page⟩), fun execute => ?_⟩
  obtain ⟨source, ran⟩ := OneCall.eval_collect page one execute desk
  rw [Run.eval_bind, eval_dispatch_operation bare called] at ran
  have operated : (Page.operate (engine.host execute) .insert [.text name]).eval ⟨page, desk⟩ =
      (do
        let rendered ← Page.insert (engine.host execute) name []
        pure (Value.text rendered)).eval ⟨page, desk⟩ := rfl
  rw [operated, Run.eval_bind] at ran
  cases nested : (execute next [] "").eval (desk.note (.fired ⟨.prepartial name [], page⟩)) with
  | mk result after =>
    rw [eval_insert found nested] at ran
    cases result with
    | ok output => exact ⟨_, _, _, ran, rfl⟩
    | error error => exact ⟨_, ran⟩

theorem OneCall.leaves {name : String} {next : Path} (one : engine.OneCall path "layout" name)
    (bare : engine.alias? = none) (found : engine.find name = some next) (context : Fields) :
    engine.Leaves path context (some next) := by
  intro execute buffer desk
  let page : Page := { engine.page path buffer with context }
  have called : Operation.ofName? "layout" = some .layout := by decide
  obtain ⟨source, ran⟩ := OneCall.eval_collect page one execute desk
  rw [Run.eval_bind, eval_dispatch_operation bare called] at ran
  have operated : (Page.operate (engine.host execute) .layout [.text name]).eval ⟨page, desk⟩ =
      (do
        Page.setLayout (engine.host execute) name
        pure Value.null).eval ⟨page, desk⟩ := rfl
  rw [operated, Run.eval_bind, eval_setLayout found] at ran
  exact ⟨_, _, _, ran, rfl⟩

/-- A file without two opening braces in a row leaves no layout. -/
theorem leaves_of_text {source : String} (read : engine.disk.read path = .ok source)
    (plain : cutPair? '{' source.toList = none) (context : Fields) :
    engine.Leaves path context none := by
  intro execute buffer desk
  let page : Page := { engine.page path buffer with context }
  have untagged : Untagged source.toList := fun before rest found => by simp [plain] at found
  have disk : (engine.host execute).disk = engine.disk := rfl
  refine ⟨source, page, desk, ?_, rfl⟩
  unfold Page.collect
  rw [Run.eval_bind, Run.eval_look]
  simp only [disk, Engine.page, read]
  have noTag : ∀ piece ∈ ([] : List Piece), piece.Proper := by simp
  rw [Body.execute_joined noTag untagged rfl, Body.runPieces, Body.runTail,
    Body.openBraces?_eq_none plain]
  simp [page, Engine.page]

/-- An engine with a number of levels and three files: the first one inserts the second one, and the
last one is the layout of that. -/
def threeFiles (levels : Nat) : Engine where
  disk := ⟨.folder [
    ("a.tpl", .file (some "\x7b\x7binsert('b')\x7d\x7d")),
    ("b.tpl", .file (some "\x7b\x7blayout('c')\x7d\x7d")),
    ("c.tpl", .file (some "end"))], []⟩
  finder := ⟨[""], ["tpl"]⟩
  commands := .empty true
  alias? := none
  maxDepth := levels

theorem oneCall_threeFiles (levels : Nat) :
    (threeFiles levels).OneCall "a.tpl" "insert" "b" :=
  ⟨"insert('b')".toList, "insert('b')".toList, rfl, by unfold Piece.Proper; decide, by cbv, by cbv⟩

theorem inserts_threeFiles (levels : Nat) :
    (threeFiles levels).Inserts "a.tpl" [] "b.tpl" [] := by
  have found : (threeFiles 0).find "b" = some "b.tpl" := by decide +kernel
  exact (oneCall_threeFiles levels).inserts rfl found []

theorem leaves_threeFiles (levels : Nat) :
    (threeFiles levels).Leaves "b.tpl" [] (some "c.tpl") := by
  have found : (threeFiles 0).find "c" = some "c.tpl" := by decide +kernel
  have one : (threeFiles levels).OneCall "b.tpl" "layout" "c" :=
    ⟨"layout('c')".toList, "layout('c')".toList, rfl, by unfold Piece.Proper; decide, by cbv,
      by cbv⟩
  exact one.leaves rfl found []

theorem last_threeFiles (levels : Nat) : (threeFiles levels).Leaves "c.tpl" [] none := by
  have plain : cutPair? '{' "end".toList = none := by decide
  exact leaves_of_text rfl plain []

end Engine

end Folio
