import Folio.Proofs.Body.Backslashes
import Folio.Proofs.Body.Tree
import Mathlib

/-! The end of a block is looked for among the tags of its own keyword alone, so blocks that cross
one another are cut as if they did not. They are noticed later: the text inside a block is executed
as a body of its own, and so is the text after it. But a loop over an empty list does not execute
the text inside, so every loop that is come to has to have an item. -/

namespace Folio

open Body

/-! ## Proper nesting -/

/-- Every block is closed by a tag of its keyword, after all blocks inside it, and every closing tag
closes a block. Nothing stands for itself, as closing tags may among tags that are `Nested`. -/
inductive Balanced : List Shape → Prop
  | nil : Balanced []
  | plain {shapes : List Shape} : Balanced shapes → Balanced (.plain :: shapes)
  | block {block : BlockKind} {inner after : List Shape} :
      Balanced inner → Balanced after →
      Balanced (.opens block :: (inner ++ .closes block.keyword :: after))

theorem Balanced.nested {shapes : List Shape} (balanced : Balanced shapes)
    (around : List BlockKind) : Nested around shapes := by
  induction balanced generalizing around with
  | nil => exact .nil
  | plain _ ih => exact .plain (ih around)
  | @block block _ _ _ _ ihInner ihAfter =>
    exact .block (ihInner (block :: around)) (ihAfter around)

/-- Whether the tags close the blocks that are open before them, the innermost first, and all blocks
that they open themselves. -/
def settles : List BlockKind → List Shape → Bool
  | [], [] => true
  | _ :: _, [] => false
  | around, .plain :: shapes => settles around shapes
  | around, .opens block :: shapes => settles (block :: around) shapes
  | [], .closes _ :: _ => false
  | block :: around, .closes keyword :: shapes =>
    keyword = block.keyword && settles around shapes

/-- Properly nested tags leave the blocks around them as they are. -/
theorem Balanced.settles_append {shapes : List Shape} (balanced : Balanced shapes)
    (around : List BlockKind) (more : List Shape) :
    settles around (shapes ++ more) = settles around more := by
  induction balanced generalizing around more with
  | nil => rfl
  | plain _ ih =>
    rw [List.cons_append, settles]
    exact ih around more
  | @block block inner after _ _ ihInner ihAfter =>
    simp only [List.cons_append, List.append_assoc]
    rw [settles, ihInner, settles, ihAfter]
    simp

/-- The tags close the open blocks, the innermost first, with properly nested tags in between. -/
def Closing : List BlockKind → List Shape → Prop
  | [], shapes => Balanced shapes
  | block :: around, shapes => ∃ inner after,
      shapes = inner ++ .closes block.keyword :: after ∧ Balanced inner ∧ Closing around after

theorem Closing.prepend {around : List BlockKind} {shapes front : List Shape}
    (closing : Closing around shapes)
    (grows : ∀ {inner : List Shape}, Balanced inner → Balanced (front ++ inner)) :
    Closing around (front ++ shapes) := by
  cases around with
  | nil => exact grows closing
  | cons block around =>
    obtain ⟨inner, after, rfl, balanced, rest⟩ := closing
    exact ⟨front ++ inner, after, (List.append_assoc ..).symm, grows balanced, rest⟩

theorem closing_of_settles {around : List BlockKind} {shapes : List Shape}
    (settled : settles around shapes = true) : Closing around shapes := by
  fun_induction settles around shapes with
  | case1 => exact .nil
  | case2 => cases settled
  | case3 around shapes ih =>
    have closing : Closing around ([.plain] ++ shapes) := (ih settled).prepend .plain
    exact closing
  | case4 around block shapes ih =>
    obtain ⟨inner, after, rfl, balanced, rest⟩ := ih settled
    have whole : Shape.opens block :: (inner ++ .closes block.keyword :: after) =
        (.opens block :: (inner ++ [.closes block.keyword])) ++ after := by simp
    rw [whole]
    apply rest.prepend
    intro later nested
    simpa using Balanced.block balanced nested
  | case5 => cases settled
  | case6 block around keyword shapes ih =>
    rw [Bool.and_eq_true, decide_eq_true_eq] at settled
    obtain ⟨rfl, settled⟩ := settled
    exact ⟨[], shapes, rfl, .nil, ih settled⟩

/-- Proper nesting is decided by a stack of open blocks. -/
theorem balanced_iff_settles {shapes : List Shape} :
    Balanced shapes ↔ settles [] shapes = true := by
  constructor
  · intro balanced
    have settled := balanced.settles_append [] []
    rwa [List.append_nil] at settled
  · exact closing_of_settles

instance : DecidablePred Balanced :=
  fun _ => decidable_of_iff _ balanced_iff_settles.symm

/-! ## The lists of loops -/

namespace Body

variable {σ : Type}

/-- The text that takes the place of a block, together with the lists that the loops in it have gone
through. -/
def blockWithLoops (path : Path) (line : Nat) (scope : Scope σ) (args : List Char)
    (inner : Scope σ → Run σ (List Char × List (List Value))) :
    BlockKind → Run σ (List Char × List (List Value))
  | .each =>
    match eachArgs? args with
    | none => malformed path line (.eachArgs (String.ofList args))
    | some (key, name) => do
      let items ← loopItems path line scope key
      let shown ← items.mapM fun item => inner (scope.bind name item)
      pure ((shown.map Prod.fst).flatten, items :: (shown.map Prod.snd).flatten)
  | .capture => do
    let name ← sectionName path line scope args
    let content ← inner scope
    let shown ← scope.declare name (String.ofList content.1)
    pure (shown.toList, content.2)

def runWithLoops (path : Path) (scope : Scope σ) (line : Nat) (tail : List Char) :
    List Piece → Run σ (List Char × List (List Value))
  | [] => do
    let shown ← runTail path line tail
    pure (shown, [])
  | piece :: pieces =>
    let line := line + newlines piece.text
    if piece.isEscaped then do
      let after ← runWithLoops path scope line tail pieces
      pure (piece.lead ++ piece.braced ++ after.1, after.2)
    else
      match piece.kind with
      | .expression source => do
        let shown ← shownSource path line scope source
        let after ← runWithLoops path scope line tail pieces
        pure (piece.lead ++ shown ++ after.1, after.2)
      | .closing keyword => malformed path line (.strayClosing keyword)
      | .opening block args =>
        match _h : cutBlock? block 0 pieces with
        | none => malformed path line (.openBlock block)
        | some (inner, close, rest) => do
          let execute := fun scope => runWithLoops path scope line close.before inner
          let shown ← blockWithLoops path line scope args execute block
          let after ←
            runWithLoops path scope (line + newlines (joined (inner ++ [close]) [])) tail rest
          pure (piece.lead ++ shown.1 ++ after.1, shown.2 ++ after.2)
termination_by pieces => pieces.length
decreasing_by
  · simp
  · simp
  · exact Nat.lt_succ_of_lt (length_lt_of_cutBlock? _h).1
  · exact Nat.lt_succ_of_lt (length_lt_of_cutBlock? _h).2

def executeWithLoops (path : Path) (source : String) (scope : Scope σ) :
    Run σ (String × List (List Value)) := do
  let tags := scan source.toList
  let tail := source.toList.drop (Tree.lastStop tags)
  let shown ← runWithLoops path scope 1 tail (cutAt source.toList 0 tags)
  pure (String.ofList shown.1, shown.2)

/-- The lists of all loops that are come to when a body is executed, however deep they are. A loop
inside another one is come to once for every item of that. -/
def loopLists (path : Path) (source : String) (scope : Scope σ) (state : σ) : List (List Value) :=
  match ((executeWithLoops path source scope).eval state).1 with
  | .ok shown => shown.2
  | .error _ => []

/-! ## One piece at a time -/

section
variable {path : Path} {scope : Scope σ} {line : Nat} {tail : List Char} {piece : Piece}
  {pieces : List Piece}

theorem runWithLoops_escaped (escaped : piece.isEscaped = true) :
    runWithLoops path scope line tail (piece :: pieces) = (do
      let after ← runWithLoops path scope (line + newlines piece.text) tail pieces
      pure (piece.lead ++ piece.braced ++ after.1, after.2)) := by
  rw [runWithLoops, if_pos escaped]

theorem runWithLoops_acting (acting : piece.isEscaped = false) :
    runWithLoops path scope line tail (piece :: pieces) = (
      let line := line + newlines piece.text
      match piece.kind with
      | .expression source => do
        let shown ← shownSource path line scope source
        let after ← runWithLoops path scope line tail pieces
        pure (piece.lead ++ shown ++ after.1, after.2)
      | .closing keyword => malformed path line (.strayClosing keyword)
      | .opening block args =>
        match cutBlock? block 0 pieces with
        | none => malformed path line (.openBlock block)
        | some (inner, close, rest) => do
          let shown ← blockWithLoops path line scope args
            (fun scope => runWithLoops path scope line close.before inner) block
          let after ←
            runWithLoops path scope (line + newlines (joined (inner ++ [close]) [])) tail rest
          pure (piece.lead ++ shown.1 ++ after.1, shown.2 ++ after.2)) := by
  rw [runWithLoops, if_neg (by simp [acting])]
  cases piece.kind with
  | expression source => rfl
  | closing keyword => rfl
  | opening block args =>
    dsimp only
    split
    · rename_i missing
      rw [missing]
    · rename_i found
      rw [found]

end

/-! ## Keeping the lists changes nothing -/

theorem map_mapM {α β γ : Type} (f : β → γ) (run : α → Run σ β) (items : List α) :
    List.map f <$> items.mapM run = items.mapM fun item => f <$> run item := by
  induction items with
  | nil => simp
  | cons item items ih =>
    simp only [List.mapM_cons, ← ih]
    simp

theorem fst_blockWithLoops (path : Path) (line : Nat) (scope : Scope σ) (args : List Char)
    {inner : Scope σ → Run σ (List Char × List (List Value))}
    {plain : Scope σ → Run σ (List Char)} (same : ∀ scope, Prod.fst <$> inner scope = plain scope)
    (block : BlockKind) :
    Prod.fst <$> blockWithLoops path line scope args inner block =
      runBlock path line scope args plain block := by
  cases block with
  | each =>
    rw [blockWithLoops, runBlock]
    cases eachArgs? args with
    | none => rfl
    | some names =>
      obtain ⟨key, name⟩ := names
      simp only [← same, ← map_mapM]
      simp
  | capture =>
    rw [blockWithLoops, runBlock]
    simp only [← same]
    simp

theorem fst_runWithLoops (path : Path) (scope : Scope σ) (line : Nat) (tail : List Char)
    (pieces : List Piece) :
    Prod.fst <$> runWithLoops path scope line tail pieces =
      runPieces path scope line tail pieces := by
  induction length : pieces.length using Nat.strongRecOn generalizing pieces scope line tail with
  | ind _ ih =>
    subst length
    cases pieces with
    | nil =>
      rw [runWithLoops, runPieces]
      simp
    | cons piece pieces =>
      have next := ih pieces.length (by simp) scope (line + newlines piece.text) tail pieces rfl
      cases escaped : piece.isEscaped with
      | true =>
        rw [runWithLoops_escaped escaped, runPieces_escaped escaped, ← next]
        simp
      | false =>
        rw [runWithLoops_acting escaped]
        cases kind : piece.kind with
        | expression source =>
          rw [runPieces_expression escaped kind, ← next]
          simp
        | closing keyword =>
          rw [runPieces_closing escaped kind]
          rfl
        | opening block args =>
          cases found : cutBlock? block 0 pieces with
          | none =>
            rw [runPieces_open escaped kind found]
            simp only [found]
            rfl
          | some parts =>
            obtain ⟨inner, close, rest⟩ := parts
            obtain ⟨fewer, fewer'⟩ := length_lt_of_cutBlock? found
            have inside (scope : Scope σ) := ih inner.length (Nat.lt_succ_of_lt fewer) scope
              (line + newlines piece.text) close.before inner rfl
            have outside := ih rest.length (Nat.lt_succ_of_lt fewer') scope
              (line + newlines piece.text + newlines (joined (inner ++ [close]) [])) tail rest rfl
            rw [runPieces_block escaped kind found]
            simp only [found, ← fst_blockWithLoops path _ scope args inside block, ← outside]
            simp

theorem executeWithLoops_joined {source : String} {pieces : List Piece} {tail : List Char}
    (proper : ∀ piece ∈ pieces, piece.Proper) (untagged : Untagged tail)
    (whole : joined pieces tail = source.toList) (path : Path) (scope : Scope σ) :
    executeWithLoops path source scope = (do
      let shown ← runWithLoops path scope 1 tail pieces
      pure (String.ofList shown.1, shown.2)) := by
  rw [executeWithLoops, ← whole, cutAt_joined proper untagged, scan_joined proper untagged,
    Tree.drop_lastStop]

/-- A body does the same if the lists of its loops are kept. -/
theorem fst_executeWithLoops (path : Path) (source : String) (scope : Scope σ) :
    Prod.fst <$> executeWithLoops path source scope = execute path source scope := by
  obtain ⟨pieces, tail, whole, proper, untagged⟩ := exists_pieces source.toList
  rw [executeWithLoops_joined proper untagged whole, execute_joined proper untagged whole,
    ← fst_runWithLoops]
  simp

theorem eval_executeWithLoops {path : Path} {source output : String} {scope : Scope σ}
    {state after : σ} (succeeds : (execute path source scope).eval state = (.ok output, after)) :
    (executeWithLoops path source scope).eval state =
      (.ok (output, loopLists path source scope state), after) := by
  rw [← fst_executeWithLoops, Run.eval_map] at succeeds
  unfold loopLists
  generalize (executeWithLoops path source scope).eval state = ends at succeeds ⊢
  obtain ⟨error | shown, last⟩ := ends
  · cases succeeds
  · cases succeeds
    rfl

/-! ## Every block is executed -/

/-- A run that succeeds, and has come to no loop over an empty list. -/
def Full {σ : Type} (run : Run σ (List Char × List (List Value))) : Prop :=
  ∃ (state after : σ) (content : List Char) (loops : List (List Value)),
    run.eval state = (.ok (content, loops), after) ∧ ∀ items ∈ loops, items ≠ []

/-- A block that is executed in full has executed the text inside it in full. -/
theorem Full.inside {path : Path} {line : Nat} {scope : Scope σ} {args : List Char}
    {inner : Scope σ → Run σ (List Char × List (List Value))} {block : BlockKind}
    (full : Full (blockWithLoops path line scope args inner block)) :
    ∃ within : Scope σ, Full (inner within) := by
  obtain ⟨state, after, content, loops, ran, nonempty⟩ := full
  cases block with
  | each =>
    rw [blockWithLoops] at ran
    cases names : eachArgs? args with
    | none =>
      rw [names] at ran
      cases ran
    | some names' =>
      obtain ⟨key, name⟩ := names'
      rw [names] at ran
      obtain ⟨items, start, -, ran⟩ := Run.exists_of_bind_ok ran
      obtain ⟨shown, last, ran, ended⟩ := Run.exists_of_bind_ok ran
      cases ended
      obtain ⟨own, others⟩ := List.forall_mem_cons.mp nonempty
      cases items with
      | nil => exact absurd rfl own
      | cons item items =>
        rw [List.mapM_cons] at ran
        obtain ⟨first, middle, ranFirst, ran⟩ := Run.exists_of_bind_ok ran
        obtain ⟨more, end', -, ended⟩ := Run.exists_of_bind_ok ran
        cases ended
        refine ⟨scope.bind name item, start, middle, first.1, first.2, ranFirst, ?_⟩
        intro list mem
        exact others list (by simp [mem])
  | capture =>
    obtain ⟨name, start, -, ran⟩ := Run.exists_of_bind_ok ran
    obtain ⟨inside, middle, ranInside, ran⟩ := Run.exists_of_bind_ok ran
    obtain ⟨written, last, -, ended⟩ := Run.exists_of_bind_ok ran
    cases ended
    exact ⟨scope, start, middle, inside.1, inside.2, ranInside, nonempty⟩

/-- Pieces that are executed in full are properly nested. The induction is on their number: a block
is closed by a tag of its keyword, and what stands in it and after it has been executed in full. -/
theorem Full.balanced {path : Path} {scope : Scope σ} {line : Nat} {tail : List Char}
    {pieces : List Piece} (full : Full (runWithLoops path scope line tail pieces)) :
    Balanced (pieces.map Piece.shape) := by
  induction length : pieces.length using Nat.strongRecOn generalizing pieces scope line tail with
  | ind _ ih =>
    subst length
    cases pieces with
    | nil => exact .nil
    | cons piece pieces =>
      obtain ⟨state, after, content, loops, ran, nonempty⟩ := full
      rw [List.map_cons]
      cases escaped : piece.isEscaped with
      | true =>
        rw [runWithLoops_escaped escaped] at ran
        obtain ⟨rest, last, ran, ended⟩ := Run.exists_of_bind_ok ran
        cases ended
        rw [Piece.shape_of_escaped escaped]
        exact .plain (ih pieces.length (by simp) ⟨_, _, _, _, ran, nonempty⟩ rfl)
      | false =>
        rw [runWithLoops_acting escaped] at ran
        rw [Piece.shape_of_acting escaped]
        cases kind : piece.kind with
        | expression source =>
          simp only [kind] at ran
          obtain ⟨shown, start, -, ran⟩ := Run.exists_of_bind_ok ran
          obtain ⟨rest, last, ran, ended⟩ := Run.exists_of_bind_ok ran
          cases ended
          exact .plain (ih pieces.length (by simp) ⟨_, _, _, _, ran, nonempty⟩ rfl)
        | closing keyword =>
          simp only [kind] at ran
          cases ran
        | opening block args =>
          simp only [kind] at ran
          cases found : cutBlock? block 0 pieces with
          | none =>
            simp only [found] at ran
            cases ran
          | some parts =>
            obtain ⟨inner, close, rest⟩ := parts
            simp only [found] at ran
            obtain ⟨shown, start, ranBlock, ran⟩ := Run.exists_of_bind_ok ran
            obtain ⟨written, last, ran, ended⟩ := Run.exists_of_bind_ok ran
            cases ended
            obtain ⟨own, others⟩ := List.forall_mem_append.mp nonempty
            obtain ⟨fewer, fewer'⟩ := length_lt_of_cutBlock? found
            have block' : Full (blockWithLoops path _ scope args _ block) :=
              ⟨_, _, _, _, ranBlock, own⟩
            obtain ⟨within, full⟩ := block'.inside
            have inside := ih inner.length (Nat.lt_succ_of_lt fewer) full rfl
            have outside := ih rest.length (Nat.lt_succ_of_lt fewer') ⟨_, _, _, _, ran, others⟩ rfl
            rw [← append_of_cutBlock? found, List.map_append, List.map_cons,
              shape_of_cutBlock? found]
            exact .block inside outside

def rowsScope (rows : List Value) : Scope Unit :=
  { bareScope with lookup := fun _ key => if key = "rows" then some (.list rows) else none }

theorem kind_rowsTag : Piece.kind ⟨[], "each rows |row|".toList⟩ =
    .opening .each "rows |row|".toList := by cbv

theorem eachArgs?_rowsTag : eachArgs? "rows |row|".toList = some ("rows", "row") := by cbv

/-- A loop over the rows, with a section in it that is never closed. -/
def openSection : List Piece :=
  [⟨[], "each rows |row|".toList⟩, ⟨[], "section \"a\"".toList⟩, ⟨[], "/each".toList⟩]

/-- A body that succeeds is properly nested, by one scan of the whole of it, if every loop that is
come to has an item. -/
theorem balanced_of_execute {path : Path} {source output : String} {scope : Scope σ}
    {state after : σ} (succeeds : (execute path source scope).eval state = (.ok output, after))
    (full : ∀ items ∈ loopLists path source scope state, items ≠ []) :
    Balanced ((scan source.toList).map Tag.shape) := by
  obtain ⟨pieces, tail, whole, proper, untagged⟩ := exists_pieces source.toList
  have ran := eval_executeWithLoops succeeds
  rw [executeWithLoops_joined proper untagged whole] at ran
  obtain ⟨shown, last, ran, ended⟩ := Run.exists_of_bind_ok ran
  simp only [Run.eval_pure, Prod.mk.injEq, Except.ok.injEq] at ended
  obtain ⟨⟨-, lists⟩, -⟩ := ended
  have all : Full (runWithLoops path scope 1 tail pieces) :=
    ⟨state, last, shown.1, shown.2, ran, lists ▸ full⟩
  rw [← whole, scan_joined proper untagged, map_shape_tagsAt]
  exact all.balanced

-- Without rows nothing is noticed of a section that is never closed.
example :
    let source := String.ofList (joined openSection [])
    (execute "page.tpl" source (rowsScope [])).eval () = (.ok "", ()) ∧
      ¬ Balanced ((scan source.toList).map Tag.shape) := by
  intro source
  have proper : ∀ piece ∈ openSection, piece.Proper := by decide
  have untagged : Untagged [] := by simp [Untagged]
  have ends : cutBlock? .each 0 [⟨[], "section \"a\"".toList⟩, ⟨[], "/each".toList⟩] =
      some ([⟨[], "section \"a\"".toList⟩], ⟨[], "/each".toList⟩, []) := by cbv
  constructor
  · rw [execute_joined proper untagged String.toList_ofList.symm, openSection,
      runPieces_block rfl kind_rowsTag ends]
    cbv
  · rw [balanced_iff_settles, Bool.not_eq_true]
    cbv

def rowNames : List Piece :=
  [⟨[], "each rows |row|".toList⟩, ⟨[], "section \"a\"".toList⟩, ⟨[], "row".toList⟩,
    ⟨[], "/section".toList⟩, ⟨[], "/each".toList⟩]

theorem balanced_of_execute_rowNames :
    let source := String.ofList (joined rowNames [])
    let scope := rowsScope [.text "x", .text "y"]
    (execute "page.tpl" source scope).eval () = (.ok "xy", ()) ∧
      loopLists "page.tpl" source scope () = [[.text "x", .text "y"]] ∧
      Balanced ((scan source.toList).map Tag.shape) := by
  intro source scope
  have proper : ∀ piece ∈ rowNames, piece.Proper := by decide
  have untagged : Untagged [] := by simp [Untagged]
  have shows : Piece.kind ⟨[], "row".toList⟩ = .expression "row".toList := by cbv
  have row : Expr.read "row".toList = .ok (.key "row") := by cbv
  have outer : cutBlock? .each 0 [⟨[], "section \"a\"".toList⟩, ⟨[], "row".toList⟩,
      ⟨[], "/section".toList⟩, ⟨[], "/each".toList⟩] =
      some ([⟨[], "section \"a\"".toList⟩, ⟨[], "row".toList⟩, ⟨[], "/section".toList⟩],
        ⟨[], "/each".toList⟩, []) := by cbv
  have inner : cutBlock? .capture 0 [⟨[], "row".toList⟩, ⟨[], "/section".toList⟩] =
      some ([⟨[], "row".toList⟩], ⟨[], "/section".toList⟩, []) := by cbv
  have ran : (executeWithLoops "page.tpl" source scope).eval () =
      (.ok ("xy", [[.text "x", .text "y"]]), ()) := by
    rw [executeWithLoops_joined proper untagged String.toList_ofList.symm, rowNames,
      runWithLoops_acting rfl]
    simp only [kind_rowsTag, outer, runWithLoops_acting (rfl : Piece.isEscaped ⟨[], _⟩ = false),
      kind_sectionTag, inner, shows, blockWithLoops, eachArgs?_rowsTag, sectionName, shownSource,
      evaluateSource, read_sectionName, row, evaluate, runWithLoops, runTail, openBraces?]
    rfl
  have succeeds : (execute "page.tpl" source scope).eval () = (.ok "xy", ()) := by
    rw [← fst_executeWithLoops, Run.eval_map, ran]
    rfl
  have lists : loopLists "page.tpl" source scope () = [[.text "x", .text "y"]] := by
    rw [loopLists, ran]
  refine ⟨succeeds, lists, balanced_of_execute succeeds ?_⟩
  simp [lists]

end Body

end Folio
