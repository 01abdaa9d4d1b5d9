import Folio.Proofs.Body.Rescan
import Mathlib

/-! A body whose blocks are properly nested is a tree, which one scan of the body shows. A loop runs
the tree inside it once for each item, a section hands the output of the tree inside it over. -/

namespace Folio

open Body

/-- A body as a tree. What a tag needs to report a fault is the line on which it ends. -/
inductive Tree where
  | done
  /-- The text after the last tag, which ends on the line. -/
  | tail (text : List Char) (line : Nat)
  | verbatim (text : List Char) (next : Tree)
  | expression (source : List Char) (line : Nat) (next : Tree)
  /-- A closing tag of a word that opens no block. -/
  | stray (keyword : String) (line : Nat)
  | each (args : List Char) (line : Nat) (inner next : Tree)
  | capture (args : List Char) (line : Nat) (inner next : Tree)
  deriving Repr

namespace Tree

def run {σ : Type} (path : Path) : Tree → Scope σ → Run σ (List Char)
  | .done, _ => pure []
  | .tail text line, _ => runTail path line text
  | .verbatim text next, scope => do
    let after ← next.run path scope
    pure (text ++ after)
  | .expression source line next, scope => do
    let shown ← shownSource path line scope source
    let after ← next.run path scope
    pure (shown ++ after)
  | .stray keyword line, _ => malformed path line (.strayClosing keyword)
  | .each args line inner next, scope =>
    match eachArgs? args with
    | none => malformed path line (.eachArgs (String.ofList args))
    | some (key, name) => do
      let items ← loopItems path line scope key
      let shown ← items.mapM fun item => inner.run path (scope.bind name item)
      let after ← next.run path scope
      pure (shown.flatten ++ after)
  | .capture args line inner next, scope => do
    let name ← sectionName path line scope args
    let content ← inner.run path scope
    let shown ← scope.declare name (String.ofList content)
    let after ← next.run path scope
    pure (shown.toList ++ after)

def ofBlock (args : List Char) (line : Nat) (inner next : Tree) : BlockKind → Tree
  | .each => .each args line inner next
  | .capture => .capture args line inner next

end Tree

namespace Tree

/-- What the pieces from a line on grow into, inside the blocks that are open around them: a tree
up to the end of the innermost one; and for each of them the tree from its end on. There is no tree
if a block is left open or closed before a block inside it. -/
def grow (tail : List Char) (around : List BlockKind) (line : Nat) :
    List Piece → Option (Tree × List Tree)
  | [] => if around = [] then some (.tail tail line, []) else none
  | piece :: pieces =>
    let line := line + newlines piece.text
    if piece.isEscaped then do
      let (next, later) ← grow tail around line pieces
      some (.verbatim (piece.lead ++ piece.braced) next, later)
    else
      match piece.kind with
      | .expression source => do
        let (next, later) ← grow tail around line pieces
        some (.verbatim piece.lead (.expression source line next), later)
      | .opening block args => do
        let (inner, later) ← grow tail (block :: around) line pieces
        let next ← later.head?
        some (.verbatim piece.lead (ofBlock args line inner next block), later.tail)
      | .closing keyword =>
        if keyword ∉ around.map BlockKind.keyword then do
          let (_, later) ← grow tail around line pieces
          some (.verbatim piece.lead (.stray keyword line), later)
        else if around.head?.map BlockKind.keyword = some keyword then do
          let (next, later) ← grow tail around.tail line pieces
          some (.verbatim piece.lead .done, next :: later)
        else none

def lastStop (tags : List Tag) : Nat :=
  (tags.getLast?.map Tag.stop).getD 0

/-- The tree of a body, from one scan of it. -/
def ofText? (text : List Char) : Option Tree :=
  (grow (text.drop (lastStop (scan text))) [] 1 (cutAt text 0 (scan text))).map Prod.fst

/-! ## What grows from properly nested pieces -/

end Tree

theorem Piece.of_shape_opens {piece : Piece} {block : BlockKind} (h : piece.shape = .opens block) :
    piece.isEscaped = false ∧ ∃ args, piece.kind = .opening block args := by
  unfold Piece.shape Tag.shape at h
  cases escaped : piece.firstTag.isEscaped with
  | true => simp [escaped] at h
  | false =>
    refine ⟨escaped, ?_⟩
    cases kind : piece.firstTag.kind with
    | opening other args => simp_all [TagKind.shape, Piece.kind]
    | _ => simp [escaped, kind, TagKind.shape] at h

theorem Piece.of_shape_closes {piece : Piece} {keyword : String}
    (h : piece.shape = .closes keyword) :
    piece.isEscaped = false ∧ piece.kind = .closing keyword := by
  unfold Piece.shape Tag.shape at h
  cases escaped : piece.firstTag.isEscaped with
  | true => simp [escaped] at h
  | false =>
    refine ⟨escaped, ?_⟩
    cases kind : piece.firstTag.kind with
    | closing other => simp_all [TagKind.shape, Piece.kind]
    | _ => simp [escaped, kind, TagKind.shape] at h

theorem Piece.of_shape_plain {piece : Piece} (h : piece.shape = .plain) :
    piece.isEscaped = true ∨
      piece.isEscaped = false ∧ ∃ source, piece.kind = .expression source := by
  unfold Piece.shape Tag.shape at h
  cases escaped : piece.firstTag.isEscaped with
  | true => exact Or.inl escaped
  | false =>
    refine Or.inr ⟨escaped, ?_⟩
    cases kind : piece.firstTag.kind with
    | expression source => exact ⟨source, kind⟩
    | _ => simp [escaped, kind, TagKind.shape] at h

theorem runTail_before {σ : Type} {piece : Piece} (proper : piece.Proper)
    (bare : piece.backslashes = 0) (path : Path) (line : Nat) :
    runTail (σ := σ) path line piece.before = pure piece.lead := by
  rw [runTail, openBraces?_eq_none (cutPair?_before proper.1)]
  simp [Piece.lead, bare]

namespace Tree

theorem run_ofBlock {σ : Type} (path : Path) (args : List Char) (line : Nat) (inner next : Tree)
    (block : BlockKind) (scope : Scope σ) :
    (ofBlock args line inner next block).run path scope = (do
      let shown ← runBlock path line scope args (inner.run path) block
      let after ← next.run path scope
      pure (shown ++ after)) := by
  cases block with
  | each =>
    simp only [ofBlock, run, runBlock]
    cases eachArgs? args with
    | none => rfl
    | some names => simp
  | capture => simp [ofBlock, run, runBlock]

/-- Pieces that grow into a tree around the tree of what follows them. It runs as they do, if that
tree runs as what follows them does. -/
def Grows (last : List Char) (around : List BlockKind) (pieces : List Piece) : Prop :=
  ∀ ⦃line : Nat⦄ ⦃following : List Piece⦄ ⦃stop : Tree⦄ ⦃later : List Tree⦄,
    grow last around (line + newlines (joined pieces [])) following = some (stop, later) →
    ∃ tree, grow last around line (pieces ++ following) = some (tree, later) ∧
      ∀ {σ : Type} (path : Path) (tail : List Char) (more : List Piece),
        (∀ scope : Scope σ,
          runPieces path scope (line + newlines (joined pieces [])) tail more =
            stop.run path scope) →
        ∀ scope : Scope σ, runPieces path scope line tail (pieces ++ more) = tree.run path scope

namespace Grows

variable {last : List Char} {around : List BlockKind} {piece : Piece} {pieces : List Piece}

theorem nil : Grows last around [] := by
  intro line following stop later grown
  exact ⟨stop, grown, fun path _ _ ends scope => ends scope⟩

theorem escaped (escaped : piece.isEscaped = true) (rest : Grows last around pieces) :
    Grows last around (piece :: pieces) := by
  intro line following stop later grown
  rw [joined_cons, newlines_append, ← Nat.add_assoc] at grown
  obtain ⟨next, grownNext, runNext⟩ := rest grown
  refine ⟨.verbatim (piece.lead ++ piece.braced) next, ?_, ?_⟩
  · simp [grow, grownNext, escaped]
  · intro σ path tail more ends scope
    rw [joined_cons, newlines_append, ← Nat.add_assoc] at ends
    rw [List.cons_append, runPieces_escaped escaped, runNext path tail more ends]
    rfl

theorem expression (plain : piece.isEscaped = false) {source : List Char}
    (kind : piece.kind = .expression source) (rest : Grows last around pieces) :
    Grows last around (piece :: pieces) := by
  intro line following stop later grown
  rw [joined_cons, newlines_append, ← Nat.add_assoc] at grown
  obtain ⟨next, grownNext, runNext⟩ := rest grown
  refine ⟨.verbatim piece.lead (.expression source (line + newlines piece.text) next), ?_, ?_⟩
  · simp [grow, grownNext, plain, kind]
  · intro σ path tail more ends scope
    rw [joined_cons, newlines_append, ← Nat.add_assoc] at ends
    rw [List.cons_append, runPieces_expression plain kind, runNext path tail more ends]
    simp [run]

/-- What follows a closing tag for which no block is open is never reached. -/
theorem stray (plain : piece.isEscaped = false) {keyword : String}
    (kind : piece.kind = .closing keyword) (outside : keyword ∉ around.map BlockKind.keyword)
    (rest : Grows last around pieces) : Grows last around (piece :: pieces) := by
  intro line following stop later grown
  rw [joined_cons, newlines_append, ← Nat.add_assoc] at grown
  obtain ⟨next, grownNext, _⟩ := rest grown
  refine ⟨.verbatim piece.lead (.stray keyword (line + newlines piece.text)), ?_, ?_⟩
  · simp [grow, grownNext, plain, kind, outside]
  · intro σ path tail more _ scope
    rw [List.cons_append, runPieces_closing plain kind]
    rfl

/-- A block, if what is cut out after its opening tag is what stands before the closing tag. -/
theorem block {opener closer : Piece} {block : BlockKind} {args : List Char}
    {first second : List Piece} (plain : opener.isEscaped = false)
    (kind : opener.kind = .opening block args) (closes : closer.shape = .closes block.keyword)
    (proper : closer.Proper) (bare : closer.backslashes = 0)
    (found : ∀ more, cutBlock? block 0 (first ++ closer :: more) = some (first, closer, more))
    (inside : Grows last (block :: around) first) (outside : Grows last around second) :
    Grows last around (opener :: (first ++ closer :: second)) := by
  intro line following stop later grown
  obtain ⟨plainClose, kindClose⟩ := Piece.of_shape_closes closes
  have lines : newlines (joined (opener :: (first ++ closer :: second)) []) =
      newlines opener.text + newlines (joined first []) + newlines closer.text +
        newlines (joined second []) := by
    simp [joined_append, newlines_append, Nat.add_assoc]
  rw [lines] at grown
  simp only [← Nat.add_assoc] at grown
  obtain ⟨next, grownNext, runNext⟩ := outside grown
  have grownClose : grow last (block :: around)
      (line + newlines opener.text + newlines (joined first []))
      (closer :: (second ++ following)) =
        some (.verbatim closer.lead .done, next :: later) := by
    simp [grow, grownNext, plainClose, kindClose]
  obtain ⟨inner, grownInner, runInner⟩ := inside grownClose
  refine ⟨.verbatim opener.lead (ofBlock args (line + newlines opener.text) inner next block),
    ?_, ?_⟩
  · simp [grow, grownInner, plain, kind]
  · intro σ path tail more ends scope
    rw [lines] at ends
    simp only [← Nat.add_assoc] at ends
    have closing : ∀ scope : Scope σ, runPieces path scope
        (line + newlines opener.text + newlines (joined first [])) closer.before [] =
          (Tree.verbatim closer.lead .done).run path scope := by
      intro scope
      rw [runPieces, runTail_before proper bare]
      simp [run]
    have executeInner : (fun scope : Scope σ =>
        runPieces path scope (line + newlines opener.text) closer.before first) =
          inner.run path := by
      funext scope
      have whole := runInner path closer.before [] closing scope
      rwa [List.append_nil] at whole
    have further : line + newlines opener.text + newlines (joined (first ++ [closer]) []) =
        line + newlines opener.text + newlines (joined first []) + newlines closer.text := by
      simp [joined_append, newlines_append, Nat.add_assoc]
    rw [List.cons_append, List.append_assoc, List.cons_append,
      runPieces_block plain kind (found (second ++ more))]
    simp only [executeInner, further, runNext path tail more ends]
    simp [run, run_ofBlock]

/-- Properly nested pieces grow into a tree. -/
theorem of_nested {shapes : List Shape} (nested : Nested around shapes)
    (h : pieces.map Piece.shape = shapes) (proper : ∀ piece ∈ pieces, piece.Proper)
    (bare : ∀ piece ∈ pieces, ∀ block : BlockKind,
      piece.shape = .closes block.keyword → piece.backslashes = 0) :
    Grows last around pieces := by
  induction nested generalizing pieces with
  | nil =>
    cases List.map_eq_nil_iff.mp h
    exact .nil
  | plain _ ih =>
    obtain ⟨piece, pieces, rfl, shape, rest⟩ := List.map_eq_cons_iff.mp h
    have next := ih rest (fun p mem => proper p (.tail _ mem)) (fun p mem => bare p (.tail _ mem))
    rcases Piece.of_shape_plain shape with escaped | ⟨plain, source, kind⟩
    · exact .escaped escaped next
    · exact .expression plain kind next
  | @stray around keyword shapes ne _ ih =>
    obtain ⟨piece, pieces, rfl, shape, rest⟩ := List.map_eq_cons_iff.mp h
    have next := ih rest (fun p mem => proper p (.tail _ mem)) (fun p mem => bare p (.tail _ mem))
    obtain ⟨plain, kind⟩ := Piece.of_shape_closes shape
    refine .stray plain kind ?_ next
    intro mem
    obtain ⟨block, mem, same⟩ := List.mem_map.mp mem
    exact ne block mem same.symm
  | @block around block inner after nestedInner _ ihInner ihAfter =>
    obtain ⟨opener, pieces, rfl, opens, rest⟩ := List.map_eq_cons_iff.mp h
    obtain ⟨first, pieces, rfl, inside, rest⟩ := List.map_eq_append_iff.mp rest
    obtain ⟨closer, second, rfl, closes, outside⟩ := List.map_eq_cons_iff.mp rest
    obtain ⟨plain, args, kind⟩ := Piece.of_shape_opens opens
    refine .block plain kind closes (proper closer (by simp)) (bare closer (by simp) _ closes) ?_
      (ihInner inside (fun p mem => proper p (by simp [mem]))
        (fun p mem => bare p (by simp [mem])))
      (ihAfter outside (fun p mem => proper p (by simp [mem]))
        (fun p mem => bare p (by simp [mem])))
    intro more
    rw [cutBlock?_of_nested nestedInner inside List.mem_cons_self]
    simp [cutBlock?, closes, Shape.depth?]

end Grows

/-! ## One scan -/

theorem lastStop_tagsAt (pieces : List Piece) :
    lastStop (tagsAt 0 1 pieces) = (joined pieces []).length := by
  rcases List.eq_nil_or_concat pieces with rfl | ⟨first, piece, rfl⟩
  · rfl
  · rw [List.concat_eq_append, tagsAt_append, lastStop, tagsAt, tagsAt, List.getLast?_concat,
      Option.map_some, Option.getD_some, Piece.stop_tag, joined_append]
    simp

theorem drop_lastStop (pieces : List Piece) (tail : List Char) :
    (joined pieces tail).drop (lastStop (tagsAt 0 1 pieces)) = tail := by
  rw [lastStop_tagsAt, joined_eq_append pieces tail, List.drop_left]

/-- Executing a body, which scans every block in it again, is running the tree of one scan of it,
whatever the values, the calls and the sections are: with the same look-ups, calls and sections in
the same order, to the same output or the same fault on the same line. -/
theorem execute_eq_run {source : String}
    (nested : Nested [] ((scan source.toList).map Tag.shape))
    (bare : ∀ tag ∈ scan source.toList, ∀ block : BlockKind,
      tag.shape = .closes block.keyword → tag.backslashes = 0) :
    ∃ tree, ofText? source.toList = some tree ∧
      ∀ {σ : Type} (path : Path) (scope : Scope σ),
        execute path source scope = String.ofList <$> tree.run path scope := by
  obtain ⟨pieces, tail, whole, proper, untagged⟩ := exists_pieces source.toList
  have tags := scan_joined proper untagged
  have shapes := map_shape_tagsAt 0 1 pieces
  rw [← whole, tags] at nested bare
  have bare' : ∀ piece ∈ pieces, ∀ block : BlockKind,
      piece.shape = .closes block.keyword → piece.backslashes = 0 := by
    intro piece mem block closes
    obtain ⟨first, second, rfl⟩ := List.append_of_mem mem
    refine bare (piece.tag (joined first []).length (1 + newlines (joined first []))) ?_ block
      closes
    simp [tagsAt_append, tagsAt]
  have stop : grow tail [] (1 + newlines (joined pieces [])) [] =
      some (.tail tail (1 + newlines (joined pieces [])), []) := rfl
  obtain ⟨tree, grown, runs⟩ := Grows.of_nested nested shapes.symm proper bare' stop
  refine ⟨tree, ?_, fun path scope => ?_⟩
  · rw [ofText?, ← whole, cutAt_joined proper untagged, tags, drop_lastStop]
    rw [List.append_nil] at grown
    rw [grown]
    rfl
  · have ends := runs path tail [] (fun scope => by rw [runPieces]; rfl) scope
    rw [List.append_nil] at ends
    rw [execute_joined proper untagged whole, ends]

/-- A loop with a section in it, which shows a tag that is escaped and one that is not. -/
def rowSections : String :=
  String.ofList (joined
    [⟨[], "each rows |row|".toList⟩, ⟨"- ".toList, "section \"a\"".toList⟩,
      ⟨"\\".toList, "x".toList⟩, ⟨[], "row".toList⟩, ⟨[], "/section".toList⟩,
      ⟨"\n".toList, "/each".toList⟩] "!".toList)

example : ofText? rowSections.toList =
    some (.verbatim [] (.each "rows |row|".toList 1
      (.verbatim "- ".toList (.capture "\"a\"".toList 1
        (.verbatim (Piece.braced ⟨[], ['x']⟩)
          (.verbatim [] (.expression "row".toList 1 (.verbatim [] .done))))
        (.verbatim ['\n'] .done)))
      (.tail ['!'] 2))) := by
  cbv

theorem execute_eq_run_rowSections :
    ∃ tree, ofText? rowSections.toList = some tree ∧
      ∀ {σ : Type} (path : Path) (scope : Scope σ),
        execute path rowSections scope = String.ofList <$> tree.run path scope := by
  have shapes : (scan rowSections.toList).map Tag.shape =
      [.opens .each, .opens .capture, .plain, .plain, .closes "section", .closes "each"] := by
    cbv
  have bare : ((scan rowSections.toList).all fun tag =>
      tag.shape = .plain || tag.backslashes = 0) = true := by
    cbv
  apply execute_eq_run
  · rw [shapes]
    have inside : Nested [.capture, .each] [.plain, .plain] := .plain (.plain .nil)
    exact .block (.block inside .nil) .nil
  · intro tag mem block closes
    have := List.all_eq_true.mp bare tag mem
    simpa [closes] using this

end Tree

end Folio
