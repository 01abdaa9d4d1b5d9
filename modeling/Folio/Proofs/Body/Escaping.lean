import Folio.Proofs.Body.Backslashes
import Folio.Proofs.Body.Positions
import Folio.Proofs.Body.Tree
import Mathlib

namespace Folio

open Body

/-- The rest of a text from the cursor on, with one more than twice as many backslashes before each
of its tags. -/
def escapeTags (text : List Char) (cursor : Nat) : List Tag → List Char
  | [] => text.drop cursor
  | tag :: tags =>
    text.extract cursor (tag.start - tag.backslashes) ++
      List.replicate (2 * tag.backslashes + 1) '\\' ++ text.extract tag.start tag.stop ++
        escapeTags text tag.stop tags

/-- The text with one more than twice as many backslashes before each of its tags. -/
def escape (text : List Char) : List Char :=
  escapeTags text 0 (scan text)

/-! ## One piece at a time -/

/-- Backslashes at the end of a text start no tag. -/
theorem cutPair?_append_backslashes {before : List Char} (h : cutPair? '{' before = none)
    (n : Nat) : cutPair? '{' (before ++ List.replicate n '\\') = none := by
  induction n with
  | zero => simpa using h
  | succ n ih =>
    rw [List.replicate_succ', ← List.append_assoc, cutPair?_append_cons ih (by decide)]
    rfl

theorem trailingBackslashes_append_replicate {text : List Char} (h : text.getLast? ≠ some '\\')
    (n : Nat) : trailingBackslashes (text ++ List.replicate n '\\') = n := by
  rcases List.eq_nil_or_concat text with rfl | ⟨front, c, rfl⟩
  · rw [List.nil_append, trailingBackslashes_replicate]
  · have other : c ≠ '\\' := by simpa using h
    rw [List.concat_eq_append, List.append_assoc, List.singleton_append,
      trailingBackslashes_append_cons _ _ other, trailingBackslashes_replicate]

namespace Piece

def escape (piece : Piece) : Piece :=
  ⟨piece.plain ++ List.replicate (2 * piece.backslashes + 1) '\\', piece.content⟩

@[simp] theorem braced_escape (piece : Piece) : piece.escape.braced = piece.braced := rfl

@[simp] theorem backslashes_escape (piece : Piece) :
    piece.escape.backslashes = 2 * piece.backslashes + 1 :=
  trailingBackslashes_append_replicate piece.getLast?_plain _

@[simp] theorem plain_escape (piece : Piece) : piece.escape.plain = piece.plain := by
  have before := piece.escape.before_eq
  rw [backslashes_escape] at before
  exact (List.append_cancel_right before).symm

/-- The tag of an escaped piece starts and ends where that of the piece does. -/
theorem Proper.escape {piece : Piece} (proper : piece.Proper) : piece.escape.Proper := by
  have plain : cutPair? '{' piece.plain = none := by
    have before := cutPair?_before proper.1
    rw [cutPair?_eq_none_iff] at before ⊢
    intro pair
    exact before (pair.trans (piece.before.rdropWhile_prefix _).isInfix)
  refine ⟨?_, proper.2⟩
  have slashes := cutPair?_append_backslashes plain (2 * piece.backslashes)
  have cut := cutPair?_append_cons slashes (by decide : '\\' ≠ '{') ['{', '{']
  rw [cutPair?_pair] at cut
  simpa [Piece.escape, List.replicate_succ'] using cut

theorem runPieces_escape {σ : Type} (path : Path) (scope : Scope σ) (line : Nat)
    (tail : List Char) (piece : Piece) (pieces : List Piece) :
    runPieces path scope line tail (piece.escape :: pieces) = (do
      let after ← runPieces path scope (line + newlines piece.escape.text) tail pieces
      pure (piece.text ++ after)) := by
  have odd : piece.escape.backslashes % 2 = 1 := by
    rw [backslashes_escape]
    omega
  have half : (2 * piece.backslashes + 1) / 2 = piece.backslashes := by omega
  rw [runPieces_of_odd odd, plain_escape, backslashes_escape, half, ← before_eq, braced_escape]
  simp only [text, List.append_assoc]

end Piece

theorem extract_plain (front : List Char) (piece : Piece) (rest : List Char) (line : Nat) :
    let tag := piece.tag front.length line
    (front ++ (piece.text ++ rest)).extract front.length (tag.start - tag.backslashes) =
      piece.plain := by
  have parts := extract_append front piece.plain
    (List.replicate piece.backslashes '\\' ++ piece.braced ++ rest)
  have whole : piece.text ++ rest =
      piece.plain ++ (List.replicate piece.backslashes '\\' ++ piece.braced ++ rest) := by
    rw [Piece.text, piece.before_eq]
    simp only [List.append_assoc]
  have length := congrArg List.length piece.before_eq
  rw [List.length_append, List.length_replicate] at length
  have stop : front.length + piece.before.length - piece.backslashes =
      front.length + piece.plain.length := by omega
  rwa [← whole, ← stop] at parts

theorem escapeTags_tagsAt (pieces : List Piece) (front tail : List Char) (line : Nat) :
    escapeTags (front ++ joined pieces tail) front.length (tagsAt front.length line pieces) =
      joined (pieces.map Piece.escape) tail := by
  induction pieces generalizing front line with
  | nil => exact List.drop_left
  | cons piece pieces ih =>
    have later := ih (front ++ piece.text) (line + newlines piece.text)
    rw [List.append_assoc, List.length_append] at later
    have tag := extract_tag piece front (joined pieces tail) line
    rw [List.length_append] at tag
    have before := extract_plain front piece (joined pieces tail) line
    simp only [tagsAt, escapeTags, joined_cons, Piece.stop_tag, later, tag, before, List.map_cons]
    rfl

/-- Escaping moves no tag. -/
theorem escape_joined {pieces : List Piece} {tail : List Char}
    (proper : ∀ piece ∈ pieces, piece.Proper) (untagged : Untagged tail) :
    escape (joined pieces tail) = joined (pieces.map Piece.escape) tail := by
  rw [escape, scan_joined proper untagged]
  exact escapeTags_tagsAt pieces [] tail 1

namespace Body

variable {σ : Type}

/-- Escaped pieces write the text of the pieces, if nothing is left open after them. -/
theorem runPieces_map_escape (path : Path) (scope : Scope σ) (line : Nat) {tail : List Char}
    (closed : cutPair? '{' tail = none) (pieces : List Piece) :
    runPieces path scope line tail (pieces.map Piece.escape) = pure (joined pieces tail) := by
  induction pieces generalizing line with
  | nil =>
    rw [List.map_nil, runPieces, runTail, openBraces?_eq_none closed]
    rfl
  | cons piece pieces ih =>
    rw [List.map_cons, Piece.runPieces_escape, ih, pure_bind]
    rfl

/-- Escaping a text and executing it gives the text back, whatever can be reached, if no braces are
left open after the last tag: no key is looked up, nothing is called and no section is declared. A
text without two opening braces in a row needs no escaping. -/
theorem execute_escape (source : String) (path : Path) (scope : Scope σ) :
    (¬ ['{', '{'] <:+: source.toList.drop (Tree.lastStop (scan source.toList)) →
      execute path (String.ofList (escape source.toList)) scope = pure source) ∧
    (¬ ['{', '{'] <:+: source.toList → execute path source scope = pure source) := by
  constructor
  · intro closed
    obtain ⟨pieces, tail, whole, proper, untagged⟩ := exists_pieces source.toList
    rw [← whole, scan_joined proper untagged, Tree.drop_lastStop, ← cutPair?_eq_none_iff] at closed
    have escaped : joined (pieces.map Piece.escape) tail =
        (String.ofList (escape source.toList)).toList := by
      rw [← whole, escape_joined proper untagged, String.toList_ofList]
    have proper' : ∀ piece ∈ pieces.map Piece.escape, piece.Proper := by
      intro piece mem
      obtain ⟨original, member, rfl⟩ := List.mem_map.mp mem
      exact (proper original member).escape
    rw [execute_joined proper' untagged escaped, runPieces_map_escape path scope 1 closed, map_pure,
      whole, String.ofList_toList]
  · intro single
    have bare : cutPair? '{' source.toList = none := cutPair?_eq_none_iff.mpr single
    have noTag : Untagged source.toList := by
      intro before rest found
      rw [bare] at found
      cases found
    have noPiece : ∀ piece ∈ ([] : List Piece), piece.Proper := by simp
    have shown := runPieces_map_escape path scope 1 bare []
    rw [List.map_nil, joined_nil] at shown
    rw [execute_joined noPiece noTag rfl, shown, map_pure, String.ofList_toList]

/-- A tag after two backslashes, three braces right after it, and a single brace at the end. -/
def twoTags : String :=
  String.ofList (joined [⟨"a\\\\".toList, ['x']⟩, ⟨[], ['{', 'y']⟩] [' ', '{', '\\'])

example : escape twoTags.toList =
    joined [⟨"a\\\\\\\\\\".toList, ['x']⟩, ⟨['\\'], ['{', 'y']⟩] [' ', '{', '\\'] := by
  cbv

theorem execute_escape_twoTags :
    execute "page.tpl" (String.ofList (escape twoTags.toList)) bareScope = pure twoTags ∧
      execute "page.tpl" "\x7b \\ \x7b" bareScope = pure "\x7b \\ \x7b" := by
  have rest : twoTags.toList.drop (Tree.lastStop (scan twoTags.toList)) = [' ', '{', '\\'] := by
    cbv
  have closed : ¬ ['{', '{'] <:+: [' ', '{', '\\'] := by decide
  have single : ¬ ['{', '{'] <:+: "\x7b \\ \x7b".toList := by decide
  constructor
  · exact (execute_escape twoTags "page.tpl" bareScope).1 (rest ▸ closed)
  · exact (execute_escape "\x7b \\ \x7b" "page.tpl" bareScope).2 single

end Body

end Folio
