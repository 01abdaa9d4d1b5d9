import Folio.Proofs.Body.Rescan
import Mathlib

/-! Half of the backslashes before a tag are written, and the tag is text if their number is odd.
There is one exception: the text of a block is cut right before the closing tag, so the backslashes
there are the end of that text and are written as they are. -/

namespace Folio

open Body

namespace Piece

/-- The text before the tag, up to the backslashes right before it. -/
def plain (piece : Piece) : List Char :=
  piece.before.rdropWhile (· = '\\')

/-- Nothing but backslashes stands between that text and the tag. -/
theorem before_eq (piece : Piece) :
    piece.before = piece.plain ++ List.replicate piece.backslashes '\\' := by
  have run : piece.before.rtakeWhile (· = '\\') = List.replicate piece.backslashes '\\' := by
    rw [List.eq_replicate_iff]
    constructor
    · simp [List.rtakeWhile, backslashes, trailingBackslashes]
    · intro c mem
      simpa using List.mem_rtakeWhile_imp mem
  rw [← run, plain, List.rdropWhile_append_rtakeWhile]

theorem getLast?_plain (piece : Piece) : piece.plain.getLast? ≠ some '\\' := by
  intro last
  have nonempty : piece.plain ≠ [] := by
    rintro none
    simp [none] at last
  have other := List.rdropWhile_last_not (· = '\\') piece.before nonempty
  rw [List.getLast?_eq_some_getLast nonempty, Option.some.injEq] at last
  exact other (decide_eq_true last)

theorem lead_eq (piece : Piece) :
    piece.lead = piece.plain ++ List.replicate (piece.backslashes / 2) '\\' := by
  have cut : piece.before.length - piece.backslashes = piece.plain.length := by
    have length := congrArg List.length piece.before_eq
    simp only [List.length_append, List.length_replicate] at length
    omega
  rw [lead, cut]
  congr 1
  conv_lhs => rw [piece.before_eq]
  exact List.take_left

theorem isEscaped_iff (piece : Piece) : piece.isEscaped = true ↔ piece.backslashes % 2 = 1 := by
  simp [isEscaped, Tag.isEscaped, firstTag, tag]

end Piece

namespace Body

variable {σ : Type}

/-- What a tag that ends on a line writes, with all that follows it. Nothing depends on what stands
before the tag. -/
def runTag (path : Path) (scope : Scope σ) (line : Nat) (tail : List Char) (kind : TagKind)
    (pieces : List Piece) : Run σ (List Char) :=
  match kind with
  | .expression source => do
    let shown ← shownSource path line scope source
    let after ← runPieces path scope line tail pieces
    pure (shown ++ after)
  | .closing keyword => malformed path line (.strayClosing keyword)
  | .opening block args =>
    match cutBlock? block 0 pieces with
    | none => malformed path line (.openBlock block)
    | some (inner, close, rest) => do
      let shown ← runBlock path line scope args
        (fun scope => runPieces path scope line close.before inner) block
      let after ← runPieces path scope (line + newlines (joined (inner ++ [close]) [])) tail rest
      pure (shown ++ after)

section
variable {path : Path} {scope : Scope σ} {line : Nat} {tail : List Char} {piece : Piece}
  {pieces : List Piece}

theorem runPieces_of_odd (odd : piece.backslashes % 2 = 1) :
    runPieces path scope line tail (piece :: pieces) = (do
      let after ← runPieces path scope (line + newlines piece.text) tail pieces
      pure (piece.plain ++ List.replicate (piece.backslashes / 2) '\\' ++
        (piece.braced ++ after))) := by
  rw [runPieces_escaped (piece.isEscaped_iff.mpr odd), piece.lead_eq]
  simp only [List.append_assoc]

theorem runPieces_of_even (even : piece.backslashes % 2 = 0) :
    runPieces path scope line tail (piece :: pieces) = (do
      let shown ← runTag path scope (line + newlines piece.text) tail piece.kind pieces
      pure (piece.plain ++ List.replicate (piece.backslashes / 2) '\\' ++ shown)) := by
  have acting : piece.isEscaped = false := by
    rw [Bool.eq_false_iff, ne_eq, piece.isEscaped_iff]
    omega
  cases kind : piece.kind with
  | expression source =>
    rw [runPieces_expression acting kind, piece.lead_eq]
    simp [runTag]
  | closing keyword =>
    rw [runPieces_closing acting kind]
    rfl
  | opening block args =>
    cases found : cutBlock? block 0 pieces with
    | none =>
      rw [runPieces_open acting kind found]
      simp only [runTag, found]
      rfl
    | some parts =>
      obtain ⟨inner, close, rest⟩ := parts
      rw [runPieces_block acting kind found, piece.lead_eq]
      simp [runTag, found]

/-- The text after the last tag is written as it is. The induction is on the number of pieces. -/
theorem suffix_of_runPieces {state after : σ} {output : List Char}
    (h : (runPieces path scope line tail pieces).eval state = (.ok output, after)) :
    tail <:+ output := by
  induction length : pieces.length using Nat.strongRecOn
    generalizing pieces scope line state output with
  | ind _ ih =>
    subst length
    cases pieces with
    | nil =>
      rw [runPieces, runTail] at h
      split at h
      · cases h
      · cases h
        exact List.suffix_refl tail
    | cons piece pieces =>
      rcases Nat.mod_two_eq_zero_or_one piece.backslashes with even | odd
      · rw [runPieces_of_even even] at h
        obtain ⟨shown, between, ran, rest⟩ := Run.exists_of_bind_ok h
        cases rest
        apply List.suffix_append_of_suffix
        cases kind : piece.kind with
        | expression source =>
          rw [kind, runTag] at ran
          obtain ⟨value, first, _, ran⟩ := Run.exists_of_bind_ok ran
          obtain ⟨rest, second, ran, ended⟩ := Run.exists_of_bind_ok ran
          cases ended
          exact List.suffix_append_of_suffix (ih pieces.length (by simp) ran rfl)
        | closing keyword =>
          rw [kind] at ran
          cases ran
        | opening block args =>
          rw [kind, runTag] at ran
          cases found : cutBlock? block 0 pieces with
          | none =>
            rw [found] at ran
            cases ran
          | some parts =>
            obtain ⟨inner, close, last⟩ := parts
            rw [found] at ran
            obtain ⟨value, first, _, ran⟩ := Run.exists_of_bind_ok ran
            obtain ⟨rest, second, ran, ended⟩ := Run.exists_of_bind_ok ran
            cases ended
            have shorter := (length_lt_of_cutBlock? found).2
            refine List.suffix_append_of_suffix (ih last.length ?_ ran rfl)
            rw [List.length_cons]
            omega
      · rw [runPieces_of_odd odd] at h
        obtain ⟨rest, between, ran, ended⟩ := Run.exists_of_bind_ok h
        cases ended
        apply List.suffix_append_of_suffix
        exact List.suffix_append_of_suffix (ih pieces.length (by simp) ran rfl)

/-- What becomes of the backslashes before a tag: half of them are written, and the tag is text if
their number is odd. But if it closes a block, the text of the block, of which `pieces` are the
pieces, ends in all of them. -/
theorem backslashes_written (path : Path) (scope : Scope σ) (line : Nat) (tail : List Char)
    (piece : Piece) (pieces : List Piece) :
    (runPieces path scope line tail (piece :: pieces) = do
      let line := line + newlines piece.text
      let rest ←
        if piece.backslashes % 2 = 1 then do
          let after ← runPieces path scope line tail pieces
          pure (piece.braced ++ after)
        else runTag path scope line tail piece.kind pieces
      pure (piece.plain ++ List.replicate (piece.backslashes / 2) '\\' ++ rest)) ∧
    ∀ (state after : σ) (output : List Char),
      (runPieces path scope line piece.before pieces).eval state = (.ok output, after) →
        ∃ front, output = front ++ piece.plain ++ List.replicate piece.backslashes '\\' := by
  constructor
  · rcases Nat.mod_two_eq_zero_or_one piece.backslashes with even | odd
    · rw [runPieces_of_even even, if_neg (by omega)]
    · rw [runPieces_of_odd odd, if_pos odd]
      simp
  · intro state after output ran
    obtain ⟨front, whole⟩ := suffix_of_runPieces ran
    refine ⟨front, ?_⟩
    rw [List.append_assoc, ← piece.before_eq, whole]

end

/-- A scope without values and calls that shows every section as it is. -/
def bareScope : Scope Unit where
  lookup _ _ := none
  invoke name _ := Run.fail (.helperNotFound name)
  declare _ content := pure content

def slashSection : List Piece :=
  [⟨[], "section \"a\"".toList⟩, ⟨"x\\\\".toList, "/section".toList⟩]

theorem kind_sectionTag : Piece.kind ⟨[], "section \"a\"".toList⟩ =
    .opening .capture "\"a\"".toList := by cbv

theorem read_sectionName : Expr.read "\"a\"".toList = .ok (.literal (.text "a")) := by cbv

/-- The backslashes before the closing tag are not halved. -/
theorem backslashes_not_halved :
    (execute "page.tpl" (String.ofList (joined slashSection [])) bareScope).eval () =
      (.ok "x\\\\", ()) := by
  have proper : ∀ piece ∈ slashSection, piece.Proper := by
    simp only [slashSection, List.forall_mem_cons, Piece.Proper]
    decide
  have name : Expr.read "\"a\"".toList = .ok (.literal (.text "a")) := by cbv
  have opens : Piece.kind ⟨[], "section \"a\"".toList⟩ = .opening .capture "\"a\"".toList := by
    cbv
  have ends : cutBlock? .capture 0 [⟨"x\\\\".toList, "/section".toList⟩] =
      some ([], ⟨"x\\\\".toList, "/section".toList⟩, []) := by cbv
  rw [execute_joined proper (by simp [Untagged]) String.toList_ofList.symm, slashSection,
    runPieces_block rfl opens ends]
  simp only [runBlock, sectionName, evaluateSource, name, evaluate, runPieces, runTail,
    openBraces?]
  rfl

end Body

end Folio
