import Folio.Proofs.Body.Backslashes
import Folio.Proofs.Body.Lines
import Mathlib

/-! A text that leaves no braces open, and that ends neither in a brace nor in a backslash, does not
change what is written after it: no tag starts in one text and ends in the other, and every block is
closed on its side of the seam. So a body that succeeds can be followed by any other. -/

namespace Folio

open Body

/-- A text that the first tag after it can do without: no braces are left open in it, and its last
character is neither an opening brace nor a backslash. -/
structure Sealed (text : List Char) : Prop where
  closed : cutPair? '{' text = none
  brace : text.getLast? ≠ some '{'
  slash : text.getLast? ≠ some '\\'

namespace Sealed

variable {front : List Char}

/-- Nothing stands before the seam, or another character than those two does. -/
theorem eq_nil_or_concat (shut : Sealed front) :
    front = [] ∨ ∃ init last, front = init ++ [last] ∧ last ≠ '{' ∧ last ≠ '\\' ∧
      cutPair? '{' init = none := by
  rcases List.eq_nil_or_concat front with rfl | ⟨init, last, rfl⟩
  · exact .inl rfl
  · rw [List.concat_eq_append] at shut ⊢
    have init_closed : cutPair? '{' init = none := by
      have closed := shut.closed
      rw [cutPair?_eq_none_iff] at closed ⊢
      intro pair
      exact closed (pair.trans (List.prefix_append init [last]).isInfix)
    refine .inr ⟨init, last, rfl, ?_, ?_, init_closed⟩
    · simpa using shut.brace
    · simpa using shut.slash

theorem cutPair?_append (shut : Sealed front) (text : List Char) :
    cutPair? '{' (front ++ text) =
      (cutPair? '{' text).map fun parts => (front ++ parts.1, parts.2) := by
  rcases shut.eq_nil_or_concat with rfl | ⟨init, last, rfl, brace, -, closed⟩
  · simp
  · rw [List.append_assoc, List.singleton_append, cutPair?_append_cons closed brace]
    simp

theorem trailingBackslashes_append (shut : Sealed front) (text : List Char) :
    trailingBackslashes (front ++ text) = trailingBackslashes text := by
  rcases shut.eq_nil_or_concat with rfl | ⟨init, last, rfl, -, slash, -⟩
  · rfl
  · rw [List.append_assoc, List.singleton_append, trailingBackslashes_append_cons _ _ slash]

theorem untagged (shut : Sealed front) {tail : List Char} (untagged : Untagged tail) :
    Untagged (front ++ tail) := by
  intro _ _ found
  rw [shut.cutPair?_append, Option.map_eq_some_iff] at found
  obtain ⟨⟨before, rest⟩, found, same⟩ := found
  cases same
  exact untagged before rest found

end Sealed

/-- Braces that are left open are found at the same place when the text starts later. -/
theorem openBraces?_add (shift position backslashes : Nat) (text : List Char) :
    openBraces? (shift + position) backslashes text =
      (openBraces? position backslashes text).map (shift + ·) := by
  fun_induction openBraces? position backslashes text with
  | case1 position backslashes rest even => simp [openBraces?, even]
  | case2 position backslashes rest odd ih =>
    rw [openBraces?, if_neg odd, ← ih, Nat.add_assoc]
  | case3 position backslashes c rest single ih =>
    rw [openBraces?, ← ih, Nat.add_assoc]
    exact single
  | case4 => rfl

/-- Braces that are left open are looked for from the seam on. The induction is on the text before
it, of which the backslashes do not count at its end. -/
theorem Sealed.openBraces?_append {front : List Char} (shut : Sealed front) (nonempty : front ≠ [])
    (position backslashes : Nat) (tail : List Char) :
    openBraces? position backslashes (front ++ tail) =
      openBraces? (position + front.length) 0 tail := by
  induction front generalizing position backslashes with
  | nil => exact absurd rfl nonempty
  | cons c front ih =>
    cases front with
    | nil =>
      have brace : c ≠ '{' := by simpa using shut.brace
      have slash : c ≠ '\\' := by simpa using shut.slash
      rw [List.singleton_append, openBraces?, if_neg slash]
      · rfl
      · rintro rest rfl
        exact absurd rfl brace
    | cons d front =>
      have later : Sealed (d :: front) :=
        ⟨cutPair?_of_cons shut.closed, by simpa using shut.brace, by simpa using shut.slash⟩
      rw [List.cons_append, openBraces?, ih later (by simp)]
      · congr 1
        simp only [List.length_cons]
        omega
      · rintro rest rfl same
        cases same
        have closed := shut.closed
        rw [cutPair?_pair] at closed
        cases closed

namespace Piece

def prepend (front : List Char) (piece : Piece) : Piece :=
  ⟨front ++ piece.before, piece.content⟩

variable {front : List Char} (piece : Piece)

@[simp] theorem text_prepend : (piece.prepend front).text = front ++ piece.text :=
  List.append_assoc ..

theorem newlines_prepend :
    newlines (piece.prepend front).text = newlines front + newlines piece.text := by
  rw [text_prepend, newlines_append]

variable (shut : Sealed front)
include shut

theorem backslashes_prepend : (piece.prepend front).backslashes = piece.backslashes :=
  shut.trailingBackslashes_append piece.before

theorem plain_prepend : (piece.prepend front).plain = front ++ piece.plain := by
  have whole : front ++ piece.before = (piece.prepend front).plain ++
      List.replicate (piece.prepend front).backslashes '\\' := (piece.prepend front).before_eq
  rw [piece.backslashes_prepend shut, piece.before_eq, ← List.append_assoc] at whole
  exact (List.append_cancel_right whole).symm

variable {piece} in
theorem Proper.prepend (proper : piece.Proper) : (piece.prepend front).Proper := by
  refine ⟨?_, proper.2⟩
  rw [Piece.prepend, List.append_assoc, shut.cutPair?_append, proper.1]
  rfl

end Piece

namespace Body

variable {σ : Type} {front : List Char}

theorem runTail_append (shut : Sealed front) (path : Path) (line : Nat) (tail : List Char) :
    runTail (σ := σ) path line (front ++ tail) =
      (front ++ ·) <$> runTail path (line + newlines front) tail := by
  by_cases nonempty : front = []
  · subst nonempty
    simp [newlines]
  · have same := openBraces?_add front.length 0 0 tail
    rw [runTail, runTail, shut.openBraces?_append nonempty, Nat.add_comm 0, same]
    cases openBraces? 0 0 tail with
    | none => rfl
    | some position =>
      simp only [Option.map_some, List.take_length_add_append, newlines_append, Nat.add_assoc]
      rfl

theorem runPieces_prepend (shut : Sealed front) (path : Path) (scope : Scope σ) (line : Nat)
    (tail : List Char) (piece : Piece) (pieces : List Piece) :
    runPieces path scope line tail (piece.prepend front :: pieces) =
      (front ++ ·) <$> runPieces path scope (line + newlines front) tail (piece :: pieces) := by
  have lines : line + newlines (piece.prepend front).text =
      line + newlines front + newlines piece.text := by
    rw [piece.newlines_prepend, Nat.add_assoc]
  have slashes := piece.backslashes_prepend shut
  rcases Nat.mod_two_eq_zero_or_one piece.backslashes with even | odd
  · rw [runPieces_of_even even, runPieces_of_even (slashes ▸ even), lines,
      piece.plain_prepend shut, slashes]
    simp only [map_eq_pure_bind, bind_assoc, pure_bind, List.append_assoc]
    rfl
  · rw [runPieces_of_odd odd, runPieces_of_odd (slashes ▸ odd), lines, piece.plain_prepend shut,
      slashes]
    simp only [map_eq_pure_bind, bind_assoc, pure_bind, List.append_assoc]
    rfl

/-- Text before the seam, before a text that is a row of pieces and a tail: together they are
another row of pieces and a tail, which writes the text before the seam first. -/
theorem exists_pieces_after (shut : Sealed front) {pieces : List Piece} {tail : List Char}
    (proper : ∀ piece ∈ pieces, piece.Proper) (untagged : Untagged tail) :
    ∃ pieces' tail', joined pieces' tail' = front ++ joined pieces tail ∧
      (∀ piece ∈ pieces', piece.Proper) ∧ Untagged tail' ∧
      ∀ {σ : Type} (path : Path) (scope : Scope σ) (line : Nat),
        runPieces path scope line tail' pieces' =
          (front ++ ·) <$> runPieces path scope (line + newlines front) tail pieces := by
  cases pieces with
  | nil =>
    refine ⟨[], front ++ tail, rfl, by simp, shut.untagged untagged, fun path scope line => ?_⟩
    rw [runPieces, runPieces, runTail_append shut]
  | cons piece pieces =>
    obtain ⟨first, rest⟩ := List.forall_mem_cons.mp proper
    refine ⟨piece.prepend front :: pieces, tail, ?_, ?_, untagged, fun path scope line => ?_⟩
    · simp
    · exact List.forall_mem_cons.mpr ⟨first.prepend shut, rest⟩
    · exact runPieces_prepend shut path scope line tail piece pieces

/-! ## Pieces before the seam -/

/-- What is executed to the end with `front` as the text after the last tag, and leaves the state
`between`, does the same if other pieces follow in place of that text. They go on from that state,
on a line that is known. -/
def Continues (path : Path) (scope : Scope σ) (front : List Char) (line : Nat) (state between : σ)
    (output : List Char) (run : List Char → List Piece → Run σ (List Char)) : Prop :=
  ∃ shown, output = shown ++ front ∧ ∀ (tail : List Char) (more : List Piece),
    (run tail more).eval state =
      ((shown ++ ·) <$> runPieces path scope line tail more).eval between

section
variable {path : Path} {scope : Scope σ} {line : Nat} {front output : List Char}
  {state between : σ}

/-- Text may be written before. -/
theorem Continues.prepend {run : List Char → List Piece → Run σ (List Char)}
    (h : Continues path scope front line state between output run) (text : List Char) :
    Continues path scope front line state between (text ++ output)
      fun tail more => (text ++ ·) <$> run tail more := by
  obtain ⟨shown, rfl, follows⟩ := h
  refine ⟨text ++ shown, (List.append_assoc ..).symm, fun tail more => ?_⟩
  rw [Run.eval_map, follows, ← Run.eval_map]
  simp

/-- Other runs may come before. -/
theorem Continues.after {α : Type} (run : α → List Char → List Piece → Run σ (List Char))
    {first : Run σ α} {value : α} {start : σ}
    (h : Continues path scope front line state between output (run value))
    (ran : first.eval start = (.ok value, state)) :
    Continues path scope front line start between output
      fun tail more => first >>= fun value => run value tail more := by
  obtain ⟨shown, same, follows⟩ := h
  refine ⟨shown, same, fun tail more => ?_⟩
  rw [Run.bind_of_ok ran, follows]

/-- A tag that is executed to the end, if the pieces after it can be followed by others. -/
theorem continues_runTag {kind : TagKind} {pieces : List Piece}
    (h : (runTag path scope line front kind pieces).eval state = (.ok output, between))
    (rest : ∀ {last : List Piece} {line : Nat} {state : σ} {output : List Char},
      last.length ≤ pieces.length →
      (runPieces path scope line front last).eval state = (.ok output, between) →
      Continues path scope front (line + newlines (joined last [])) state between output
        fun tail more => runPieces path scope line tail (last ++ more)) :
    Continues path scope front (line + newlines (joined pieces [])) state between output
      fun tail more => runTag path scope line tail kind (pieces ++ more) := by
  cases kind with
  | expression source =>
    obtain ⟨value, first, evaluated, ran⟩ := Run.exists_of_bind_ok h
    obtain ⟨after, second, ran, ended⟩ := Run.exists_of_bind_ok ran
    cases ended
    have follows := (rest le_rfl ran).prepend value
    simp only [map_eq_pure_bind] at follows
    let run (value tail : List Char) (more : List Piece) : Run σ (List Char) := do
      let after ← runPieces path scope line tail (pieces ++ more)
      pure (value ++ after)
    exact .after run follows evaluated
  | closing keyword => cases h
  | opening block args =>
    rw [runTag] at h
    cases found : cutBlock? block 0 pieces with
    | none =>
      rw [found] at h
      cases h
    | some parts =>
      obtain ⟨inner, close, last⟩ := parts
      rw [found] at h
      obtain ⟨value, first, executed, ran⟩ := Run.exists_of_bind_ok h
      obtain ⟨after, second, ran, ended⟩ := Run.exists_of_bind_ok ran
      cases ended
      have lines : newlines (joined pieces []) =
          newlines (joined (inner ++ [close]) []) + newlines (joined last []) := by
        rw [joined_eq_outside (append_of_cutBlock? found) [], newlines_append]
      have fewer : last.length ≤ pieces.length := (length_lt_of_cutBlock? found).2.le
      have follows := (rest fewer ran).prepend value
      simp only [map_eq_pure_bind] at follows
      rw [lines, ← Nat.add_assoc]
      simp only [runTag, cutBlock?_append found]
      let run (value tail : List Char) (more : List Piece) : Run σ (List Char) := do
        let after ← runPieces path scope (line + newlines (joined (inner ++ [close]) [])) tail
          (last ++ more)
        pure (value ++ after)
      exact .after run follows executed

/-- Pieces that are executed to the end can be followed by others. -/
theorem runPieces_append {pieces : List Piece}
    (h : (runPieces path scope line front pieces).eval state = (.ok output, between)) :
    Continues path scope front (line + newlines (joined pieces [])) state between output
      fun tail more => runPieces path scope line tail (pieces ++ more) := by
  induction length : pieces.length using Nat.strongRecOn
    generalizing pieces line state output with
  | ind _ ih =>
    subst length
    cases pieces with
    | nil =>
      rw [runPieces, runTail] at h
      split at h
      · cases h
      · cases h
        refine ⟨[], rfl, fun tail more => ?_⟩
        simp [newlines]
    | cons piece pieces =>
      have lines : line + newlines (joined (piece :: pieces) []) =
          line + newlines piece.text + newlines (joined pieces []) := by
        rw [joined_cons, newlines_append, Nat.add_assoc]
      rw [lines]
      rcases Nat.mod_two_eq_zero_or_one piece.backslashes with even | odd
      · rw [runPieces_of_even even] at h
        obtain ⟨written, last, ran, ended⟩ := Run.exists_of_bind_ok h
        cases ended
        have follows := continues_runTag ran fun fewer ran =>
          ih _ (Nat.lt_succ_of_le fewer) ran rfl
        simp only [List.cons_append, runPieces_of_even even]
        simpa only [map_eq_pure_bind] using follows.prepend _
      · rw [runPieces_of_odd odd] at h
        obtain ⟨rest, last, ran, ended⟩ := Run.exists_of_bind_ok h
        cases ended
        have follows := ih pieces.length (by simp) ran rfl
        have written := follows.prepend
          (piece.plain ++ List.replicate (piece.backslashes / 2) '\\' ++ piece.braced)
        simp only [List.cons_append, runPieces_of_odd odd]
        simpa only [map_eq_pure_bind, List.append_assoc] using written

end

/-- The text after the last tag, if the source ends in no brace and no backslash. -/
theorem sealed_tail {source : List Char} {pieces : List Piece} {tail : List Char}
    (whole : joined pieces tail = source)
    (last : ∀ c, source.getLast? = some c → c ≠ '{' ∧ c ≠ '\\')
    (closed : ¬ ['{', '{'] <:+: tail) : Sealed tail := by
  have last_of_tail (c : Char) (h : tail.getLast? = some c) : c ≠ '{' ∧ c ≠ '\\' := by
    apply last
    rw [← whole, joined_eq_append, List.getLast?_append, h]
    rfl
  refine ⟨cutPair?_eq_none_iff.mpr closed, fun brace => ?_, fun slash => ?_⟩
  · exact (last_of_tail _ brace).1 rfl
  · exact (last_of_tail _ slash).2 rfl

/-- A body that succeeds writes its output before that of the body that follows it, which starts in
the state that is left and has its lines counted on. -/
theorem eval_append {path : Path} {a b shown : String} {scope : Scope σ} {state between : σ}
    (succeeds : (execute path a scope).eval state = (.ok shown, between))
    (last : ∀ c, a.toList.getLast? = some c → c ≠ '{' ∧ c ≠ '\\')
    (closed : ¬ ['{', '{'] <:+: a.toList.drop (Tree.lastStop (scan a.toList))) :
    (execute path (a ++ b) scope).eval state =
      ((shown ++ ·) <$> executeAt path
        (fun position => newlines a.toList + lineAt b.toList position) b scope).eval between := by
  obtain ⟨pieces, front, whole, proper, untagged⟩ := exists_pieces a.toList
  obtain ⟨more, tail, whole', proper', untagged'⟩ := exists_pieces b.toList
  rw [← whole, scan_joined proper untagged, Tree.drop_lastStop] at closed
  have shut := sealed_tail whole last closed
  rw [execute_joined proper untagged whole, map_eq_pure_bind] at succeeds
  obtain ⟨output, _, ran, ended⟩ := Run.exists_of_bind_ok succeeds
  cases ended
  obtain ⟨written, rfl, follows⟩ := runPieces_append ran
  obtain ⟨joint, tail', same, properJoint, untaggedJoint, writes⟩ :=
    exists_pieces_after shut proper' untagged'
  have properWhole : ∀ piece ∈ pieces ++ joint, piece.Proper :=
    List.forall_mem_append.mpr ⟨proper, properJoint⟩
  have wholeJoint : joined (pieces ++ joint) tail' = (a ++ b).toList := by
    rw [joined_append, same, ← List.append_assoc, ← joined_eq_append, whole, whole',
      String.toList_append]
  have lines : 1 + newlines (joined pieces []) + newlines front =
      newlines a.toList + (1 + newlines []) := by
    rw [← whole, joined_eq_append pieces front, newlines_append]
    simp only [newlines, List.count_nil]
    omega
  have text := runText_eq_executeAt path (newlines a.toList) b scope
  rw [← whole', runText_joined proper' untagged', runFrom_eq_runPieces proper' untagged', ← lines,
    whole'] at text
  rw [execute_joined properWhole untaggedJoint wholeJoint, map_eq_pure_bind,
    Run.bind_of_eq (follows tail' joint), writes, ← text]
  simp [String.ofList_append, String.append_assoc]

/-- A body that succeeds, followed by another body, if no tag can start at the end of the first one.
The whole ends as the second body does when it is executed in the state that the first one has left:
with both outputs, or with the same error. Only a fault that the second body reports itself is
reported as many lines further down as the first body has; an error of a call or a section, such as
that of another file, is passed on as it is. -/
theorem execute_append {path : Path} {a b shown : String} {scope : Scope σ} {state between : σ}
    (succeeds : (execute path a scope).eval state = (.ok shown, between))
    (last : ∀ c, a.toList.getLast? = some c → c ≠ '{' ∧ c ≠ '\\')
    (closed : ¬ ['{', '{'] <:+: a.toList.drop (Tree.lastStop (scan a.toList))) :
    ∃ (ending : Ending String) (after : σ),
      ending.Fits (FaultAt b.toList) (scope.Passes path) after ∧
      (execute path b scope).eval between = (ending.result path (lineAt b.toList), after) ∧
      (execute path (a ++ b) scope).eval state =
        ((shown ++ ·) <$> ending.result path
          (fun position => newlines a.toList + lineAt b.toList position), after) ∧
      ∀ line, (executeAt path line b scope).eval between = (ending.result path line, after) := by
  obtain ⟨ending, after, fits, alone, ends⟩ := execute_lines path b scope between
  refine ⟨ending, after, fits, alone, ?_, ends⟩
  rw [eval_append succeeds last closed, Run.eval_map, ends]

/-- A scope that keeps the sections and gives back their contents under their names. -/
def keepingScope : Scope (List (String × String)) where
  lookup sections key := (sections.lookup key).map .text
  invoke name _ := Run.fail (.helperNotFound name)
  declare name content := Run.of fun sections => (.ok "", (name, content) :: sections)

/-- A section, and a tag that is escaped. -/
def escapedAfterSection : List Piece :=
  [⟨[], "section \"a\"".toList⟩, ⟨['x'], "/section".toList⟩, ⟨['\\'], ['b']⟩]

/-- They stand on one line. The next line shows the section and asks for a key that is not
defined. -/
theorem execute_append_escapedAfterSection :
    let first := String.ofList (joined escapedAfterSection ['\n'])
    (execute "page.tpl" first keepingScope).eval [] = (.ok "{{b}}\n", [("a", "x")]) ∧
    ∃ (ending : Ending String) (after : List (String × String)),
      ending.Fits (FaultAt "{{a}}{{b}}".toList) (keepingScope.Passes "page.tpl") after ∧
      (execute "page.tpl" "{{a}}{{b}}" keepingScope).eval [("a", "x")] =
        (ending.result "page.tpl" (lineAt "{{a}}{{b}}".toList), after) ∧
      (execute "page.tpl" (first ++ "{{a}}{{b}}") keepingScope).eval [] =
        (("{{b}}\n" ++ ·) <$> ending.result "page.tpl"
          (fun position => newlines first.toList + lineAt "{{a}}{{b}}".toList position), after) ∧
      ∀ line, (executeAt "page.tpl" line "{{a}}{{b}}" keepingScope).eval [("a", "x")] =
        (ending.result "page.tpl" line, after) := by
  have proper : ∀ piece ∈ escapedAfterSection, piece.Proper := by decide
  have untagged : Untagged ['\n'] := by
    intro before rest found
    cases found
  have ends : cutBlock? .capture 0 [⟨['x'], "/section".toList⟩, ⟨['\\'], ['b']⟩] =
      some ([], ⟨['x'], "/section".toList⟩, [⟨['\\'], ['b']⟩]) := by
    cbv
  have escaped : (Piece.mk ['\\'] ['b']).isEscaped = true := by decide
  have succeeds : (execute "page.tpl" (String.ofList (joined escapedAfterSection ['\n']))
      keepingScope).eval [] = (.ok "{{b}}\n", [("a", "x")]) := by
    rw [execute_joined proper untagged String.toList_ofList.symm, escapedAfterSection,
      runPieces_block rfl kind_sectionTag ends]
    simp only [runPieces_escaped escaped, runBlock, sectionName, evaluateSource, read_sectionName,
      evaluate, runPieces, runTail]
    rfl
  refine ⟨succeeds, execute_append succeeds ?_ ?_⟩
  · intro c last
    rw [String.toList_ofList, joined_eq_append, List.getLast?_concat] at last
    cases last
    decide
  · rw [String.toList_ofList, scan_joined proper untagged, Tree.drop_lastStop]
    decide

end Body

end Folio
