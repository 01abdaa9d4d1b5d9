import Folio.Proofs.Body.Positions
import Folio.Proofs.Body.Report
import Folio.Proofs.Body.Tree
import Mathlib

/-! A fault in a body is reported on the line of the file on which the tag at fault ends, however
deep the tag stands in blocks and whichever item a loop has come to. Executing a body scans the text
of every block again and counts the lines before it; so it is set beside an execution that knows the
position of every tag in the whole source, and reports a fault at that position. -/

namespace Folio

open Body

namespace Body

variable {σ : Type}

/-- Executes pieces of a source, of which the first one starts at a position, and a tail. A fault in
a tag is reported on the line that `line` gives for the position of its closing braces, and braces
that are left open in the tail on the line of their own position. -/
def runAt (path : Path) (line : Nat → Nat) (scope : Scope σ) (position : Nat)
    (tail : List Char) : List Piece → Run σ (List Char)
  | [] =>
    match openBraces? 0 0 tail with
    | some offset => malformed path (line (position + offset)) .openTag
    | none => pure tail
  | piece :: pieces =>
    let here := line (piece.closing position)
    let next := position + piece.text.length
    if piece.isEscaped then do
      let after ← runAt path line scope next tail pieces
      pure (piece.lead ++ piece.braced ++ after)
    else
      match piece.kind with
      | .expression source => do
        let shown ← shownSource path here scope source
        let after ← runAt path line scope next tail pieces
        pure (piece.lead ++ shown ++ after)
      | .closing keyword => malformed path here (.strayClosing keyword)
      | .opening block args =>
        match _h : cutBlock? block 0 pieces with
        | none => malformed path here (.openBlock block)
        | some (inner, close, rest) => do
          let execute := fun scope => runAt path line scope next close.before inner
          let shown ← runBlock path here scope args execute block
          let after ← runAt path line scope (next + (joined (inner ++ [close]) []).length) tail rest
          pure (piece.lead ++ shown ++ after)
termination_by pieces => pieces.length
decreasing_by
  · simp
  · simp
  · exact Nat.lt_succ_of_lt (length_lt_of_cutBlock? _h).1
  · exact Nat.lt_succ_of_lt (length_lt_of_cutBlock? _h).2

/-- Executes a whole body, with faults on the lines that `line` gives for positions in it. -/
def executeAt (path : Path) (line : Nat → Nat) (source : String) (scope : Scope σ) :
    Run σ String := do
  let tags := scan source.toList
  let tail := source.toList.drop (Tree.lastStop tags)
  let text ← runAt path line scope 0 tail (cutAt source.toList 0 tags)
  pure (String.ofList text)

/-! ## One piece at a time -/

section
variable {path : Path} {line : Nat → Nat} {scope : Scope σ} {position : Nat} {tail : List Char}
  {piece : Piece} {pieces : List Piece}

theorem runAt_escaped (escaped : piece.isEscaped = true) :
    runAt path line scope position tail (piece :: pieces) = (do
      let after ← runAt path line scope (position + piece.text.length) tail pieces
      pure (piece.lead ++ piece.braced ++ after)) := by
  rw [runAt, if_pos escaped]

theorem runAt_expression (plain : piece.isEscaped = false) {source : List Char}
    (kind : piece.kind = .expression source) :
    runAt path line scope position tail (piece :: pieces) = (do
      let shown ← shownSource path (line (piece.closing position)) scope source
      let after ← runAt path line scope (position + piece.text.length) tail pieces
      pure (piece.lead ++ shown ++ after)) := by
  rw [runAt, if_neg (by simp [plain])]
  simp only [kind]

theorem runAt_closing (plain : piece.isEscaped = false) {keyword : String}
    (kind : piece.kind = .closing keyword) :
    runAt path line scope position tail (piece :: pieces) =
      malformed path (line (piece.closing position)) (.strayClosing keyword) := by
  rw [runAt, if_neg (by simp [plain])]
  simp only [kind]

theorem runAt_open (plain : piece.isEscaped = false) {block : BlockKind} {args : List Char}
    (kind : piece.kind = .opening block args) (last : cutBlock? block 0 pieces = none) :
    runAt path line scope position tail (piece :: pieces) =
      malformed path (line (piece.closing position)) (.openBlock block) := by
  rw [runAt, if_neg (by simp [plain])]
  simp only [kind]
  split
  · rfl
  · rename_i found; cases last.symm.trans found

theorem runAt_block (plain : piece.isEscaped = false) {block : BlockKind} {args : List Char}
    (kind : piece.kind = .opening block args) {inner rest : List Piece} {close : Piece}
    (last : cutBlock? block 0 pieces = some (inner, close, rest)) :
    runAt path line scope position tail (piece :: pieces) = (do
      let next := position + piece.text.length
      let shown ← runBlock path (line (piece.closing position)) scope args
        (fun scope => runAt path line scope next close.before inner) block
      let after ← runAt path line scope (next + (joined (inner ++ [close]) []).length) tail rest
      pure (piece.lead ++ shown ++ after)) := by
  rw [runAt, if_neg (by simp [plain])]
  simp only [kind]
  split
  · rename_i found; cases last.symm.trans found
  · rename_i found; cases last.symm.trans found; rfl

end

/-! ## The lines are those of the source -/

theorem of_openBraces? {position backslashes found : Nat} {text : List Char}
    (h : openBraces? position backslashes text = some found) :
    ∃ before rest, text = before ++ '{' :: '{' :: rest ∧ found = position + before.length ∧
      trailingBackslashes (List.replicate backslashes '\\' ++ before) % 2 = 0 := by
  fun_induction openBraces? position backslashes text with
  | case1 position backslashes rest even =>
    cases h
    exact ⟨[], rest, rfl, rfl, by simpa using even⟩
  | case2 position backslashes rest odd ih =>
    obtain ⟨before, rest, rfl, rfl, even⟩ := ih h
    refine ⟨'{' :: '{' :: before, rest, rfl, ?_, ?_⟩
    · simp only [List.length_cons]
      omega
    · have next := trailingBackslashes_append_cons [] before (by decide : '{' ≠ '\\')
      rw [trailingBackslashes_append_cons _ _ (by decide)]
      exact (congrArg (· % 2) next).trans even
  | case3 position backslashes c rest single ih =>
    obtain ⟨before, rest, rfl, rfl, even⟩ := ih h
    refine ⟨c :: before, rest, rfl, ?_, ?_⟩
    · simp only [List.length_cons]
      omega
    · by_cases slash : c = '\\'
      · subst slash
        rw [if_pos rfl, List.replicate_succ', List.append_assoc] at even
        exact even
      · rw [trailingBackslashes_append_cons _ _ slash]
        rwa [if_neg slash] at even
  | case4 => cases h

/-- The line on which a text that follows `front` starts. -/
theorem lineAt_append (front rest : List Char) :
    lineAt (front ++ rest) front.length = 1 + newlines front := by
  rw [lineAt, List.take_left]

theorem runTail_eq_runAt (path : Path) (scope : Scope σ) (lines : Nat)
    (front tail back : List Char) :
    runTail path (lines + 1 + newlines front) tail =
      runAt path (fun position => lines + lineAt (front ++ (tail ++ back)) position) scope
        front.length tail [] := by
  rw [runTail, runAt]
  cases found : openBraces? 0 0 tail with
  | none => rfl
  | some offset =>
    obtain ⟨before, rest, rfl, same, -⟩ := of_openBraces? found
    have line : lineAt (front ++ (before ++ '{' :: '{' :: rest ++ back)) (front.length + offset) =
        1 + newlines front + newlines ((before ++ '{' :: '{' :: rest).take offset) := by
      have start := lineAt_append (front ++ before) ('{' :: '{' :: rest ++ back)
      rw [same, Nat.zero_add, List.take_left, Nat.add_assoc, ← newlines_append, ← start]
      simp
    simp only [line, Nat.add_assoc]

theorem joined_eq_inside {pieces inner rest : List Piece} {close : Piece}
    (cut : inner ++ close :: rest = pieces) (tail : List Char) :
    joined pieces tail = joined inner close.before ++ (close.braced ++ joined rest tail) := by
  rw [← cut, joined_append, joined_eq_append inner close.before]
  simp [Piece.text]

theorem joined_eq_outside {pieces inner rest : List Piece} {close : Piece}
    (cut : inner ++ close :: rest = pieces) (tail : List Char) :
    joined pieces tail = joined (inner ++ [close]) [] ++ joined rest tail := by
  rw [← cut]
  simp [joined_append]

/-- Executing pieces of a source that follows some lines, which counts the lines from one tag to the
next, reports the lines of their positions in the source. The induction is on the number of pieces,
of which there are fewer inside a block and after it; the source is the same for all of them. -/
theorem runPieces_eq_runAt (path : Path) {source : List Char} (scope : Scope σ) (lines : Nat)
    (front tail back : List Char) (pieces : List Piece)
    (whole : front ++ (joined pieces tail ++ back) = source) :
    runPieces path scope (lines + 1 + newlines front) tail pieces =
      runAt path (fun position => lines + lineAt source position) scope front.length tail
        pieces := by
  induction h : pieces.length using Nat.strongRecOn
    generalizing pieces scope front tail back with
  | ind length ih =>
    subst h
    cases pieces with
    | nil =>
      rw [runPieces, ← whole]
      exact runTail_eq_runAt path scope lines front tail back
    | cons piece pieces =>
      rw [joined_cons] at whole
      have here : lines + lineAt source (piece.closing front.length) =
          lines + 1 + newlines front + newlines piece.text := by
        rw [← whole, List.append_assoc, piece.lineAt_closing front, ← Nat.add_assoc,
          ← Nat.add_assoc]
      have next := ih pieces.length (by simp) scope (front ++ piece.text) tail back pieces
        (by simpa using whole) rfl
      rw [newlines_append, ← Nat.add_assoc, List.length_append] at next
      cases escaped : piece.isEscaped with
      | true => rw [runPieces_escaped escaped, runAt_escaped escaped, next]
      | false =>
        cases kind : piece.kind with
        | expression source =>
          rw [runPieces_expression escaped kind, runAt_expression escaped kind, next, here]
        | closing keyword =>
          rw [runPieces_closing escaped kind, runAt_closing escaped kind, here]
        | opening block args =>
          cases found : cutBlock? block 0 pieces with
          | none => rw [runPieces_open escaped kind found, runAt_open escaped kind found, here]
          | some parts =>
            obtain ⟨inner, close, rest⟩ := parts
            have shorter := length_lt_of_cutBlock? found
            have fewer : inner.length < (piece :: pieces).length ∧
                rest.length < (piece :: pieces).length := by
              simp only [List.length_cons]
              omega
            have cut := append_of_cutBlock? found
            have inside (scope : Scope σ) := ih inner.length fewer.1 scope (front ++ piece.text)
              close.before (close.braced ++ joined rest tail ++ back) inner
              (by simpa [joined_eq_inside cut] using whole) rfl
            have outside := ih rest.length fewer.2 scope
              (front ++ piece.text ++ joined (inner ++ [close]) []) tail back rest
              (by simpa [joined_eq_outside cut] using whole) rfl
            simp only [newlines_append, ← Nat.add_assoc, List.length_append] at inside outside
            rw [runPieces_block escaped kind found, runAt_block escaped kind found, here]
            simp only [inside, outside]

theorem runText_eq_executeAt (path : Path) (lines : Nat) (source : String) (scope : Scope σ) :
    String.ofList <$> runText path source.toList lines scope =
      executeAt path (fun position => lines + lineAt source.toList position) source scope := by
  obtain ⟨pieces, tail, whole, proper, untagged⟩ := exists_pieces source.toList
  have same := runPieces_eq_runAt path scope lines [] tail [] pieces
    ((List.append_nil _).trans whole)
  have text := runFrom_eq_runPieces proper untagged path [] lines scope
  rw [executeAt, ← whole, cutAt_joined proper untagged, scan_joined proper untagged,
    Tree.drop_lastStop, runText_joined proper untagged, text, whole]
  exact congrArg (String.ofList <$> ·) same

theorem execute_eq_executeAt (path : Path) (source : String) (scope : Scope σ) :
    execute path source scope = executeAt path (lineAt source.toList) source scope := by
  have same := runText_eq_executeAt path 0 source scope
  simp only [Nat.zero_add] at same
  exact same

end Body

/-! ## The tags at fault -/

/-- The tag evaluates an expression: to show its value, or to name a section by it. -/
def Tag.Evaluates (tag : Tag) (text : List Char) : Prop :=
  tag.kind = .expression text ∨ tag.kind = .opening .capture text

/-- What may be wrong at a position of a source. The position is that of the closing braces of a tag
of the source that is not escaped, or that of opening braces after the last tag. -/
inductive FaultAt (source : List Char) : Nat → (Nat → BodyError) → Prop
  | unreadable {tag : Tag} {text : List Char} {error : ExprError} :
      tag ∈ scan source → tag.isEscaped = false → tag.Evaluates text →
      Expr.read text = .error error →
      FaultAt source tag.closing (.malformed (.expression error))
  | undefined {tag : Tag} {text : List Char} {expr : Expr} {name : String} :
      tag ∈ scan source → tag.isEscaped = false → tag.Evaluates text →
      Expr.read text = .ok expr → expr.Asks name →
      FaultAt source tag.closing (.undefined name)
  | strayClosing {tag : Tag} {keyword : String} :
      tag ∈ scan source → tag.isEscaped = false → tag.kind = .closing keyword →
      FaultAt source tag.closing (.malformed (.strayClosing keyword))
  | openBlock {tag : Tag} {block : BlockKind} {args : List Char} :
      tag ∈ scan source → tag.isEscaped = false → tag.kind = .opening block args →
      FaultAt source tag.closing (.malformed (.openBlock block))
  | eachArgs {tag : Tag} {args : List Char} :
      tag ∈ scan source → tag.isEscaped = false → tag.kind = .opening .each args →
      eachArgs? args = none →
      FaultAt source tag.closing (.malformed (.eachArgs (String.ofList args)))
  | undefinedList {tag : Tag} {args : List Char} {key name : String} :
      tag ∈ scan source → tag.isEscaped = false → tag.kind = .opening .each args →
      eachArgs? args = some (key, name) →
      FaultAt source tag.closing (.undefined key)
  | notList {tag : Tag} {args : List Char} {key name : String} :
      tag ∈ scan source → tag.isEscaped = false → tag.kind = .opening .each args →
      eachArgs? args = some (key, name) →
      FaultAt source tag.closing (.malformed (.notList key))
  | sectionName {tag : Tag} {args : List Char} {value : Value} :
      tag ∈ scan source → tag.isEscaped = false → tag.kind = .opening .capture args →
      (∀ name, value ≠ .text name) →
      FaultAt source tag.closing (.malformed (.sectionName value))
  | openTag {position : Nat} :
      Tree.lastStop (scan source) ≤ position → PairAt '{' source position →
      trailingBackslashes (source.extract (Tree.lastStop (scan source)) position) % 2 = 0 →
      FaultAt source position (.malformed .openTag)

namespace Body

variable {σ : Type} {path : Path} {scope : Scope σ} {source : List Char}

abbrev Sound {α : Type} (path : Path) (scope : Scope σ) (source : List Char)
    (run : (Nat → Nat) → Run σ α) : Prop :=
  Reports path (FaultAt source) (scope.Passes path) run

section
variable {tag : Tag} (mem : tag ∈ scan source) (plain : tag.isEscaped = false)
include mem plain

theorem sound_evaluateSource {text : List Char} (evaluates : tag.Evaluates text) :
    Sound path scope source fun line => evaluateSource path (line tag.closing) scope text :=
  reports_evaluateSource (fun _ => .unreadable mem plain evaluates)
    fun _ _ => .undefined mem plain evaluates

theorem sound_shownSource {text : List Char} (kind : tag.kind = .expression text) :
    Sound path scope source fun line => shownSource path (line tag.closing) scope text := by
  apply Reports.bind (sound_evaluateSource mem plain (.inl kind))
  intro value
  exact reports_output text value

theorem sound_sectionName {args : List Char} (kind : tag.kind = .opening .capture args) :
    Sound path scope source fun line => sectionName path (line tag.closing) scope args := by
  apply Reports.bind (sound_evaluateSource mem plain (.inr kind))
  intro value
  cases value with
  | text name => exact .pure name
  | _ => exact .fault (.sectionName mem plain kind (by simp))

/-- A block, if the text inside it reports nothing but faults of the source in all scopes. -/
theorem sound_runBlock {block : BlockKind} {args : List Char}
    (kind : tag.kind = .opening block args)
    {inner : (Nat → Nat) → Scope σ → Run σ (List Char)}
    (h : ∀ scope, Sound path scope source fun line => inner line scope) :
    Sound path scope source fun line =>
      runBlock path (line tag.closing) scope args (inner line) block := by
  cases block with
  | each =>
    unfold runBlock
    cases parts : eachArgs? args with
    | none => exact .fault (.eachArgs mem plain kind parts)
    | some names =>
      obtain ⟨key, name⟩ := names
      apply Reports.bind
      · exact reports_loopItems (.undefinedList mem plain kind parts)
          (.notList mem plain kind parts)
      intro items
      apply Reports.bind
      · apply Reports.mapM
        intro item _
        rw [← scope.passes_bind path name item]
        exact h (scope.bind name item)
      intro shown
      exact .pure _
  | capture =>
    apply Reports.bind (sound_sectionName mem plain kind)
    intro name
    apply Reports.bind (h scope)
    intro content
    apply Reports.bind (.const fun _ _ _ ended => .declare ended)
    intro shown
    exact .pure _

end

/-- Pieces of the source report nothing but its faults, if what may be found open in the tail after
them is one. The induction is on the number of pieces; the text before a closing tag has no open
braces. -/
theorem runAt_sound {pieces : List Piece} {tail : List Char} {position first : Nat}
    (proper : ∀ piece ∈ pieces, piece.Proper)
    (tags : ∀ tag ∈ tagsAt position first pieces, tag ∈ scan source)
    (opens : ∀ offset, openBraces? 0 0 tail = some offset →
      FaultAt source (position + (joined pieces []).length + offset) (.malformed .openTag)) :
    Sound path scope source fun line => runAt path line scope position tail pieces := by
  induction h : pieces.length using Nat.strongRecOn
    generalizing pieces scope tail position first with
  | ind length ih =>
    subst h
    cases pieces with
    | nil =>
      simp only [runAt]
      cases found : openBraces? 0 0 tail with
      | none => exact .pure tail
      | some offset => exact .fault (opens offset found)
    | cons piece pieces =>
      obtain ⟨-, properRest⟩ := List.forall_mem_cons.mp proper
      rw [tagsAt] at tags
      obtain ⟨mem, tagsRest⟩ := List.forall_mem_cons.mp tags
      have opensRest (offset : Nat) (found : openBraces? 0 0 tail = some offset) :
          FaultAt source (position + piece.text.length + (joined pieces []).length + offset)
            (.malformed .openTag) := by
        have opened := opens offset found
        rwa [joined_cons, List.length_append, ← Nat.add_assoc] at opened
      have next : Sound path scope source fun line =>
          runAt path line scope (position + piece.text.length) tail pieces :=
        ih pieces.length (by simp) properRest tagsRest opensRest rfl
      cases escaped : piece.isEscaped with
      | true =>
        simp only [runAt_escaped escaped]
        exact .bind next fun after => .pure _
      | false =>
        cases kind : piece.kind with
        | expression text =>
          simp only [runAt_expression escaped kind]
          apply Reports.bind (sound_shownSource mem escaped kind)
          intro shown
          exact .bind next fun after => .pure _
        | closing keyword =>
          simp only [runAt_closing escaped kind]
          exact .fault (.strayClosing mem escaped kind)
        | opening block args =>
          cases found : cutBlock? block 0 pieces with
          | none =>
            simp only [runAt_open escaped kind found]
            exact .fault (.openBlock mem escaped kind)
          | some parts =>
            obtain ⟨inner, close, rest⟩ := parts
            have shorter := length_lt_of_cutBlock? found
            simp only [runAt_block escaped kind found]
            cases append_of_cutBlock? found
            obtain ⟨properInner, properClose⟩ := List.forall_mem_append.mp properRest
            obtain ⟨properClose, properAfter⟩ := List.forall_mem_cons.mp properClose
            have parts : inner ++ close :: rest = (inner ++ [close]) ++ rest := by simp
            apply Reports.bind
            · apply sound_runBlock mem escaped kind
              intro scope
              rw [tagsAt_append] at tagsRest
              refine ih inner.length (by simp only [List.length_cons]; omega) properInner
                (List.forall_mem_append.mp tagsRest).1 ?_ rfl
              intro offset opened
              rw [openBraces?_eq_none (cutPair?_before properClose.1)] at opened
              cases opened
            intro shown
            apply Reports.bind
            · rw [parts, tagsAt_append] at tagsRest
              refine ih rest.length (by simp only [List.length_cons]; omega) properAfter
                (List.forall_mem_append.mp tagsRest).2 ?_ rfl
              intro offset opened
              have outside := opensRest offset opened
              rwa [parts, joined_append, List.length_append, ← Nat.add_assoc] at outside
            intro after
            exact .pure _

/-- Braces that are found open after the last tag of a source. -/
theorem faultAt_openTag {pieces : List Piece} {tail : List Char} {offset : Nat}
    (proper : ∀ piece ∈ pieces, piece.Proper) (untagged : Untagged tail)
    (h : openBraces? 0 0 tail = some offset) :
    FaultAt (joined pieces tail) ((joined pieces []).length + offset) (.malformed .openTag) := by
  obtain ⟨before, rest, rfl, same, even⟩ := of_openBraces? h
  rw [Nat.zero_add] at same
  subst same
  have stop : Tree.lastStop (scan (joined pieces (before ++ '{' :: '{' :: rest))) =
      (joined pieces []).length := by
    rw [scan_joined proper untagged, Tree.lastStop_tagsAt]
  apply FaultAt.openTag
  · rw [stop]
    exact Nat.le_add_right _ _
  · rw [joined_eq_append, ← List.append_assoc, ← List.length_append]
    constructor
    · simp
    · rw [List.getElem?_append_right (Nat.le_succ _)]
      simp
  · rw [stop, joined_eq_append, extract_append]
    simpa using even

/-- However executing a body ends, a fault that it reports itself is that of a tag of the source and
is reported on the line on which the closing braces of the tag are, or it is that of braces that are
left open, and is reported on their line. The tag is the one that was executed: whatever lines the
positions of the source had, the line of the same position would be reported. All other errors are
those of the calls and the sections of the scope, or name no line. -/
theorem execute_lines (path : Path) (source : String) (scope : Scope σ) (state : σ) :
    ∃ (ending : Ending String) (after : σ),
      ending.Fits (FaultAt source.toList) (scope.Passes path) after ∧
      (execute path source scope).eval state =
        (ending.result path (lineAt source.toList), after) ∧
      ∀ line, (executeAt path line source scope).eval state =
        (ending.result path line, after) := by
  obtain ⟨pieces, tail, whole, proper, untagged⟩ := exists_pieces source.toList
  have sound : Sound path scope source.toList fun line => executeAt path line source scope := by
    have tags : ∀ tag ∈ tagsAt 0 1 pieces, tag ∈ scan (joined pieces tail) := by
      intro tag mem
      rwa [scan_joined proper untagged]
    simp only [executeAt, ← whole, scan_joined proper untagged, Tree.drop_lastStop]
    rw [← scan_joined proper untagged, cutAt_joined proper untagged]
    refine Reports.bind (runAt_sound proper tags ?_) fun text => .pure _
    intro offset opened
    rw [Nat.zero_add]
    exact faultAt_openTag proper untagged opened
  obtain ⟨ending, after, fits, ends⟩ := sound state
  refine ⟨ending, after, fits, ?_, ends⟩
  rw [execute_eq_executeAt]
  exact ends (lineAt source.toList)

end Body

end Folio
