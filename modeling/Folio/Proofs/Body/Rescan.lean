import Folio.Proofs.Body.Nesting

/-! Executing a text scans the text of every block once more and leaves out the tags that it has
already been through. Both find the pieces of the one scan of the whole text again. -/

namespace Folio

open Body

/-- What the text before the tag adds to the output: half of the backslashes at its end are left. -/
def Piece.lead (piece : Piece) : List Char :=
  piece.before.take (piece.before.length - piece.backslashes) ++
    List.replicate (piece.backslashes / 2) '\\'

namespace Body

variable {σ : Type}

/-- The text after the last tag, which ends on a line; no tag may be left open in it. -/
def runTail (path : Path) (line : Nat) (tail : List Char) : Run σ (List Char) :=
  match openBraces? 0 0 tail with
  | some position => malformed path (line + newlines (tail.take position)) .openTag
  | none => pure tail

/-- Executes the pieces of a text, the first of which starts on a line, and its tail. -/
def runPieces (path : Path) (scope : Scope σ) (line : Nat) (tail : List Char) :
    List Piece → Run σ (List Char)
  | [] => runTail path line tail
  | piece :: pieces =>
    let line := line + newlines piece.text
    if piece.isEscaped then do
      let after ← runPieces path scope line tail pieces
      pure (piece.lead ++ piece.braced ++ after)
    else
      match piece.kind with
      | .expression source => do
        let shown ← shownSource path line scope source
        let after ← runPieces path scope line tail pieces
        pure (piece.lead ++ shown ++ after)
      | .closing keyword => malformed path line (.strayClosing keyword)
      | .opening block args =>
        match _h : cutBlock? block 0 pieces with
        | none => malformed path line (.openBlock block)
        | some (inner, close, rest) => do
          let execute := fun scope => runPieces path scope line close.before inner
          let shown ← runBlock path line scope args execute block
          let after ←
            runPieces path scope (line + newlines (joined (inner ++ [close]) [])) tail rest
          pure (piece.lead ++ shown ++ after)
termination_by pieces => pieces.length
decreasing_by
  · simp
  · simp
  · exact Nat.lt_succ_of_lt (length_lt_of_cutBlock? _h).1
  · exact Nat.lt_succ_of_lt (length_lt_of_cutBlock? _h).2

/-! ## One tag at a time -/

section
variable {path : Path} {text : List Char} {offset cursor : Nat} {scope : Scope σ} {tag : Tag}
  {tags : List Tag}

theorem runTags_skip (h : tag.start < cursor) :
    runTags path text offset scope cursor (tag :: tags) =
      runTags path text offset scope cursor tags := by
  rw [runTags, if_pos h]

theorem runTags_escaped (h : cursor ≤ tag.start) (escaped : tag.isEscaped = true) :
    runTags path text offset scope cursor (tag :: tags) = (do
      let after ← runTags path text offset scope tag.stop tags
      pure (lead text cursor tag ++ text.extract tag.start tag.stop ++ after)) := by
  rw [runTags, if_neg (Nat.not_lt.mpr h), if_pos escaped]

theorem runTags_expression (h : cursor ≤ tag.start) (plain : tag.isEscaped = false)
    {source : List Char} (kind : tag.kind = .expression source) :
    runTags path text offset scope cursor (tag :: tags) = (do
      let shown ← shownSource path (offset + tag.line) scope source
      let after ← runTags path text offset scope tag.stop tags
      pure (lead text cursor tag ++ shown ++ after)) := by
  rw [runTags, if_neg (Nat.not_lt.mpr h), if_neg (by simp [plain])]
  simp only [kind]

theorem runTags_closing (h : cursor ≤ tag.start) (plain : tag.isEscaped = false)
    {keyword : String} (kind : tag.kind = .closing keyword) :
    runTags path text offset scope cursor (tag :: tags) =
      malformed path (offset + tag.line) (.strayClosing keyword) := by
  rw [runTags, if_neg (Nat.not_lt.mpr h), if_neg (by simp [plain])]
  simp only [kind]

theorem runTags_open (h : cursor ≤ tag.start) (plain : tag.isEscaped = false)
    {block : BlockKind} {args : List Char} (kind : tag.kind = .opening block args)
    (last : findBlockEnd block (text.drop tag.stop) = none) :
    runTags path text offset scope cursor (tag :: tags) =
      malformed path (offset + tag.line) (.openBlock block) := by
  rw [runTags, if_neg (Nat.not_lt.mpr h), if_neg (by simp [plain])]
  simp only [kind]
  split
  · rfl
  · rename_i found; cases last.symm.trans found

theorem runTags_block (h : cursor ≤ tag.start) (plain : tag.isEscaped = false)
    {block : BlockKind} {args : List Char} (kind : tag.kind = .opening block args) {close : Tag}
    (last : findBlockEnd block (text.drop tag.stop) = some close) :
    runTags path text offset scope cursor (tag :: tags) = (do
      let inner := (text.drop tag.stop).take close.start
      let shown ← runBlock path (offset + tag.line) scope args
        (fun scope => runText path inner (offset + tag.line - 1) scope) block
      let after ← runTags path text offset scope (tag.stop + close.stop) tags
      pure (lead text cursor tag ++ shown ++ after)) := by
  rw [runTags, if_neg (Nat.not_lt.mpr h), if_neg (by simp [plain])]
  simp only [kind]
  split
  · rename_i found; cases last.symm.trans found
  · rename_i found; cases last.symm.trans found; rfl

end

theorem runTags_done {path : Path} {text : List Char} {offset cursor position : Nat}
    {scope : Scope σ} {pieces : List Piece} (h : position + (joined pieces []).length ≤ cursor)
    (line : Nat) (tags : List Tag) :
    runTags path text offset scope cursor (tagsAt position line pieces ++ tags) =
      runTags path text offset scope cursor tags := by
  induction pieces generalizing position line with
  | nil => rfl
  | cons piece pieces ih =>
    simp only [joined_cons, List.length_append, Piece.length_text] at h
    rw [tagsAt, List.cons_append, runTags_skip (by simp only [Piece.tag]; omega)]
    apply ih
    simp only [Piece.length_text]
    omega

/-! ## One piece at a time -/

section
variable {path : Path} {scope : Scope σ} {line : Nat} {tail : List Char} {piece : Piece}
  {pieces : List Piece}

theorem runPieces_escaped (escaped : piece.isEscaped = true) :
    runPieces path scope line tail (piece :: pieces) = (do
      let after ← runPieces path scope (line + newlines piece.text) tail pieces
      pure (piece.lead ++ piece.braced ++ after)) := by
  rw [runPieces, if_pos escaped]

theorem runPieces_expression (plain : piece.isEscaped = false) {source : List Char}
    (kind : piece.kind = .expression source) :
    runPieces path scope line tail (piece :: pieces) = (do
      let shown ← shownSource path (line + newlines piece.text) scope source
      let after ← runPieces path scope (line + newlines piece.text) tail pieces
      pure (piece.lead ++ shown ++ after)) := by
  rw [runPieces, if_neg (by simp [plain])]
  simp only [kind]

theorem runPieces_closing (plain : piece.isEscaped = false) {keyword : String}
    (kind : piece.kind = .closing keyword) :
    runPieces path scope line tail (piece :: pieces) =
      malformed path (line + newlines piece.text) (.strayClosing keyword) := by
  rw [runPieces, if_neg (by simp [plain])]
  simp only [kind]

theorem runPieces_open (plain : piece.isEscaped = false) {block : BlockKind} {args : List Char}
    (kind : piece.kind = .opening block args) (last : cutBlock? block 0 pieces = none) :
    runPieces path scope line tail (piece :: pieces) =
      malformed path (line + newlines piece.text) (.openBlock block) := by
  rw [runPieces, if_neg (by simp [plain])]
  simp only [kind]
  split
  · rfl
  · rename_i found; cases last.symm.trans found

theorem runPieces_block (plain : piece.isEscaped = false) {block : BlockKind} {args : List Char}
    (kind : piece.kind = .opening block args) {inner rest : List Piece} {close : Piece}
    (last : cutBlock? block 0 pieces = some (inner, close, rest)) :
    runPieces path scope line tail (piece :: pieces) = (do
      let line := line + newlines piece.text
      let shown ← runBlock path line scope args
        (fun scope => runPieces path scope line close.before inner) block
      let after ← runPieces path scope (line + newlines (joined (inner ++ [close]) [])) tail rest
      pure (piece.lead ++ shown ++ after)) := by
  rw [runPieces, if_neg (by simp [plain])]
  simp only [kind]
  split
  · rename_i found; cases last.symm.trans found
  · rename_i found; cases last.symm.trans found; rfl

end

/-! ## All tags -/

theorem openBraces?_eq_none {text : List Char} (h : cutPair? '{' text = none)
    (position backslashes : Nat) : openBraces? position backslashes text = none := by
  induction text generalizing position backslashes with
  | nil => rfl
  | cons c rest ih =>
    rw [openBraces?]
    · exact ih (cutPair?_of_cons h) _ _
    · rintro rest' rfl rfl
      cases h

theorem trailing_append (path : Path) (before tail : List Char) (offset : Nat) :
    trailing (σ := σ) path (before ++ tail) offset before.length =
      runTail path (offset + (1 + newlines before)) tail := by
  simp only [trailing, runTail, List.drop_left']
  cases openBraces? 0 0 tail with
  | none => rfl
  | some position => simp [List.take_length_add_append, newlines_append, Nat.add_assoc]

theorem lead_tag (piece : Piece) (before rest : List Char) (line : Nat) :
    lead (before ++ (piece.text ++ rest)) before.length (piece.tag before.length line) =
      piece.lead := by
  have bound : piece.backslashes ≤ piece.before.length := trailingBackslashes_le _
  have cut : before.length + piece.before.length - piece.backslashes - before.length =
      piece.before.length - piece.backslashes := by omega
  simp only [lead, Piece.lead, Piece.tag, List.extract_eq_take_drop, List.drop_left', cut,
    Piece.text, List.append_assoc]
  rw [List.take_append_of_le_length (by omega)]

theorem extract_tag (piece : Piece) (before rest : List Char) (line : Nat) :
    (before ++ (piece.text ++ rest)).extract (piece.tag before.length line).start
      (before ++ piece.text).length = piece.braced := by
  have text : before ++ (piece.text ++ rest) =
      before ++ piece.before ++ (piece.braced ++ rest) := by simp [Piece.text]
  have start : (piece.tag before.length line).start = (before ++ piece.before).length := by
    simp [Piece.tag]
  have stop : (before ++ piece.text).length =
      (before ++ piece.before).length + piece.braced.length := by
    simp only [Piece.text, List.length_append, Nat.add_assoc]
  rw [text, start, stop, List.extract_eq_take_drop, List.drop_left, Nat.add_sub_cancel_left,
    List.take_left]

theorem take_joined (inner rest : List Piece) (close : Piece) (tail : List Char) (line : Nat) :
    (joined (inner ++ close :: rest) tail).take (close.tag (joined inner []).length line).start =
      joined inner close.before := by
  have text : joined (inner ++ close :: rest) tail =
      joined inner close.before ++ (close.braced ++ joined rest tail) := by
    rw [joined_append, joined_eq_append inner close.before]
    simp [Piece.text]
  have start : (close.tag (joined inner []).length line).start =
      (joined inner close.before).length := by
    rw [joined_eq_append inner close.before]
    simp [Piece.tag]
  rw [text, start, List.take_left]

theorem tagsAt_cons (before : List Char) (piece : Piece) (pieces : List Piece) :
    tagsAt before.length (1 + newlines before) (piece :: pieces) =
      piece.tag before.length (1 + newlines before) ::
        tagsAt (before ++ piece.text).length (1 + newlines (before ++ piece.text)) pieces := by
  simp only [tagsAt, List.length_append, newlines_append, Nat.add_assoc]

/-- Executes pieces with a tail that follow a text, in that text. -/
def runFrom (path : Path) (before : List Char) (pieces : List Piece) (tail : List Char)
    (offset : Nat) (scope : Scope σ) : Run σ (List Char) :=
  runTags path (before ++ joined pieces tail) offset scope before.length
    (tagsAt before.length (1 + newlines before) pieces)

theorem runText_joined {path : Path} {pieces : List Piece} {tail : List Char} {offset : Nat}
    {scope : Scope σ} (proper : ∀ piece ∈ pieces, piece.Proper) (untagged : Untagged tail) :
    runText path (joined pieces tail) offset scope = runFrom path [] pieces tail offset scope := by
  rw [runText, scan_joined proper untagged]
  rfl

section
variable {path : Path} {before tail : List Char} {piece : Piece} {pieces : List Piece}
  {offset : Nat} {scope : Scope σ}

theorem runTags_beyond (done : List Piece) :
    runTags path (before ++ joined (done ++ pieces) tail) offset scope
        (before ++ joined done []).length
        (tagsAt before.length (1 + newlines before) (done ++ pieces)) =
      runFrom path (before ++ joined done []) pieces tail offset scope := by
  rw [tagsAt_append, runTags_done (by simp), joined_append, ← List.append_assoc, runFrom]
  simp only [List.length_append, newlines_append, Nat.add_assoc]

theorem runFrom_nil :
    runFrom path before [] tail offset scope =
      runTail path (offset + (1 + newlines before)) tail := by
  rw [runFrom, tagsAt, runTags]
  exact trailing_append path before tail offset

theorem start_le (line : Nat) : before.length ≤ (piece.tag before.length line).start :=
  Nat.le_add_right _ _

theorem stop_eq (line : Nat) :
    (piece.tag before.length line).stop = (before ++ piece.text).length := by
  rw [Piece.stop_tag, List.length_append]

theorem line_eq (line : Nat) :
    offset + (piece.tag before.length line).line = offset + line + newlines piece.text := by
  simp only [Piece.tag, Nat.add_assoc]

theorem runTags_after :
    runTags path (before ++ joined (piece :: pieces) tail) offset scope
        (before ++ piece.text).length
        (tagsAt (before ++ piece.text).length (1 + newlines (before ++ piece.text)) pieces) =
      runFrom path (before ++ piece.text) pieces tail offset scope := by
  rw [joined_cons, ← List.append_assoc, runFrom]

theorem runFrom_escaped (escaped : piece.isEscaped = true) :
    runFrom path before (piece :: pieces) tail offset scope = (do
      let after ← runFrom path (before ++ piece.text) pieces tail offset scope
      pure (piece.lead ++ piece.braced ++ after)) := by
  rw [runFrom, tagsAt_cons, runTags_escaped (start_le _) escaped, stop_eq, runTags_after,
    joined_cons, lead_tag, extract_tag]

theorem runFrom_expression (plain : piece.isEscaped = false) {source : List Char}
    (kind : piece.kind = .expression source) :
    runFrom path before (piece :: pieces) tail offset scope = (do
      let shown ←
        shownSource path (offset + (1 + newlines before) + newlines piece.text) scope source
      let after ← runFrom path (before ++ piece.text) pieces tail offset scope
      pure (piece.lead ++ shown ++ after)) := by
  rw [runFrom, tagsAt_cons, runTags_expression (start_le _) plain kind, stop_eq, runTags_after,
    joined_cons, lead_tag, line_eq]

theorem runFrom_closing (plain : piece.isEscaped = false) {keyword : String}
    (kind : piece.kind = .closing keyword) :
    runFrom path before (piece :: pieces) tail offset scope =
      malformed path (offset + (1 + newlines before) + newlines piece.text)
        (.strayClosing keyword) := by
  rw [runFrom, tagsAt_cons, runTags_closing (start_le _) plain kind, line_eq]

theorem drop_tag (before : List Char) (piece : Piece) (line : Nat) :
    (before ++ joined (piece :: pieces) tail).drop (piece.tag before.length line).stop =
      joined pieces tail := by
  rw [stop_eq, joined_cons, ← List.append_assoc, List.drop_left]

theorem runFrom_open (plain : piece.isEscaped = false) {block : BlockKind} {args : List Char}
    (kind : piece.kind = .opening block args) (proper : ∀ piece ∈ pieces, piece.Proper)
    (untagged : Untagged tail) (last : cutBlock? block 0 pieces = none) :
    runFrom path before (piece :: pieces) tail offset scope =
      malformed path (offset + (1 + newlines before) + newlines piece.text) (.openBlock block) := by
  have ends := findBlockEnd_joined proper untagged block
  rw [last, ← drop_tag before piece (1 + newlines before)] at ends
  rw [runFrom, tagsAt_cons, runTags_open (start_le _) plain kind ends, line_eq]

theorem runTags_after_block (inner rest : List Piece) (close : Piece) :
    runTags path (before ++ joined (piece :: (inner ++ close :: rest)) tail) offset scope
        ((before ++ piece.text).length +
          (close.tag (joined inner []).length (1 + newlines (joined inner []))).stop)
        (tagsAt (before ++ piece.text).length (1 + newlines (before ++ piece.text))
          (inner ++ close :: rest)) =
      runFrom path (before ++ piece.text ++ joined (inner ++ [close]) []) rest tail offset
        scope := by
  have cursor : (before ++ piece.text).length +
      (close.tag (joined inner []).length (1 + newlines (joined inner []))).stop =
        (before ++ piece.text ++ joined (inner ++ [close]) []).length := by
    simp only [Piece.stop_tag, joined_append, joined_cons, joined_nil, List.append_nil,
      List.length_append]
  have parts : inner ++ close :: rest = (inner ++ [close]) ++ rest := by simp
  rw [cursor, parts, joined_cons, ← List.append_assoc]
  exact runTags_beyond (inner ++ [close])

theorem runFrom_block (plain : piece.isEscaped = false) {block : BlockKind} {args : List Char}
    (kind : piece.kind = .opening block args) (proper : ∀ piece ∈ pieces, piece.Proper)
    (untagged : Untagged tail) {inner rest : List Piece} {close : Piece}
    (last : cutBlock? block 0 pieces = some (inner, close, rest)) :
    runFrom path before (piece :: pieces) tail offset scope = (do
      let line := offset + (1 + newlines before) + newlines piece.text
      let shown ← runBlock path line scope args
        (fun scope => runText path (joined inner close.before) (line - 1) scope) block
      let after ← runFrom path (before ++ piece.text ++ joined (inner ++ [close]) []) rest tail
        offset scope
      pure (piece.lead ++ shown ++ after)) := by
  have ends := findBlockEnd_joined proper untagged block
  rw [last, ← drop_tag before piece (1 + newlines before)] at ends
  have parts := append_of_cutBlock? last
  subst parts
  rw [runFrom, tagsAt_cons, runTags_block (start_le _) plain kind ends, line_eq, drop_tag, stop_eq]
  simp only [take_joined, runTags_after_block]
  rw [joined_cons, lead_tag]

end

/-- What follows a text is executed piece by piece. The induction is on the number of pieces, of
which there are fewer inside a block and after it. -/
theorem runFrom_eq_runPieces {pieces : List Piece} {tail : List Char}
    (proper : ∀ piece ∈ pieces, piece.Proper) (untagged : Untagged tail) (path : Path)
    (before : List Char) (offset : Nat) (scope : Scope σ) :
    runFrom path before pieces tail offset scope =
      runPieces path scope (offset + (1 + newlines before)) tail pieces := by
  induction h : pieces.length using Nat.strongRecOn
    generalizing pieces tail before offset scope with
  | ind length ih =>
    cases pieces with
    | nil => rw [runFrom_nil, runPieces]
    | cons piece pieces =>
      obtain ⟨_, properRest⟩ := List.forall_mem_cons.mp proper
      rw [List.length_cons] at h
      have next := ih pieces.length (by omega) properRest untagged (before ++ piece.text) offset
        scope rfl
      rw [newlines_append, ← Nat.add_assoc 1, ← Nat.add_assoc offset] at next
      cases escaped : piece.isEscaped with
      | true => rw [runFrom_escaped escaped, runPieces_escaped escaped, next]
      | false =>
        cases kind : piece.kind with
        | expression source =>
          rw [runFrom_expression escaped kind, runPieces_expression escaped kind, next]
        | closing keyword => rw [runFrom_closing escaped kind, runPieces_closing escaped kind]
        | opening block args =>
          cases found : cutBlock? block 0 pieces with
          | none =>
            rw [runFrom_open escaped kind properRest untagged found,
              runPieces_open escaped kind found]
          | some parts =>
            obtain ⟨inner, close, rest⟩ := parts
            have shorter := length_lt_of_cutBlock? found
            rw [runFrom_block escaped kind properRest untagged found,
              runPieces_block escaped kind found]
            cases append_of_cutBlock? found
            obtain ⟨properInner, properClose⟩ := List.forall_mem_append.mp properRest
            obtain ⟨properClose, properAfter⟩ := List.forall_mem_cons.mp properClose
            have inside (offset : Nat) (scope : Scope σ) :
                runText path (joined inner close.before) offset scope =
                  runPieces path scope (offset + 1) close.before inner := by
              rw [runText_joined properInner properClose.untagged]
              exact ih inner.length (by omega) properInner properClose.untagged [] offset scope rfl
            have outside := ih rest.length (by omega) properAfter untagged
              (before ++ piece.text ++ joined (inner ++ [close]) []) offset scope rfl
            have lines : offset + (1 + newlines (before ++ piece.text ++
                joined (inner ++ [close]) [])) = offset + (1 + newlines before) +
                newlines piece.text + newlines (joined (inner ++ [close]) []) := by
              simp only [newlines_append, Nat.add_assoc]
            rw [lines] at outside
            simp only [inside, outside]
            rw [Nat.sub_add_cancel (by omega)]

/-- A body is executed piece by piece. -/
theorem execute_joined {source : String} {pieces : List Piece} {tail : List Char}
    (proper : ∀ piece ∈ pieces, piece.Proper) (untagged : Untagged tail)
    (h : joined pieces tail = source.toList) (path : Path) (scope : Scope σ) :
    execute path source scope = String.ofList <$> runPieces path scope 1 tail pieces := by
  have run := runFrom_eq_runPieces proper untagged path [] 0 scope
  rw [execute, ← h, runText_joined proper untagged, run]
  rfl

theorem execute_expression {content source : List Char} (proper : (Piece.mk [] content).Proper)
    (kind : (Piece.mk [] content).kind = .expression source) (path : Path) (scope : Scope σ) :
    execute path (String.ofList (Piece.mk [] content).text) scope = (do
      let shown ← shownSource path (1 + newlines (Piece.mk [] content).text) scope source
      pure (String.ofList shown)) := by
  have plain : (Piece.mk [] content).isEscaped = false := rfl
  have whole : joined [Piece.mk [] content] [] =
      (String.ofList (Piece.mk [] content).text).toList := by simp
  have noTag : Untagged [] := by simp [Untagged]
  have noSlash : (Piece.mk [] content).backslashes = 0 := rfl
  rw [execute_joined (by simpa using proper) noTag whole, runPieces_expression plain kind,
    runPieces, runTail]
  simp [openBraces?, Piece.lead, noSlash]

end Body

end Folio
