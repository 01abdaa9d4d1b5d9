import Folio.Proofs.Body.Backslashes
import Folio.Proofs.Body.Bytes
import Folio.Proofs.Body.Lines
import Mathlib

/-! A body may as well be executed with positions that are counted in bytes. Then much can go wrong:
a position may be out of range or inside a character, two of them may be in the wrong order, and a
difference may be negative. Here an execution is given that looks at all of this whenever it cuts a
text or subtracts, and that does something else altogether, `broken`, where something is wrong. It
never comes to that. -/

namespace Folio

open Body

/-! ## The end of a block -/

/-- The tag that closes a block in the tags after its opening tag, if `depth` blocks of the same
kind are open inside it. The depth is a number that is counted down. -/
def closingByteTag? (block : BlockKind) (depth : Nat) : List ByteTag → Option (Option ByteTag)
  | [] => some none
  | tag :: tags =>
    if tag.isEscaped then closingByteTag? block depth tags
    else match tag.kind with
      | .expression _ => closingByteTag? block depth tags
      | .opening other _ =>
        closingByteTag? block (if other = block then depth + 1 else depth) tags
      | .closing keyword =>
        if keyword = block.keyword then
          if depth = 0 then some (some tag)
          else (sub? depth 1).bind fun depth => closingByteTag? block depth tags
        else closingByteTag? block depth tags

def findByteEnd? (block : BlockKind) (text : List Char) : Option (Option ByteTag) :=
  (scanBytes? (bytes text)).bind (closingByteTag? block 0)

theorem closingByteTag?_map (text : List Char) (block : BlockKind) (depth : Nat)
    (tags : List Tag) :
    closingByteTag? block depth (tags.map (Tag.inBytes text)) =
      some ((closingTag? block depth tags).map (Tag.inBytes text)) := by
  induction tags generalizing depth with
  | nil => rfl
  | cons tag tags ih =>
    have escaped : (tag.inBytes text).isEscaped = tag.isEscaped := rfl
    have kind : (tag.inBytes text).kind = tag.kind := rfl
    rw [List.map_cons, closingByteTag?, escaped, kind]
    by_cases verbatim : tag.isEscaped = true
    · simp only [closingTag?, verbatim, if_true, ih]
    · cases does : tag.kind with
      | expression source => simp [closingTag?, verbatim, does, ih]
      | opening other args => simp [closingTag?, verbatim, does, ih]
      | closing keyword =>
        by_cases same : keyword = block.keyword
        · cases depth with
          | zero => simp [closingTag?, verbatim, does, same]
          | succ depth => simp [closingTag?, verbatim, does, same, sub?, ih]
        · simp [closingTag?, verbatim, does, same, ih]

/-- The depth of blocks is never counted down below zero. -/
theorem findByteEnd?_eq (block : BlockKind) (text : List Char) :
    findByteEnd? block text = some ((findBlockEnd block text).map (Tag.inBytes text)) := by
  rw [findByteEnd?, scanBytes_bytes]
  exact closingByteTag?_map text block 0 (scan text)

/-! ## An open tag -/

def slashesBefore? (source : List UInt8) (position : Nat) : Option Nat :=
  if position ≤ source.length then
    some ((source.take position).reverse.takeWhile (· = '\\'.toUInt8)).length
  else none

/-- The position of the first two opening braces, from a position on, with an even number of
backslashes before them. -/
def openByte? (text : List Char) (start : Nat) : Option (Option Nat) :=
  match _h : slice? text start (byteSize text) with
  | none => none
  | some rest =>
    match _h' : cutPair? '{' rest with
    | none => some none
    | some (before, _) =>
      match slashesBefore? (bytes text) (start + byteSize before) with
      | none => none
      | some backslashes =>
        if backslashes % 2 = 0 then some (some (start + byteSize before))
        else openByte? text (start + byteSize before + 2)
termination_by byteSize text - start
decreasing_by
  obtain ⟨front, after, -, rfl, size⟩ := slice?_eq_some_iff.mp _h
  rw [← append_of_cutPair? _h'] at size
  simp only [byteSize_append, byteSize_brace] at size
  omega

/-- The backslashes at the end of a text are the last bytes of it. -/
theorem takeWhile_bytes (text : List Char) :
    ((bytes text).reverse.takeWhile (· = '\\'.toUInt8)).length = trailingBackslashes text := by
  induction text using List.reverseRecOn with
  | nil => rfl
  | append_singleton front c ih =>
    have last : bytes [c] = String.utf8EncodeChar c := by simp [bytes]
    by_cases slash : c = '\\'
    · subst slash
      have one : String.utf8EncodeChar '\\' = ['\\'.toUInt8] := rfl
      rw [bytes_append, last, one, List.reverse_append, List.reverse_singleton,
        List.singleton_append, List.takeWhile_cons_of_pos (by simp), List.length_cons, ih]
      simp [trailingBackslashes]
    · obtain ⟨byte, others, encoded⟩ := List.exists_cons_of_ne_nil
        (List.reverse_ne_nil_iff.mpr (String.utf8EncodeChar_ne_nil (c := c)))
      have mem : byte ∈ String.utf8EncodeChar c := by
        rw [← List.mem_reverse, encoded]
        exact List.mem_cons_self
      have other : byte ≠ '\\'.toUInt8 := by
        rintro rfl
        exact slash (eq_of_toUInt8_mem (by decide) mem)
      rw [bytes_append, last, List.reverse_append, encoded, List.cons_append,
        List.takeWhile_cons_of_neg (by simpa using other),
        trailingBackslashes_append_cons _ _ slash]
      rfl

theorem slashesBefore?_append (front rest : List Char) :
    slashesBefore? (bytes (front ++ rest)) (byteSize front) =
      some (trailingBackslashes front) := by
  have room : byteSize front ≤ (bytes (front ++ rest)).length := by
    have := byteSize_append front rest
    simp only [byteSize] at *
    omega
  have taken : (bytes (front ++ rest)).take (byteSize front) = bytes front := by
    rw [bytes_append, byteSize, List.take_left]
  rw [slashesBefore?, if_pos room, taken, takeWhile_bytes]

theorem trailingBackslashes_append (front before : List Char) :
    trailingBackslashes (front ++ before) =
      trailingBackslashes (List.replicate (trailingBackslashes front) '\\' ++ before) := by
  have run := trailingBackslashes_replicate (trailingBackslashes front)
  unfold trailingBackslashes at run ⊢
  rw [List.reverse_append, List.reverse_append, List.takeWhile_append, List.takeWhile_append]
  split
  · rw [List.length_append, List.length_append, run]
  · rfl

theorem openBraces?_of_cutPair? {text before rest : List Char}
    (cut : cutPair? '{' text = some (before, rest)) (position backslashes : Nat) :
    openBraces? position backslashes text =
      if trailingBackslashes (List.replicate backslashes '\\' ++ before) % 2 = 0 then
        some (position + before.length)
      else openBraces? (position + before.length + 2) 0 rest := by
  induction text generalizing position backslashes before with
  | nil => cases cut
  | cons c text ih =>
    by_cases pair : ∃ after, c = '{' ∧ text = '{' :: after
    · obtain ⟨after, rfl, rfl⟩ := pair
      cases cut.symm.trans (cutPair?_pair '{' after)
      simp [openBraces?]
    · have single : ∀ after, c = '{' → text = '{' :: after → False :=
        fun after first second => pair ⟨after, first, second⟩
      obtain ⟨inner, found, rfl⟩ : ∃ inner, cutPair? '{' text = some (inner, rest) ∧
          before = c :: inner := by
        cases text with
        | nil => cases cut
        | cons d text =>
          have apart : ¬ (c = '{' ∧ d = '{') := by
            rintro ⟨rfl, rfl⟩
            exact single text rfl rfl
          rw [cutPair?, if_neg apart, Option.map_eq_some_iff] at cut
          obtain ⟨⟨inner, after⟩, found, same⟩ := cut
          cases same
          exact ⟨inner, found, rfl⟩
      have next : position + 1 + inner.length = position + (c :: inner).length := by
        simp only [List.length_cons]
        omega
      have counted : trailingBackslashes
          (List.replicate (if c = '\\' then backslashes + 1 else 0) '\\' ++ inner) =
            trailingBackslashes (List.replicate backslashes '\\' ++ c :: inner) := by
        by_cases slash : c = '\\'
        · rw [if_pos slash, slash, List.replicate_succ', List.append_assoc, List.singleton_append]
        · rw [if_neg slash, trailingBackslashes_append_cons _ _ slash]
          rfl
      rw [openBraces?, ih found, counted, next]
      exact fun after first second => single after first second

theorem openByte?_append (front rest : List Char) :
    openByte? (front ++ rest) (byteSize front) =
      some ((openBraces? front.length (trailingBackslashes front) rest).map fun position =>
        byteSize ((front ++ rest).take position)) := by
  induction h : rest.length using Nat.strongRecOn generalizing front rest with
  | ind length ih =>
    subst h
    have whole := slice?_drop front rest
    rw [openByte?]
    split
    · rename_i missing
      cases whole.symm.trans missing
    · rename_i found
      cases whole.symm.trans found
      split
      · rename_i none
        rw [openBraces?_eq_none none]
        rfl
      · rename_i before after cut
        have parts := append_of_cutPair? cut
        have here : front ++ rest = front ++ before ++ ('{' :: '{' :: after) := by simp [parts]
        have done : front ++ rest = front ++ before ++ ['{', '{'] ++ after := by simp [parts]
        have position : byteSize front + byteSize before = byteSize (front ++ before) := by simp
        have counted : slashesBefore? (bytes (front ++ rest)) (byteSize front + byteSize before) =
            some (trailingBackslashes (front ++ before)) := by
          rw [here, position, slashesBefore?_append]
        rw [counted, openBraces?_of_cutPair? cut, ← trailingBackslashes_append]
        dsimp only
        split
        · have taken : (front ++ rest).take (front.length + before.length) = front ++ before := by
            rw [here, ← List.length_append, List.take_left]
          rw [Option.map_some, taken, position]
        · have shorter : after.length < rest.length := length_lt_of_cutPair? cut
          have size : byteSize front + byteSize before + 2 =
              byteSize (front ++ before ++ ['{', '{']) := by simp [Nat.add_assoc]
          have length : front.length + before.length + 2 =
              (front ++ before ++ ['{', '{']).length := by simp [Nat.add_assoc]
          have none : trailingBackslashes (front ++ before ++ ['{', '{']) = 0 := by
            rw [trailingBackslashes_append_cons _ _ (by decide)]
            rfl
          have later := ih after.length shorter (front ++ before ++ ['{', '{']) after rfl
          rw [none] at later
          rw [done, size, length, later]

theorem openByte?_eq (text : List Char) :
    openByte? text 0 =
      some ((openBraces? 0 0 text).map fun position => byteSize (text.take position)) :=
  openByte?_append [] text

/-! ## What is done at a tag -/

/-- What an execution relies on at a tag: nothing is subtracted that is too large, no position is
before the one that it follows, and all of them are between characters. -/
structure ByteTag.Fits (text : List Char) (cursor : Nat) (tag : ByteTag) : Prop where
  backslashes_le : tag.backslashes ≤ tag.start
  cursor_le : cursor ≤ tag.start - tag.backslashes
  start_lt : tag.start < tag.stop
  stop_le : tag.stop ≤ byteSize text
  boundaries : ∀ position ∈ [cursor, tag.start - tag.backslashes, tag.start, tag.stop],
    IsBoundary text position

instance (text : List Char) (cursor : Nat) (tag : ByteTag) : Decidable (tag.Fits text cursor) :=
  decidable_of_iff
    (tag.backslashes ≤ tag.start ∧ cursor ≤ tag.start - tag.backslashes ∧ tag.start < tag.stop ∧
      tag.stop ≤ byteSize text ∧
      ∀ position ∈ [cursor, tag.start - tag.backslashes, tag.start, tag.stop],
        IsBoundary text position)
    ⟨fun ⟨a, b, c, d, e⟩ => ⟨a, b, c, d, e⟩, fun ⟨a, b, c, d, e⟩ => ⟨a, b, c, d, e⟩⟩

namespace Body

/-- What is done at a tag, with all texts that it takes. -/
inductive Turn where
  | verbatim (own : List Char)
  | shown (source : List Char)
  | stray (keyword : String)
  | unclosed (block : BlockKind)
  /-- A block whose inner text follows `offset` lines; the execution goes on at `next`. -/
  | enclosed (block : BlockKind) (args inner : List Char) (offset next : Nat)

def blockTurn? (text : List Char) (offset : Nat) (tag : ByteTag) (block : BlockKind)
    (args : List Char) : Option Turn := do
  let rest ← slice? text tag.stop (byteSize text)
  match ← findByteEnd? block rest with
  | none => some (.unclosed block)
  | some close => do
    let inner ← slice? rest 0 close.start
    let lines ← sub? (offset + tag.line) 1
    if IsBoundary text (tag.stop + close.stop) then
      some (.enclosed block args inner lines (tag.stop + close.stop))
    else none

def ownTurn? (text : List Char) (offset : Nat) (tag : ByteTag) : Option Turn :=
  if tag.isEscaped then (slice? text tag.start tag.stop).map .verbatim
  else match tag.kind with
    | .expression source => some (.shown source)
    | .closing keyword => some (.stray keyword)
    | .opening block args => blockTurn? text offset tag block args

/-- What is written before a tag, from the cursor on, and what is done at the tag. -/
def turn? (text : List Char) (offset cursor : Nat) (tag : ByteTag) :
    Option (List Char × Turn) :=
  if tag.Fits text cursor then do
    let stop ← sub? tag.start tag.backslashes
    let before ← slice? text cursor stop
    let turn ← ownTurn? text offset tag
    some (before ++ List.replicate (tag.backslashes / 2) '\\', turn)
  else none

/-- The text after the last tag, or the line on which a tag is left open in it. -/
def tailBytes? (text : List Char) (offset cursor : Nat) : Option (Except Nat (List Char)) := do
  let tail ← slice? text cursor (byteSize text)
  match ← openByte? tail 0 with
  | none => some (.ok tail)
  | some position => do
    let front ← slice? text 0 (cursor + position)
    some (.error (offset + 1 + newlines front))

theorem length_lt_of_slice? {text rest inner : List Char} {start stop last : Nat}
    (positive : 0 < start) (cut : slice? text start last = some rest)
    (again : slice? rest 0 stop = some inner) : inner.length < text.length := by
  obtain ⟨front, after, rfl, size, -⟩ := slice?_eq_some_iff.mp cut
  obtain ⟨first, second, rfl, -, -⟩ := slice?_eq_some_iff.mp again
  have nonempty : front ≠ [] := by
    rintro rfl
    rw [byteSize_nil] at size
    omega
  have := List.length_pos_iff.mpr nonempty
  simp only [List.length_append]
  omega

theorem length_inner_lt_of_ownTurn? {text args inner : List Char} {offset lines next : Nat}
    {tag : ByteTag} {block : BlockKind} (positive : 0 < tag.stop)
    (h : ownTurn? text offset tag = some (.enclosed block args inner lines next)) :
    inner.length < text.length := by
  by_cases escaped : tag.isEscaped = true
  · simp [ownTurn?, escaped] at h
  · cases kind : tag.kind with
    | expression source => simp [ownTurn?, escaped, kind] at h
    | closing keyword => simp [ownTurn?, escaped, kind] at h
    | opening other args' =>
      simp only [ownTurn?, escaped, kind, Bool.false_eq_true, if_false, blockTurn?,
        Option.bind_eq_bind, Option.bind_eq_some_iff] at h
      obtain ⟨rest, cut, close, _, h⟩ := h
      cases close with
      | none => simp at h
      | some close =>
        simp only [Option.bind_eq_some_iff, Option.ite_none_right_eq_some, Option.some.injEq,
          Turn.enclosed.injEq] at h
        obtain ⟨_, again, _, _, _, _, _, rfl, _⟩ := h
        exact length_lt_of_slice? positive cut again

theorem length_inner_lt_of_turn? {text args inner lead : List Char} {offset cursor lines next : Nat}
    {tag : ByteTag} {block : BlockKind}
    (h : turn? text offset cursor tag = some (lead, .enclosed block args inner lines next)) :
    inner.length < text.length := by
  by_cases fits : tag.Fits text cursor
  · have positive : 0 < tag.stop := Nat.lt_of_le_of_lt (Nat.zero_le _) fits.start_lt
    rw [turn?, if_pos fits] at h
    simp only [Option.bind_eq_bind, Option.bind_eq_some_iff, Option.some.injEq, Prod.mk.injEq] at h
    obtain ⟨_, _, _, _, turn, does, _, rfl⟩ := h
    exact length_inner_lt_of_ownTurn? positive does
  · rw [turn?, if_neg fits] at h
    cases h

variable {σ : Type}

/-- Executes the rest of a text from the cursor on, with positions that are counted in bytes. Where
a text cannot be cut or a difference is negative, `broken` is done. -/
def runBytes (broken : Run σ (List Char)) (path : Path) (text : List Char) (offset : Nat)
    (scope : Scope σ) (cursor : Nat) (tags : List ByteTag) : Run σ (List Char) :=
  match tags with
  | [] =>
    match tailBytes? text offset cursor with
    | none => broken
    | some (.ok tail) => pure tail
    | some (.error line) => malformed path line .openTag
  | tag :: tags =>
    if tag.start < cursor then runBytes broken path text offset scope cursor tags
    else
      let line := offset + tag.line
      match _h : turn? text offset cursor tag with
      | none => broken
      | some (lead, .verbatim own) => do
        let after ← runBytes broken path text offset scope tag.stop tags
        pure (lead ++ own ++ after)
      | some (lead, .shown source) => do
        let shown ← shownSource path line scope source
        let after ← runBytes broken path text offset scope tag.stop tags
        pure (lead ++ shown ++ after)
      | some (_, .stray keyword) => malformed path line (.strayClosing keyword)
      | some (_, .unclosed block) => malformed path line (.openBlock block)
      | some (lead, .enclosed block args inner lines next) => do
        let execute := fun scope =>
          match scanBytes? (bytes inner) with
          | none => broken
          | some tags => runBytes broken path inner lines scope 0 tags
        let shown ← runBlock path line scope args execute block
        let after ← runBytes broken path text offset scope next tags
        pure (lead ++ shown ++ after)
termination_by (text.length, tags.length)
decreasing_by
  all_goals first
    | exact Prod.Lex.left _ _ (length_inner_lt_of_turn? _h)
    | exact Prod.Lex.right _ (by simp)

def runTextBytes (broken : Run σ (List Char)) (path : Path) (text : List Char) (offset : Nat)
    (scope : Scope σ) : Run σ (List Char) :=
  match scanBytes? (bytes text) with
  | none => broken
  | some tags => runBytes broken path text offset scope 0 tags

def executeBytes (broken : Run σ (List Char)) (path : Path) (source : String) (scope : Scope σ) :
    Run σ String := do
  let text ← runTextBytes broken path source.toList 0 scope
  pure (String.ofList text)

/-- What is written for a turn at a tag that ends on a line and at a position: what stands before
the tag, what the turn writes, and what the rest writes that is executed from a position on. -/
def Turn.run (broken : Run σ (List Char)) (path : Path) (scope : Scope σ) (line stop : Nat)
    (lead : List Char) (rest : Nat → Run σ (List Char)) : Turn → Run σ (List Char)
  | .verbatim own => do
    let after ← rest stop
    pure (lead ++ own ++ after)
  | .shown source => do
    let shown ← shownSource path line scope source
    let after ← rest stop
    pure (lead ++ shown ++ after)
  | .stray keyword => malformed path line (.strayClosing keyword)
  | .unclosed block => malformed path line (.openBlock block)
  | .enclosed block args inner lines next => do
    let shown ← runBlock path line scope args (runTextBytes broken path inner lines) block
    let after ← rest next
    pure (lead ++ shown ++ after)

/-! ## One tag at a time -/

section
variable {broken : Run σ (List Char)} {path : Path} {text lead : List Char} {offset cursor : Nat}
  {scope : Scope σ} {tag : ByteTag} {tags : List ByteTag}

theorem runBytes_skip (h : tag.start < cursor) :
    runBytes broken path text offset scope cursor (tag :: tags) =
      runBytes broken path text offset scope cursor tags := by
  rw [runBytes, if_pos h]

theorem runBytes_turn {turn : Turn} (h : cursor ≤ tag.start)
    (does : turn? text offset cursor tag = some (lead, turn)) :
    runBytes broken path text offset scope cursor (tag :: tags) =
      turn.run broken path scope (offset + tag.line) tag.stop lead
        fun next => runBytes broken path text offset scope next tags := by
  rw [runBytes, if_neg (Nat.not_lt.mpr h)]
  dsimp only
  split
  · rename_i fails; cases does.symm.trans fails
  all_goals
    rename_i same
    cases does.symm.trans same
    rfl

end

/-! ## The tag of a piece -/

section
variable (before : List Char) (piece : Piece) (rest : List Char) (offset line : Nat)

theorem inBytes_tag :
    (piece.tag before.length line).inBytes (before ++ (piece.text ++ rest)) =
      ⟨byteSize (before ++ piece.before), byteSize piece.content + 4, piece.content,
        piece.backslashes, line + newlines piece.text⟩ := by
  have tag := Tag.inBytes_append (before ++ piece.before) piece.content rest piece.backslashes
    (line + newlines piece.text)
  have text : before ++ (piece.text ++ rest) =
      before ++ piece.before ++ ((Piece.mk [] piece.content).braced ++ rest) := by
    simp [Piece.text, Piece.braced]
  rw [text, ← tag, List.length_append]
  rfl

theorem stop_inBytes :
    ((piece.tag before.length line).inBytes (before ++ (piece.text ++ rest))).stop =
      byteSize (before ++ piece.text) := by
  rw [inBytes_tag, ByteTag.stop, Piece.text]
  simp [Nat.add_assoc]

theorem parts_tag :
    before ++ (piece.text ++ rest) =
      before ++ (piece.plain ++
        (List.replicate piece.backslashes '\\' ++ (piece.braced ++ rest))) := by
  conv_lhs => rw [Piece.text, piece.before_eq]
  simp

theorem byteSize_before : byteSize (before ++ piece.before) =
    byteSize before + byteSize piece.plain + piece.backslashes := by
  conv_lhs => rw [piece.before_eq]
  simp [Nat.add_assoc]

/-- Nothing goes wrong at the tag of a piece. -/
theorem fits_tag :
    ((piece.tag before.length line).inBytes (before ++ (piece.text ++ rest))).Fits
      (before ++ (piece.text ++ rest)) (byteSize before) where
  backslashes_le := by
    rw [inBytes_tag, byteSize_before]
    exact Nat.le_add_left _ _
  cursor_le := by
    rw [inBytes_tag, byteSize_before]
    dsimp only
    omega
  start_lt := by
    rw [inBytes_tag, ByteTag.stop]
    dsimp only
    omega
  stop_le := by
    rw [stop_inBytes]
    simp
  boundaries := by
    have start := isBoundary_append before (piece.text ++ rest)
    have slashes := isBoundary_append (before ++ piece.plain)
      (List.replicate piece.backslashes '\\' ++ (piece.braced ++ rest))
    have braces := isBoundary_append (before ++ piece.before) (piece.braced ++ rest)
    have stop := isBoundary_append (before ++ piece.text) rest
    rw [List.append_assoc, ← parts_tag] at slashes
    have text : before ++ piece.before ++ (piece.braced ++ rest) =
        before ++ (piece.text ++ rest) := by simp [Piece.text]
    rw [text] at braces
    rw [List.append_assoc] at stop
    intro position mem
    rw [stop_inBytes, inBytes_tag] at mem
    have last : byteSize (before ++ piece.before) - piece.backslashes =
        byteSize (before ++ piece.plain) := by
      rw [byteSize_before, byteSize_append]
      omega
    simp only [last, List.mem_cons, List.not_mem_nil, or_false] at mem
    rcases mem with rfl | rfl | rfl | rfl
    · exact start
    · exact slashes
    · exact braces
    · exact stop

theorem turn?_tag {turn : Turn}
    (does : ownTurn? (before ++ (piece.text ++ rest)) offset
      ((piece.tag before.length line).inBytes (before ++ (piece.text ++ rest))) = some turn) :
    turn? (before ++ (piece.text ++ rest)) offset (byteSize before)
        ((piece.tag before.length line).inBytes (before ++ (piece.text ++ rest))) =
      some (piece.lead, turn) := by
  have fits := fits_tag before piece rest line
  rw [turn?, if_pos fits, does, sub?_of_le fits.backslashes_le, inBytes_tag, piece.lead_eq]
  have last : byteSize (before ++ piece.before) - piece.backslashes =
      byteSize before + byteSize piece.plain := by
    rw [byteSize_before]
    omega
  have cut := slice?_append before piece.plain
    (List.replicate piece.backslashes '\\' ++ (piece.braced ++ rest))
  rw [← parts_tag] at cut
  simp only [last, cut, Option.bind_eq_bind, Option.bind_some]

theorem ownTurn?_escaped (escaped : piece.isEscaped = true) :
    ownTurn? (before ++ (piece.text ++ rest)) offset
        ((piece.tag before.length line).inBytes (before ++ (piece.text ++ rest))) =
      some (.verbatim piece.braced) := by
  have own : ((piece.tag before.length line).inBytes (before ++ (piece.text ++ rest))).isEscaped =
      true := escaped
  have cut := slice?_append (before ++ piece.before) piece.braced rest
  rw [← byteSize_append] at cut
  rw [ownTurn?, if_pos own, stop_inBytes, inBytes_tag]
  simpa [Piece.text] using cut

theorem ownTurn?_plain (plain : piece.isEscaped = false) :
    ownTurn? (before ++ (piece.text ++ rest)) offset
        ((piece.tag before.length line).inBytes (before ++ (piece.text ++ rest))) =
      match piece.kind with
      | .expression source => some (.shown source)
      | .closing keyword => some (.stray keyword)
      | .opening block args => blockTurn? (before ++ (piece.text ++ rest)) offset
          ((piece.tag before.length line).inBytes (before ++ (piece.text ++ rest))) block args := by
  have own : ((piece.tag before.length line).inBytes
      (before ++ (piece.text ++ rest))).isEscaped = false := plain
  rw [ownTurn?, own, if_neg Bool.false_ne_true]
  rfl

end

section
variable {before tail args : List Char} {piece : Piece} {pieces : List Piece} {block : BlockKind}
  (offset : Nat) (proper : ∀ piece ∈ pieces, piece.Proper) (untagged : Untagged tail)
include proper untagged

theorem blockTurn?_open (line : Nat) (last : cutBlock? block 0 pieces = none) :
    blockTurn? (before ++ (piece.text ++ joined pieces tail)) offset
        ((piece.tag before.length line).inBytes (before ++ (piece.text ++ joined pieces tail)))
        block args = some (.unclosed block) := by
  have ends := findBlockEnd_joined proper untagged block
  have rest := slice?_drop (before ++ piece.text) (joined pieces tail)
  rw [List.append_assoc] at rest
  rw [blockTurn?, stop_inBytes, rest]
  simp [findByteEnd?_eq, ends, last]

/-- The text of a block is cut out, and the execution goes on after its closing tag. -/
theorem blockTurn?_block {line : Nat} (positive : 0 < line) {inner after : List Piece}
    {close : Piece} (last : cutBlock? block 0 pieces = some (inner, close, after)) :
    blockTurn? (before ++ (piece.text ++ joined pieces tail)) offset
        ((piece.tag before.length line).inBytes (before ++ (piece.text ++ joined pieces tail)))
        block args =
      some (.enclosed block args (joined inner close.before)
        (offset + (line + newlines piece.text) - 1)
        (byteSize (before ++ piece.text ++ joined (inner ++ [close]) []))) := by
  have ends := findBlockEnd_joined proper untagged block
  rw [last, Option.map_some] at ends
  have rest := slice?_drop (before ++ piece.text) (joined pieces tail)
  rw [List.append_assoc] at rest
  cases append_of_cutBlock? last
  have text : joined (inner ++ close :: after) tail =
      joined inner [] ++ (close.text ++ joined after tail) := joined_append inner _ tail
  have cut := slice?_take (joined inner close.before) (close.braced ++ joined after tail)
  rw [← joined_eq_inside rfl tail, joined_eq_append inner close.before] at cut
  have start : ((close.tag (joined inner []).length (1 + newlines (joined inner []))).inBytes
      (joined (inner ++ close :: after) tail)).start =
        byteSize (joined inner [] ++ close.before) := by
    rw [text, inBytes_tag]
  have stop : ((close.tag (joined inner []).length (1 + newlines (joined inner []))).inBytes
      (joined (inner ++ close :: after) tail)).stop =
        byteSize (joined (inner ++ [close]) []) := by
    rw [text, stop_inBytes, joined_append, joined_cons, joined_nil, List.append_nil]
  have lines : 1 ≤ offset + (line + newlines piece.text) := by omega
  have boundary := isBoundary_append (before ++ piece.text ++ joined (inner ++ [close]) [])
    (joined after tail)
  rw [List.append_assoc, ← joined_eq_outside rfl tail, List.append_assoc,
    byteSize_append _ (joined _ _)] at boundary
  rw [blockTurn?, stop_inBytes, rest, inBytes_tag]
  simp only [findByteEnd?_eq, ends, Option.map_some, Option.bind_eq_bind, Option.bind_some, start,
    stop, cut, sub?_of_le lines, if_pos boundary]
  rw [joined_eq_append inner close.before, byteSize_append _ (joined _ _)]

end

/-! ## All tags -/

/-- The text after the last tag can be cut out, and what stands before braces left open in it. -/
theorem tailBytes?_append (before tail : List Char) (offset : Nat) :
    tailBytes? (before ++ tail) offset (byteSize before) =
      some (match openBraces? 0 0 tail with
        | none => .ok tail
        | some position => .error (offset + 1 + newlines (before ++ tail.take position))) := by
  rw [tailBytes?, slice?_drop]
  simp only [Option.bind_eq_bind, Option.bind_some, openByte?_eq]
  cases openBraces? 0 0 tail with
  | none => rfl
  | some position =>
    have front := slice?_take (before ++ tail.take position) (tail.drop position)
    rw [List.append_assoc, List.take_append_drop, byteSize_append] at front
    simp only [Option.map_some, front, Option.bind_some]

/-- A tag that starts in the text before the cursor is before the cursor in bytes, too. -/
theorem byteSize_take_lt {front : List Char} {position : Nat} (before : position < front.length)
    (rest : List Char) : byteSize ((front ++ rest).take position) < byteSize front := by
  have nonempty : front.drop position ≠ [] := by
    simpa using before
  have whole := congrArg byteSize (List.take_append_drop position front)
  have := byteSize_pos nonempty
  rw [byteSize_append] at whole
  rw [List.take_append_of_le_length (Nat.le_of_lt before)]
  omega

theorem runBytes_done (broken : Run σ (List Char)) (path : Path) {front : List Char}
    (rest : List Char) (offset : Nat) (scope : Scope σ) {position : Nat} {pieces : List Piece}
    (h : position + (joined pieces []).length ≤ front.length) (line : Nat) (tags : List Tag) :
    runBytes broken path (front ++ rest) offset scope (byteSize front)
        ((tagsAt position line pieces ++ tags).map (Tag.inBytes (front ++ rest))) =
      runBytes broken path (front ++ rest) offset scope (byteSize front)
        (tags.map (Tag.inBytes (front ++ rest))) := by
  induction pieces generalizing position line with
  | nil => rfl
  | cons piece pieces ih =>
    simp only [joined_cons, List.length_append, Piece.length_text] at h
    have skipped : ((piece.tag position line).inBytes (front ++ rest)).start < byteSize front :=
      byteSize_take_lt (by simp only [Piece.tag]; omega) rest
    rw [tagsAt, List.cons_append, List.map_cons, runBytes_skip skipped]
    apply ih
    simp only [Piece.length_text]
    omega

def runBytesFrom (broken : Run σ (List Char)) (path : Path) (before : List Char)
    (pieces : List Piece) (tail : List Char) (offset : Nat) (scope : Scope σ) :
    Run σ (List Char) :=
  runBytes broken path (before ++ joined pieces tail) offset scope (byteSize before)
    ((tagsAt before.length (1 + newlines before) pieces).map
      (Tag.inBytes (before ++ joined pieces tail)))

theorem runTextBytes_joined {broken : Run σ (List Char)} {path : Path} {pieces : List Piece}
    {tail : List Char} {offset : Nat} {scope : Scope σ} (proper : ∀ piece ∈ pieces, piece.Proper)
    (untagged : Untagged tail) :
    runTextBytes broken path (joined pieces tail) offset scope =
      runBytesFrom broken path [] pieces tail offset scope := by
  rw [runTextBytes, scanBytes_bytes, scan_joined proper untagged]
  rfl

section
variable {broken : Run σ (List Char)} {path : Path} {before tail : List Char} {piece : Piece}
  {pieces : List Piece} {offset : Nat} {scope : Scope σ}

theorem runBytesFrom_nil :
    runBytesFrom broken path before [] tail offset scope =
      runTail path (offset + (1 + newlines before)) tail := by
  rw [runBytesFrom, tagsAt, List.map_nil, runBytes, joined_nil, tailBytes?_append, runTail]
  cases openBraces? 0 0 tail with
  | none => rfl
  | some position => simp only [newlines_append, Nat.add_assoc]

theorem runBytesFrom_cons {turn : Turn}
    (does : ownTurn? (before ++ joined (piece :: pieces) tail) offset
      ((piece.tag before.length (1 + newlines before)).inBytes
        (before ++ joined (piece :: pieces) tail)) = some turn) :
    runBytesFrom broken path before (piece :: pieces) tail offset scope =
      turn.run broken path scope (offset + (1 + newlines before) + newlines piece.text)
        (byteSize (before ++ piece.text)) piece.lead fun next =>
          runBytes broken path (before ++ joined (piece :: pieces) tail) offset scope next
            ((tagsAt (before ++ piece.text).length (1 + newlines (before ++ piece.text)) pieces).map
              (Tag.inBytes (before ++ joined (piece :: pieces) tail))) := by
  have fits := fits_tag before piece (joined pieces tail) (1 + newlines before)
  have reached := Nat.le_trans fits.cursor_le (Nat.sub_le _ _)
  have turned := turn?_tag before piece (joined pieces tail) offset (1 + newlines before) does
  rw [runBytesFrom, tagsAt_cons, List.map_cons, ← @line_eq before piece offset, joined_cons,
    runBytes_turn reached turned, stop_inBytes]
  rfl

theorem runBytes_after :
    runBytes broken path (before ++ joined (piece :: pieces) tail) offset scope
        (byteSize (before ++ piece.text))
        ((tagsAt (before ++ piece.text).length (1 + newlines (before ++ piece.text)) pieces).map
          (Tag.inBytes (before ++ joined (piece :: pieces) tail))) =
      runBytesFrom broken path (before ++ piece.text) pieces tail offset scope := by
  rw [joined_cons, ← List.append_assoc, runBytesFrom]

theorem runBytes_after_block (inner rest : List Piece) (close : Piece) :
    runBytes broken path (before ++ joined (piece :: (inner ++ close :: rest)) tail) offset scope
        (byteSize (before ++ piece.text ++ joined (inner ++ [close]) []))
        ((tagsAt (before ++ piece.text).length (1 + newlines (before ++ piece.text))
          (inner ++ close :: rest)).map
            (Tag.inBytes (before ++ joined (piece :: (inner ++ close :: rest)) tail))) =
      runBytesFrom broken path (before ++ piece.text ++ joined (inner ++ [close]) []) rest tail
        offset scope := by
  have parts : inner ++ close :: rest = (inner ++ [close]) ++ rest := by simp
  have text : before ++ joined (piece :: (inner ++ close :: rest)) tail =
      before ++ piece.text ++ joined (inner ++ [close]) [] ++ joined rest tail := by
    rw [parts, joined_cons, joined_append]
    simp only [List.append_assoc]
  have done : (before ++ piece.text).length + (joined (inner ++ [close]) []).length ≤
      (before ++ piece.text ++ joined (inner ++ [close]) []).length := by
    exact Nat.le_of_eq List.length_append.symm
  rw [text, parts, tagsAt_append, runBytes_done broken path _ offset scope done, runBytesFrom]
  simp only [List.length_append, newlines_append, Nat.add_assoc]

end

/-- An execution that counts in bytes does what an execution piece by piece does. The induction is
on the number of pieces, of which there are fewer inside a block and after it. -/
theorem runBytesFrom_eq_runPieces {pieces : List Piece} {tail : List Char}
    (proper : ∀ piece ∈ pieces, piece.Proper) (untagged : Untagged tail)
    (broken : Run σ (List Char)) (path : Path) (before : List Char) (offset : Nat)
    (scope : Scope σ) :
    runBytesFrom broken path before pieces tail offset scope =
      runPieces path scope (offset + (1 + newlines before)) tail pieces := by
  induction h : pieces.length using Nat.strongRecOn
    generalizing pieces tail before offset scope with
  | ind length ih =>
    cases pieces with
    | nil => rw [runBytesFrom_nil, runPieces]
    | cons piece pieces =>
      obtain ⟨_, properRest⟩ := List.forall_mem_cons.mp proper
      rw [List.length_cons] at h
      have next := ih pieces.length (by omega) properRest untagged (before ++ piece.text) offset
        scope rfl
      rw [newlines_append, ← Nat.add_assoc 1, ← Nat.add_assoc offset] at next
      cases escaped : piece.isEscaped with
      | true =>
        rw [runBytesFrom_cons (ownTurn?_escaped before piece _ offset _ escaped), Turn.run,
          runBytes_after, runPieces_escaped escaped, next]
      | false =>
        have turn := ownTurn?_plain before piece (joined pieces tail) offset (1 + newlines before)
          escaped
        cases kind : piece.kind with
        | expression source =>
          rw [kind] at turn
          rw [runBytesFrom_cons turn, Turn.run, runBytes_after, runPieces_expression escaped kind,
            next]
        | closing keyword =>
          rw [kind] at turn
          rw [runBytesFrom_cons turn, Turn.run, runPieces_closing escaped kind]
        | opening block args =>
          rw [kind] at turn
          cases found : cutBlock? block 0 pieces with
          | none =>
            rw [runBytesFrom_cons (turn.trans (blockTurn?_open offset properRest untagged _ found)),
              Turn.run, runPieces_open escaped kind found]
          | some parts =>
            obtain ⟨inner, close, rest⟩ := parts
            have shorter := length_lt_of_cutBlock? found
            rw [runBytesFrom_cons (turn.trans
              (blockTurn?_block offset properRest untagged (by omega) found)), Turn.run,
              runPieces_block escaped kind found]
            cases append_of_cutBlock? found
            obtain ⟨properInner, properClose⟩ := List.forall_mem_append.mp properRest
            obtain ⟨properClose, properAfter⟩ := List.forall_mem_cons.mp properClose
            have inside (offset : Nat) (scope : Scope σ) :
                runTextBytes broken path (joined inner close.before) offset scope =
                  runPieces path scope (offset + 1) close.before inner := by
              rw [runTextBytes_joined properInner properClose.untagged]
              exact ih inner.length (by omega) properInner properClose.untagged [] offset scope rfl
            have outside := ih rest.length (by omega) properAfter untagged
              (before ++ piece.text ++ joined (inner ++ [close]) []) offset scope rfl
            have lines : offset + (1 + newlines (before ++ piece.text ++
                joined (inner ++ [close]) [])) = offset + (1 + newlines before) +
                newlines piece.text + newlines (joined (inner ++ [close]) []) := by
              simp only [newlines_append, Nat.add_assoc]
            rw [lines] at outside
            have executed : runTextBytes broken path (joined inner close.before)
                (offset + (1 + newlines before + newlines piece.text) - 1) =
                  fun scope => runPieces path scope
                    (offset + (1 + newlines before) + newlines piece.text) close.before inner := by
              funext scope
              rw [inside, Nat.sub_add_cancel (by omega), ← Nat.add_assoc offset]
            rw [runBytes_after_block, outside, executed]

/-- Executing a body never comes to `broken`, however the scope behaves: at every tag, also inside
blocks, the positions are in range, in order and between characters, and no difference is negative.
In no text does anything go wrong in the search for tags, for the end of a block or for a tag left
open; so what stands in a tag is always text, and the depth of blocks never goes below zero. -/
theorem executeBytes_eq (path : Path) (source : String) (scope : Scope σ) :
    (∀ broken, executeBytes broken path source scope = execute path source scope) ∧
    ∀ text : List Char, (scanBytes? (bytes text)).isSome ∧
      (∀ block, (findByteEnd? block text).isSome) ∧ (openByte? text 0).isSome := by
  refine ⟨fun broken => ?_, fun text => ⟨?_, fun block => ?_, ?_⟩⟩
  · obtain ⟨pieces, tail, whole, proper, untagged⟩ := exists_pieces source.toList
    have same := runBytesFrom_eq_runPieces proper untagged broken path [] 0 scope
    rw [execute_joined proper untagged whole, executeBytes, ← whole,
      runTextBytes_joined proper untagged, same]
    rfl
  · rw [scanBytes_bytes]
    rfl
  · rw [findByteEnd?_eq]
    rfl
  · rw [openByte?_eq]
    rfl

end Body

end Folio
