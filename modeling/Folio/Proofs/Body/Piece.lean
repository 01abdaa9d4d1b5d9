import Folio.Body.Execution

/-!
# Texts cut at their tags

The first two opening braces of a text start a tag, and the first two closing braces after them end
it. So a text is a row of pieces, each a tag with the text before it, and a tail without a tag.
Nothing of this depends on what stands before or after:

* `exists_pieces`: every text is such a row of pieces and a tail;
* `scan_joined`: the scan of the text finds exactly the tags of the pieces;
* `cutAt_joined`: cutting the text at the tags of its scan gives the pieces back.
-/

namespace Folio

open Body (newlines)

/-- What stands before and after the first two `c` in a row. -/
def cutPair? (c : Char) : List Char → Option (List Char × List Char)
  | a :: b :: rest =>
    if a = c ∧ b = c then some ([], rest)
    else (cutPair? c (b :: rest)).map fun parts => (a :: parts.1, parts.2)
  | _ => none

@[simp] theorem cutPair?_nil (c : Char) : cutPair? c [] = none := rfl

@[simp] theorem cutPair?_pair (c : Char) (rest : List Char) :
    cutPair? c (c :: c :: rest) = some ([], rest) := by
  simp [cutPair?]

theorem cutPair?_cons_of_ne {c a : Char} (h : a ≠ c) (rest : List Char) :
    cutPair? c (a :: rest) = (cutPair? c rest).map fun parts => (a :: parts.1, parts.2) := by
  cases rest with
  | nil => rfl
  | cons b rest => simp [cutPair?, h]

theorem cutPair?_single {c b : Char} (h : b ≠ c) (rest : List Char) :
    cutPair? c (c :: b :: rest) =
      (cutPair? c (b :: rest)).map fun parts => (c :: parts.1, parts.2) := by
  simp [cutPair?, h]

theorem append_of_cutPair? {c : Char} {text before after : List Char}
    (h : cutPair? c text = some (before, after)) : before ++ c :: c :: after = text := by
  induction text generalizing before with
  | nil => cases h
  | cons a rest ih =>
    cases rest with
    | nil => cases h
    | cons b rest =>
      by_cases pair : a = c ∧ b = c
      · obtain ⟨rfl, rfl⟩ := pair
        cases h.symm.trans (cutPair?_pair b rest)
        rfl
      · simp only [cutPair?, pair, if_false, Option.map_eq_some_iff, Prod.mk.injEq] at h
        obtain ⟨parts, found, rfl, rfl⟩ := h
        rw [List.cons_append, ih found]

theorem length_lt_of_cutPair? {c : Char} {text before after : List Char}
    (h : cutPair? c text = some (before, after)) : after.length < text.length := by
  rw [← append_of_cutPair? h]
  simp only [List.length_append, List.length_cons]
  omega

/-- The first pair stays the first one, whatever follows it. -/
theorem cutPair?_replace {c : Char} {text before after : List Char}
    (h : cutPair? c text = some (before, after)) (other : List Char) :
    cutPair? c (before ++ c :: c :: other) = some (before, other) := by
  induction text generalizing before with
  | nil => cases h
  | cons a rest ih =>
    cases rest with
    | nil => cases h
    | cons b rest =>
      by_cases pair : a = c ∧ b = c
      · obtain ⟨rfl, rfl⟩ := pair
        cases h.symm.trans (cutPair?_pair b rest)
        simp
      · simp only [cutPair?, pair, if_false, Option.map_eq_some_iff, Prod.mk.injEq] at h
        obtain ⟨⟨inner, _⟩, found, rfl, rfl⟩ := h
        have later := ih found
        -- the character after `a` is the same in both texts
        have next : ∃ tail, inner ++ c :: c :: other = b :: tail := by
          have same := append_of_cutPair? found
          cases inner with
          | nil => cases same; exact ⟨_, rfl⟩
          | cons d inner => cases same; exact ⟨_, rfl⟩
        obtain ⟨tail, next⟩ := next
        rw [next] at later
        rw [List.cons_append, next]
        simp [cutPair?, pair, later]

theorem cutPair?_before {c : Char} {text before after : List Char}
    (h : cutPair? c text = some (before, after)) : cutPair? c before = none := by
  cases found : cutPair? c before with
  | none => rfl
  | some parts =>
    obtain ⟨first, rest⟩ := parts
    have early := cutPair?_replace found (rest ++ c :: c :: after)
    have whole := append_of_cutPair? found
    have same : first ++ c :: c :: (rest ++ c :: c :: after) = text := by
      rw [← append_of_cutPair? h, ← whole]
      simp
    rw [same, h, Option.some.injEq, Prod.mk.injEq] at early
    have := congrArg List.length early.2
    simp only [List.length_append, List.length_cons] at this
    omega

theorem cutPair?_of_cons {c a : Char} {rest : List Char} (h : cutPair? c (a :: rest) = none) :
    cutPair? c rest = none := by
  cases rest with
  | nil => rfl
  | cons b rest =>
    by_cases pair : a = c ∧ b = c
    · obtain ⟨rfl, rfl⟩ := pair
      rw [cutPair?_pair] at h
      cases h
    · simpa [cutPair?, pair] using h

/-- A text has no first pair exactly if no two `c` stand in a row in it. -/
theorem cutPair?_eq_none_iff {c : Char} {text : List Char} :
    cutPair? c text = none ↔ ¬ [c, c] <:+: text := by
  constructor
  · rintro none ⟨front, rest, rfl⟩
    induction front with
    | nil => simp at none
    | cons a front ih => exact ih (cutPair?_of_cons none)
  · intro absent
    cases cut : cutPair? c text with
    | none => rfl
    | some parts =>
      refine absurd ⟨parts.1, parts.2, ?_⟩ absent
      simpa using append_of_cutPair? cut

theorem cutPair?_append_cons {c d : Char} {before : List Char} (h : cutPair? c before = none)
    (ne : d ≠ c) (rest : List Char) :
    cutPair? c (before ++ d :: rest) =
      (cutPair? c rest).map fun parts => (before ++ d :: parts.1, parts.2) := by
  induction before with
  | nil => exact cutPair?_cons_of_ne ne rest
  | cons a before ih =>
    have later := ih (cutPair?_of_cons h)
    cases before with
    | nil =>
      have single : ¬ (a = c ∧ d = c) := fun pair => ne pair.2
      rw [List.nil_append] at later
      simp only [List.singleton_append, cutPair?, single, if_false, later, Option.map_map]
      rfl
    | cons b before =>
      have single : ¬ (a = c ∧ b = c) := by
        rintro ⟨rfl, rfl⟩
        rw [cutPair?_pair] at h
        cases h
      rw [List.cons_append] at later
      simp only [List.cons_append, cutPair?, single, if_false, later, Option.map_map]
      rfl

def trailingBackslashes (text : List Char) : Nat :=
  (text.reverse.takeWhile (· = '\\')).length

theorem trailingBackslashes_le (text : List Char) : trailingBackslashes text ≤ text.length := by
  have := (List.takeWhile_sublist (· = '\\') (l := text.reverse)).length_le
  rwa [List.length_reverse] at this

/-- A scanner counts backslashes from the left and starts again at any other character. -/
theorem trailingBackslashes_append_cons (text rest : List Char) {c : Char} (h : c ≠ '\\') :
    trailingBackslashes (text ++ c :: rest) = trailingBackslashes rest := by
  unfold trailingBackslashes
  rw [List.reverse_append, List.reverse_cons, List.append_assoc, List.takeWhile_append]
  split
  · rename_i all
    rw [List.singleton_append, List.takeWhile_cons_of_neg (by simpa using h), List.append_nil,
      ← all]
  · rfl

@[simp] theorem trailingBackslashes_replicate (n : Nat) :
    trailingBackslashes (List.replicate n '\\') = n := by
  simp [trailingBackslashes]

/-- A tag with the text before it, since the tag before or since the start. -/
structure Piece where
  before : List Char
  content : List Char
  deriving DecidableEq, Repr

namespace Piece

def braced (piece : Piece) : List Char :=
  '{' :: '{' :: piece.content ++ ['}', '}']

def text (piece : Piece) : List Char :=
  piece.before ++ piece.braced

def backslashes (piece : Piece) : Nat := trailingBackslashes piece.before

def tag (piece : Piece) (position line : Nat) : Tag :=
  ⟨position + piece.before.length, piece.content, piece.backslashes, line + newlines piece.text⟩

/-- No pair of braces comes too early: the tag starts and ends where the piece says. -/
def Proper (piece : Piece) : Prop :=
  cutPair? '{' (piece.before ++ ['{', '{']) = some (piece.before, []) ∧
    cutPair? '}' (piece.content ++ ['}', '}']) = some (piece.content, [])

instance (piece : Piece) : Decidable piece.Proper :=
  inferInstanceAs (Decidable (_ ∧ _))

@[simp] theorem length_text (piece : Piece) :
    piece.text.length = piece.before.length + piece.content.length + 4 := by
  simp only [text, braced, List.length_append, List.length_cons, List.length_nil]
  omega

@[simp] theorem stop_tag (piece : Piece) (position line : Nat) :
    (piece.tag position line).stop = position + piece.text.length := by
  simp only [tag, Tag.stop, Tag.length, length_text]
  omega

theorem newlines_text (piece : Piece) :
    newlines piece.text = newlines piece.before + newlines piece.content := by
  simp [text, braced, newlines]

theorem Proper.cut_before {piece : Piece} (h : piece.Proper) (rest : List Char) :
    cutPair? '{' (piece.text ++ rest) =
      some (piece.before, piece.content ++ '}' :: '}' :: rest) := by
  have := cutPair?_replace h.1 (piece.content ++ '}' :: '}' :: rest)
  simpa [text, braced] using this

theorem Proper.cut_content {piece : Piece} (h : piece.Proper) (rest : List Char) :
    cutPair? '}' (piece.content ++ '}' :: '}' :: rest) = some (piece.content, rest) :=
  cutPair?_replace h.2 rest

end Piece

/-- A text in which no tag starts and ends. -/
def Untagged (text : List Char) : Prop :=
  ∀ before rest, cutPair? '{' text = some (before, rest) → cutPair? '}' rest = none

theorem Piece.Proper.untagged {piece : Piece} (h : piece.Proper) : Untagged piece.before := by
  intro before rest found
  rw [cutPair?_before h.1] at found
  cases found

/-- The text that the pieces and the tail are cut from. -/
def joined : List Piece → List Char → List Char
  | [], tail => tail
  | piece :: pieces, tail => piece.text ++ joined pieces tail

@[simp] theorem joined_nil (tail : List Char) : joined [] tail = tail := rfl

@[simp] theorem joined_cons (piece : Piece) (pieces : List Piece) (tail : List Char) :
    joined (piece :: pieces) tail = piece.text ++ joined pieces tail := rfl

theorem joined_append (pieces more : List Piece) (tail : List Char) :
    joined (pieces ++ more) tail = joined pieces [] ++ joined more tail := by
  induction pieces with
  | nil => rfl
  | cons piece pieces ih => simp [ih]

theorem joined_eq_append (pieces : List Piece) (tail : List Char) :
    joined pieces tail = joined pieces [] ++ tail := by
  simpa using joined_append pieces [] tail

/-- Every text is a row of pieces and a tail. -/
theorem exists_pieces (text : List Char) :
    ∃ pieces tail, joined pieces tail = text ∧ (∀ piece ∈ pieces, piece.Proper) ∧
      Untagged tail := by
  induction h : text.length using Nat.strongRecOn generalizing text with
  | ind length ih =>
    cases opened : cutPair? '{' text with
    | none => exact ⟨[], text, rfl, by simp, fun before rest found => by simp [opened] at found⟩
    | some first =>
      obtain ⟨before, rest⟩ := first
      cases closed : cutPair? '}' rest with
      | none =>
        refine ⟨[], text, rfl, by simp, fun before' rest' found => ?_⟩
        cases opened.symm.trans found
        exact closed
      | some second =>
        obtain ⟨content, after⟩ := second
        have shorter := length_lt_of_cutPair? opened
        have shorter' := length_lt_of_cutPair? closed
        obtain ⟨pieces, tail, same, proper, untagged⟩ := ih after.length (by omega) after rfl
        refine ⟨⟨before, content⟩ :: pieces, tail, ?_, ?_, untagged⟩
        · rw [joined_cons, same, ← append_of_cutPair? opened, ← append_of_cutPair? closed]
          simp [Piece.text, Piece.braced]
        · intro piece mem
          rcases List.mem_cons.mp mem with rfl | mem
          · exact ⟨cutPair?_replace opened [], cutPair?_replace closed []⟩
          · exact proper piece mem

/-! ## The scan of a row of pieces -/

def tagsAt (position line : Nat) : List Piece → List Tag
  | [] => []
  | piece :: pieces =>
    piece.tag position line ::
      tagsAt (position + piece.text.length) (line + newlines piece.text) pieces

theorem newlines_append (a b : List Char) : newlines (a ++ b) = newlines a + newlines b :=
  List.count_append

theorem lineAfter_add (line : Nat) (c : Char) (text : List Char) :
    Scanner.lineAfter line c + newlines text = line + newlines (c :: text) := by
  by_cases h : c = '\n' <;> simp [Scanner.lineAfter, newlines, h]
  omega

/-! A scanner in a text goes on to the first two opening braces, and from there to the first two
closing ones. -/

theorem Scanner.tags_cons (scanner : Scanner) (c : Char) (rest : List Char) :
    scanner.tags (c :: rest) =
      (scanner.step c).tag?.toList ++
        (scanner.step c).next.tags (if (scanner.step c).consumed then rest else c :: rest) := by
  rw [Scanner.tags]
  split
  · rename_i consumed; rw [consumed]; rfl
  · rename_i kept; rw [kept]; rfl

theorem Scanner.tags_advance {scanner : Scanner} {c : Char} (state : ScanState)
    (h : scanner.step c = scanner.advance state c) (rest : List Char) :
    scanner.tags (c :: rest) =
      (⟨state, scanner.position + 1, lineAfter scanner.line c⟩ : Scanner).tags rest := by
  rw [tags_cons, h]
  simp [advance]

theorem Scanner.tags_retry {scanner : Scanner} {c : Char} (state : ScanState)
    (h : scanner.step c = scanner.retry state) (rest : List Char) :
    scanner.tags (c :: rest) = ({ scanner with state } : Scanner).tags (c :: rest) := by
  rw [tags_cons, h]
  simp [retry]

theorem Scanner.tags_text (text : List Char) (backslashes position line : Nat) :
    (⟨.text backslashes, position, line⟩ : Scanner).tags text =
      match cutPair? '{' text with
      | none => []
      | some (before, rest) =>
        (⟨.inside (position + before.length)
            (trailingBackslashes (List.replicate backslashes '\\' ++ before)) [],
          position + before.length + 2, line + newlines before⟩ : Scanner).tags rest := by
  induction text generalizing backslashes position line with
  | nil => simp [Scanner.tags]
  | cons c rest ih =>
    by_cases brace : c = '{'
    · subst brace
      rw [tags_advance (.opening position backslashes) (by simp [step])]
      cases rest with
      | nil => simp [Scanner.tags, cutPair?]
      | cons d rest =>
        by_cases pair : d = '{'
        · subst pair
          rw [tags_advance (.inside position backslashes []) (by simp [step])]
          simp [newlines, lineAfter]
        · rw [tags_retry (.text 0) (by simp [step, pair]), ih, cutPair?_single pair]
          cases cutPair? '{' (d :: rest) with
          | none => rfl
          | some parts =>
            apply congrArg (fun scanner : Scanner => scanner.tags parts.2)
            simp only [List.length_cons, lineAfter_add, mk.injEq, ScanState.inside.injEq,
              trailingBackslashes_append_cons _ _ (by decide : '{' ≠ '\\'),
              List.replicate_zero, List.nil_append, and_true]
            omega
    · rw [cutPair?_cons_of_ne brace]
      by_cases slash : c = '\\'
      · subst slash
        rw [tags_advance (.text (backslashes + 1)) (by simp [step]), ih]
        cases cutPair? '{' rest with
        | none => rfl
        | some parts =>
          apply congrArg (fun scanner : Scanner => scanner.tags parts.2)
          simp only [List.length_cons, lineAfter_add, mk.injEq, ScanState.inside.injEq,
            List.replicate_succ', List.append_assoc, List.singleton_append, and_true]
          omega
      · rw [tags_advance (.text 0) (by simp [step, slash, brace]), ih]
        cases cutPair? '{' rest with
        | none => rfl
        | some parts =>
          apply congrArg (fun scanner : Scanner => scanner.tags parts.2)
          simp only [List.length_cons, lineAfter_add, mk.injEq, ScanState.inside.injEq,
            trailingBackslashes_append_cons _ _ slash, List.replicate_zero, List.nil_append,
            and_true]
          omega

theorem Scanner.tags_inside (text content : List Char) (start backslashes position line : Nat) :
    (⟨.inside start backslashes content, position, line⟩ : Scanner).tags text =
      match cutPair? '}' text with
      | none => []
      | some (before, rest) =>
        ⟨start, content.reverse ++ before, backslashes, line + newlines before⟩ ::
          Scanner.tags ⟨.text 0, position + before.length + 2, line + newlines before⟩ rest := by
  induction text generalizing content position line with
  | nil => simp [Scanner.tags]
  | cons c rest ih =>
    by_cases brace : c = '}'
    · subst brace
      rw [tags_advance (.closing start backslashes content) (by simp [step])]
      cases rest with
      | nil => simp [Scanner.tags, cutPair?]
      | cons d rest =>
        by_cases pair : d = '}'
        · subst pair
          rw [tags_cons]
          simp [step, advance, newlines, lineAfter]
        · rw [tags_retry (.inside start backslashes ('}' :: content))
            (by simp [step, pair]), ih, cutPair?_single pair]
          cases cutPair? '}' (d :: rest) with
          | none => rfl
          | some parts =>
            have next : position + 1 + parts.1.length = position + ('}' :: parts.1).length := by
              simp only [List.length_cons]; omega
            simp only [Option.map_some, lineAfter_add, List.reverse_cons, List.append_assoc,
              List.singleton_append, next]
    · rw [tags_advance (.inside start backslashes (c :: content))
        (by simp [step, brace]), ih, cutPair?_cons_of_ne brace]
      cases cutPair? '}' rest with
      | none => rfl
      | some parts =>
        have next : position + 1 + parts.1.length = position + (c :: parts.1).length := by
          simp only [List.length_cons]; omega
        simp only [Option.map_some, lineAfter_add, List.reverse_cons, List.append_assoc,
          List.singleton_append, next]

/-- The scan finds the tags of the pieces, wherever they start. -/
theorem Scanner.tags_joined {pieces : List Piece} {tail : List Char}
    (proper : ∀ piece ∈ pieces, piece.Proper) (untagged : Untagged tail) (position line : Nat) :
    (⟨.text 0, position, line⟩ : Scanner).tags (joined pieces tail) =
      tagsAt position line pieces := by
  induction pieces generalizing position line with
  | nil =>
    rw [joined_nil, tags_text]
    cases opened : cutPair? '{' tail with
    | none => rfl
    | some parts =>
      obtain ⟨before, rest⟩ := parts
      simp [tags_inside, untagged before rest opened, tagsAt]
  | cons piece pieces ih =>
    obtain ⟨first, rest⟩ := List.forall_mem_cons.mp proper
    rw [joined_cons, tags_text, first.cut_before]
    simp only [tags_inside, first.cut_content, ih rest]
    have next : position + piece.before.length + 2 + piece.content.length + 2 =
        position + piece.text.length := by
      simp only [Piece.length_text]
      omega
    rw [next]
    simp [tagsAt, Piece.tag, Piece.backslashes, piece.newlines_text, Nat.add_assoc]

theorem scan_joined {pieces : List Piece} {tail : List Char}
    (proper : ∀ piece ∈ pieces, piece.Proper) (untagged : Untagged tail) :
    scan (joined pieces tail) = tagsAt 0 1 pieces :=
  Scanner.tags_joined proper untagged 0 1

theorem tagsAt_append (position line : Nat) (pieces more : List Piece) :
    tagsAt position line (pieces ++ more) =
      tagsAt position line pieces ++
        tagsAt (position + (joined pieces []).length) (line + newlines (joined pieces []))
          more := by
  induction pieces generalizing position line with
  | nil => simp [tagsAt, newlines]
  | cons piece pieces ih =>
    simp only [List.cons_append, tagsAt, ih, joined_cons, List.length_append, newlines_append,
      Nat.add_assoc]

/-- The text cut at its tags, from a position on. -/
def cutAt (text : List Char) (cursor : Nat) : List Tag → List Piece
  | [] => []
  | tag :: tags => ⟨text.extract cursor tag.start, tag.content⟩ :: cutAt text tag.stop tags

theorem cutAt_tagsAt (pieces : List Piece) (before tail : List Char) (line : Nat) :
    cutAt (before ++ joined pieces tail) before.length (tagsAt before.length line pieces) =
      pieces := by
  induction pieces generalizing before line with
  | nil => rfl
  | cons piece pieces ih =>
    have later := ih (before ++ piece.text) (line + newlines piece.text)
    rw [List.append_assoc, List.length_append] at later
    simp only [tagsAt, cutAt, Piece.stop_tag, joined_cons, later]
    simp [Piece.tag, Piece.text, List.extract_eq_take_drop]

theorem cutAt_joined {pieces : List Piece} {tail : List Char}
    (proper : ∀ piece ∈ pieces, piece.Proper) (untagged : Untagged tail) :
    cutAt (joined pieces tail) 0 (scan (joined pieces tail)) = pieces := by
  rw [scan_joined proper untagged]
  exact cutAt_tagsAt pieces [] tail 1

end Folio
