import Folio.Proofs.Body.Piece

namespace Folio

open Body (newlines)

/-- The line on which a position of a text is, counted from one. -/
def lineAt (text : List Char) (position : Nat) : Nat :=
  1 + newlines (text.take position)

def PairAt (c : Char) (text : List Char) (position : Nat) : Prop :=
  text[position]? = some c ∧ text[position + 1]? = some c

instance (c : Char) (text : List Char) (position : Nat) : Decidable (PairAt c text position) :=
  inferInstanceAs (Decidable (_ ∧ _))

def firstPair? (c : Char) (text : List Char) (start : Nat) : Option Nat :=
  (List.range' start (text.length - start)).find? fun position => PairAt c text position

theorem firstPair?_of_pairAt {c : Char} {text : List Char} {start : Nat}
    (h : PairAt c text start) : firstPair? c text start = some start := by
  obtain ⟨bound, -⟩ := List.getElem?_eq_some_iff.mp h.1
  obtain ⟨n, more⟩ : ∃ n, text.length - start = n + 1 := ⟨text.length - start - 1, by omega⟩
  rw [firstPair?, more, List.range'_succ, List.find?_cons_of_pos (by simpa using h)]

theorem firstPair?_of_not_pairAt {c : Char} {text : List Char} {start : Nat}
    (h : ¬ PairAt c text start) : firstPair? c text start = firstPair? c text (start + 1) := by
  unfold firstPair?
  rcases Nat.lt_or_ge start text.length with inside | beyond
  · obtain ⟨n, more⟩ : ∃ n, text.length - start = n + 1 := ⟨text.length - start - 1, by omega⟩
    have less : text.length - (start + 1) = n := by omega
    rw [more, less, List.range'_succ, List.find?_cons_of_neg (by simpa using h)]
  · have none : text.length - start = 0 := by omega
    have none' : text.length - (start + 1) = 0 := by omega
    rw [none, none']
    rfl

/-- The position that is found is that of a pair, and there is room for the pair in the text. -/
theorem of_firstPair? {c : Char} {text : List Char} {start position : Nat}
    (h : firstPair? c text start = some position) :
    start ≤ position ∧ PairAt c text position ∧ position + 1 < text.length := by
  have pair : PairAt c text position := by simpa using List.find?_some h
  have mem := List.mem_range'_1.mp (List.mem_of_find?_eq_some h)
  obtain ⟨bound, -⟩ := List.getElem?_eq_some_iff.mp pair.2
  exact ⟨mem.1, pair, bound⟩

/-- Cutting the rest of a text at its first pair is finding the position of that pair. The induction
is on the rest, of which the first character goes over to what stands before it. -/
theorem firstPair?_append (c : Char) (front text : List Char) :
    firstPair? c (front ++ text) front.length =
      (cutPair? c text).map fun parts => front.length + parts.1.length := by
  induction text generalizing front with
  | nil => simp [firstPair?]
  | cons a rest ih =>
    have here : (front ++ a :: rest)[front.length]? = some a := by simp
    have next : (front ++ a :: rest)[front.length + 1]? = rest[0]? := by
      rw [List.getElem?_append_right (by omega)]
      simp
    have later := ih (front ++ [a])
    rw [List.append_assoc, List.singleton_append, List.length_append, List.length_singleton]
      at later
    by_cases pair : PairAt c (front ++ a :: rest) front.length
    · rw [firstPair?_of_pairAt pair]
      rw [PairAt, here, next, Option.some.injEq] at pair
      obtain ⟨rfl, second⟩ := pair
      cases rest with
      | nil => cases second
      | cons b rest =>
        cases second
        simp
    · rw [firstPair?_of_not_pairAt pair, later]
      rw [PairAt, here, next, Option.some.injEq] at pair
      cases rest with
      | nil => rfl
      | cons b rest =>
        have single : ¬ (a = c ∧ b = c) := by simpa using pair
        simp only [cutPair?, single, if_false, Option.map_map]
        congr 1
        funext parts
        simp only [Function.comp_apply, List.length_cons]
        omega

/-- What is to be seen of a tag: where it starts, how long it is with its braces, what it does, how
many backslashes stand before it, and the line on which it ends. -/
structure Sighting where
  start : Nat
  length : Nat
  kind : TagKind
  backslashes : Nat
  line : Nat
  deriving DecidableEq, Repr

def Tag.closing (tag : Tag) : Nat :=
  tag.start + 2 + tag.content.length

def Tag.sighting (tag : Tag) : Sighting :=
  ⟨tag.start, tag.length, tag.kind, tag.backslashes, tag.line⟩

/-- The tags of a text from a position on: where the first two opening braces stand, and then the
first two closing braces. The backslashes are those at the end of the text that has been passed on
the way to the tag. -/
def sightings (text : List Char) (start : Nat) : List Sighting :=
  match _h : firstPair? '{' text start with
  | none => []
  | some opening =>
    match _h' : firstPair? '}' text (opening + 2) with
    | none => []
    | some closing =>
      { start := opening
        length := closing + 2 - opening
        kind := .ofContent (text.extract (opening + 2) closing)
        backslashes := trailingBackslashes (text.extract start opening)
        line := lineAt text closing } :: sightings text (closing + 2)
termination_by text.length - start
decreasing_by
  have := of_firstPair? _h
  have := of_firstPair? _h'
  omega

theorem sightings_of_not_opened {text : List Char} {start : Nat}
    (h : firstPair? '{' text start = none) : sightings text start = [] := by
  rw [sightings]
  split
  · rfl
  · rename_i found
    cases h.symm.trans found

theorem sightings_of_not_closed {text : List Char} {start opening : Nat}
    (h : firstPair? '{' text start = some opening)
    (h' : firstPair? '}' text (opening + 2) = none) : sightings text start = [] := by
  rw [sightings]
  split
  · rfl
  · rename_i found
    cases h.symm.trans found
    split
    · rfl
    · rename_i found'
      cases h'.symm.trans found'

theorem sightings_of_closed {text : List Char} {start opening closing : Nat}
    (h : firstPair? '{' text start = some opening)
    (h' : firstPair? '}' text (opening + 2) = some closing) :
    sightings text start =
      ⟨opening, closing + 2 - opening, .ofContent (text.extract (opening + 2) closing),
        trailingBackslashes (text.extract start opening), lineAt text closing⟩ ::
          sightings text (closing + 2) := by
  rw [sightings]
  split
  · rename_i found
    cases h.symm.trans found
  · rename_i found
    cases h.symm.trans found
    split
    · rename_i found'
      cases h'.symm.trans found'
    · rename_i found'
      cases h'.symm.trans found'
      rfl

/-! ## One piece at a time -/

theorem extract_append (front middle rest : List Char) :
    (front ++ (middle ++ rest)).extract front.length (front.length + middle.length) = middle := by
  simp [List.extract_eq_take_drop]

namespace Piece

def closing (piece : Piece) (position : Nat) : Nat :=
  position + piece.before.length + 2 + piece.content.length

theorem lineAt_closing (piece : Piece) (front rest : List Char) :
    lineAt (front ++ (piece.text ++ rest)) (piece.closing front.length) =
      1 + newlines front + newlines piece.text := by
  have cut : front ++ (piece.text ++ rest) =
      front ++ piece.before ++ ['{', '{'] ++ (piece.content ++ '}' :: '}' :: rest) := by
    simp [text, braced]
  have inner : (front ++ piece.before ++ ['{', '{']).length =
      front.length + piece.before.length + 2 := by
    simp only [List.length_append, List.length_cons, List.length_nil]
  rw [lineAt, closing, cut, ← inner, List.take_length_add_append, List.take_left, newlines_text]
  simp [newlines, Nat.add_assoc]

namespace Proper

variable {piece : Piece} (proper : piece.Proper) (front rest : List Char)
include proper

theorem firstPair?_opening :
    firstPair? '{' (front ++ (piece.text ++ rest)) front.length =
      some (front.length + piece.before.length) := by
  rw [firstPair?_append, proper.cut_before]
  rfl

theorem firstPair?_closing :
    firstPair? '}' (front ++ (piece.text ++ rest)) (front.length + piece.before.length + 2) =
      some (piece.closing front.length) := by
  have found := firstPair?_append '}' (front ++ piece.before ++ ['{', '{'])
    (piece.content ++ '}' :: '}' :: rest)
  rw [proper.cut_content] at found
  simpa [text, braced, closing, Nat.add_assoc] using found

theorem sightings_append :
    sightings (front ++ (piece.text ++ rest)) front.length =
      (piece.tag front.length (1 + newlines front)).sighting ::
        sightings (front ++ piece.text ++ rest) (front ++ piece.text).length := by
  have before : (front ++ (piece.text ++ rest)).extract front.length
      (front.length + piece.before.length) = piece.before := by
    have parts := extract_append front piece.before (piece.braced ++ rest)
    rwa [← List.append_assoc piece.before] at parts
  have content : (front ++ (piece.text ++ rest)).extract (front.length + piece.before.length + 2)
      (piece.closing front.length) = piece.content := by
    have parts := extract_append (front ++ piece.before ++ ['{', '{']) piece.content
      ('}' :: '}' :: rest)
    simpa [text, braced, closing, Nat.add_assoc] using parts
  have length : piece.closing front.length + 2 - (front.length + piece.before.length) =
      piece.content.length + 4 := by
    rw [closing]
    omega
  have stop : piece.closing front.length + 2 = (front ++ piece.text).length := by
    rw [closing, List.length_append, length_text]
    omega
  rw [sightings_of_closed (proper.firstPair?_opening front rest)
    (proper.firstPair?_closing front rest), before, content, piece.lineAt_closing, length, stop,
    ← List.append_assoc]
  rfl

end Proper

end Piece

theorem Untagged.sightings_append {tail : List Char} (untagged : Untagged tail)
    (front : List Char) : sightings (front ++ tail) front.length = [] := by
  have opened := firstPair?_append '{' front tail
  cases cut : cutPair? '{' tail with
  | none =>
    rw [cut] at opened
    exact sightings_of_not_opened opened
  | some parts =>
    obtain ⟨before, rest⟩ := parts
    rw [cut] at opened
    have closed := firstPair?_append '}' (front ++ before ++ ['{', '{']) rest
    rw [untagged before rest cut] at closed
    have whole : front ++ before ++ ['{', '{'] ++ rest = front ++ tail := by
      simp [← append_of_cutPair? cut]
    rw [whole] at closed
    exact sightings_of_not_closed opened (by simpa [Nat.add_assoc] using closed)

theorem sightings_joined {pieces : List Piece} {tail : List Char}
    (proper : ∀ piece ∈ pieces, piece.Proper) (untagged : Untagged tail) (front : List Char) :
    sightings (front ++ joined pieces tail) front.length =
      (tagsAt front.length (1 + newlines front) pieces).map Tag.sighting := by
  induction pieces generalizing front with
  | nil => exact untagged.sightings_append front
  | cons piece pieces ih =>
    obtain ⟨first, rest⟩ := List.forall_mem_cons.mp proper
    rw [joined_cons, first.sightings_append, ih rest]
    simp only [tagsAt, List.map_cons, List.length_append, newlines_append, Nat.add_assoc]

/-- The scanner finds the tags that are found by position, whatever the text is: each with its
start and its length, what it does, the backslashes right before it and the line on which it ends.
-/
theorem scan_eq_sightings (text : List Char) :
    (scan text).map Tag.sighting = sightings text 0 := by
  obtain ⟨pieces, tail, rfl, proper, untagged⟩ := exists_pieces text
  rw [scan_joined proper untagged]
  exact (sightings_joined proper untagged []).symm

/-- A single brace, two backslashes, three braces in a row and a tag over two lines. -/
example : sightings "\x7b a\\\\\x7b\x7b\x7bx\n\x7d\x7d".toList 0 =
    [⟨5, 7, .expression ['{', 'x'], 2, 2⟩] := by
  cbv

end Folio
