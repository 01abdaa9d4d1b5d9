import Folio.Proofs.Body.Bytes
import Mathlib

/-! Just after a tag the scanner is where it is at the start of a text, but for its position and its
line. And no tag is open right before the opening braces of another one. So the text after a tag has
the tags that follow it, and the text before a tag has those that stand before it. -/

namespace Folio

open Body (newlines)

/-! ## Tags that follow another one -/

/-- The tag as it is found in the text after `done`: its position is counted from the end of `done`,
and its line from the line on which `done` ends. -/
def Tag.countedFrom (tag done : Tag) : Tag :=
  { tag with start := tag.start - done.stop, line := tag.line - (done.line - 1) }

def ByteTag.countedFrom (tag done : ByteTag) : ByteTag :=
  { tag with start := tag.start - done.stop, line := tag.line - (done.line - 1) }

theorem of_mem_tagsAt {position line : Nat} {pieces : List Piece} {tag : Tag}
    (mem : tag ∈ tagsAt position line pieces) :
    position ≤ tag.start ∧ tag.stop ≤ position + (joined pieces []).length ∧ line ≤ tag.line := by
  induction pieces generalizing position line with
  | nil => cases mem
  | cons piece pieces ih =>
    rw [joined_cons, List.length_append]
    rcases List.mem_cons.mp mem with rfl | mem
    · rw [Piece.stop_tag]
      refine ⟨Nat.le_add_right _ _, ?_, Nat.le_add_right _ _⟩
      omega
    · obtain ⟨start, stop, lines⟩ := ih mem
      refine ⟨?_, ?_, ?_⟩ <;> omega

/-- The tags of pieces that follow a tag, as they are found in the text after it. -/
theorem map_countedFrom_tagsAt {done : Tag} (first : 1 ≤ done.line) (position line : Nat)
    (pieces : List Piece) :
    (tagsAt (done.stop + position) (done.line + line) pieces).map (·.countedFrom done) =
      tagsAt position (1 + line) pieces := by
  induction pieces generalizing position line with
  | nil => rfl
  | cons piece pieces ih =>
    have head : (piece.tag (done.stop + position) (done.line + line)).countedFrom done =
        piece.tag position (1 + line) := by
      simp only [Tag.countedFrom, Piece.tag, Tag.mk.injEq, true_and]
      omega
    rw [tagsAt, tagsAt, List.map_cons, head, Nat.add_assoc, Nat.add_assoc, ih, Nat.add_assoc]

/-! ## The scan of characters -/

/-- Where a row of pieces is cut if its tags are cut at one of them. -/
theorem exists_split_of_tagsAt {position line : Nat} {pieces : List Piece}
    {before after : List Tag} {tag : Tag}
    (h : tagsAt position line pieces = before ++ tag :: after) :
    ∃ front piece back, pieces = front ++ piece :: back ∧
      before = tagsAt position line front ∧
      tag = piece.tag (position + (joined front []).length) (line + newlines (joined front [])) ∧
      after = tagsAt tag.stop tag.line back := by
  induction before generalizing position line pieces with
  | nil =>
    cases pieces with
    | nil => cases h
    | cons piece pieces =>
      rw [tagsAt, List.nil_append, List.cons.injEq] at h
      obtain ⟨rfl, rfl⟩ := h
      refine ⟨[], piece, pieces, rfl, rfl, ?_, ?_⟩
      · simp [newlines]
      · rw [Piece.stop_tag]
        rfl
  | cons other before ih =>
    cases pieces with
    | nil => cases h
    | cons first pieces =>
      rw [tagsAt, List.cons_append, List.cons.injEq] at h
      obtain ⟨rfl, h⟩ := h
      obtain ⟨front, piece, back, rfl, rfl, found, rest⟩ := ih h
      refine ⟨first :: front, piece, back, rfl, rfl, ?_, rest⟩
      rw [found, joined_cons, List.length_append, newlines_append, Nat.add_assoc, Nat.add_assoc]

/-- A text whose scan is cut at a tag is a row of pieces cut at a piece. -/
theorem exists_pieces_of_scan {text : List Char} {before after : List Tag} {tag : Tag}
    (h : scan text = before ++ tag :: after) :
    ∃ front piece back tail, joined (front ++ piece :: back) tail = text ∧
      (∀ other ∈ front ++ piece :: back, other.Proper) ∧ Untagged tail ∧
      before = tagsAt 0 1 front ∧
      tag = piece.tag (joined front []).length (1 + newlines (joined front [])) ∧
      after = tagsAt tag.stop tag.line back := by
  obtain ⟨pieces, tail, rfl, proper, untagged⟩ := exists_pieces text
  rw [scan_joined proper untagged] at h
  obtain ⟨front, piece, back, rfl, first, found, rest⟩ := exists_split_of_tagsAt h
  rw [Nat.zero_add] at found
  exact ⟨front, piece, back, tail, rfl, proper, untagged, first, found, rest⟩

section
variable {text : List Char} {before after : List Tag} {tag : Tag}
  (h : scan text = before ++ tag :: after)
include h

theorem one_le_line_of_scan : 1 ≤ tag.line := by
  obtain ⟨front, piece, back, tail, -, -, -, -, rfl, -⟩ := exists_pieces_of_scan h
  simp only [Piece.tag, Nat.add_assoc]
  exact Nat.le_add_right _ _

theorem le_of_mem_after {later : Tag} (mem : later ∈ after) :
    tag.stop ≤ later.start ∧ tag.line ≤ later.line := by
  obtain ⟨front, piece, back, tail, -, -, -, -, -, rfl⟩ := exists_pieces_of_scan h
  have bounds := of_mem_tagsAt mem
  exact ⟨bounds.1, bounds.2.2⟩

theorem stop_le_of_mem_before {earlier : Tag} (mem : earlier ∈ before) :
    earlier.stop ≤ tag.start := by
  obtain ⟨front, piece, back, tail, -, -, -, rfl, rfl, -⟩ := exists_pieces_of_scan h
  have bounds := of_mem_tagsAt mem
  simp only [Piece.tag]
  omega

theorem scan_drop_stop : scan (text.drop tag.stop) = after.map (·.countedFrom tag) := by
  have first := one_le_line_of_scan h
  obtain ⟨front, piece, back, tail, rfl, proper, untagged, -, found, rfl⟩ :=
    exists_pieces_of_scan h
  have rest : (joined (front ++ piece :: back) tail).drop tag.stop = joined back tail := by
    have stop : tag.stop = (joined front [] ++ piece.text).length := by
      rw [found, Piece.stop_tag, List.length_append]
    rw [stop, joined_append, joined_cons, ← List.append_assoc, List.drop_left]
  have proper' : ∀ other ∈ back, other.Proper := fun other mem =>
    proper other (List.mem_append_right _ (.tail _ mem))
  rw [rest, scan_joined proper' untagged]
  exact (map_countedFrom_tagsAt first 0 0 back).symm

/-- The text before a tag has the tags that stand before it, and no other tag is open at its end. -/
theorem scan_take_start : scan (text.take tag.start) = before := by
  obtain ⟨front, piece, back, tail, rfl, proper, -, rfl, found, -⟩ := exists_pieces_of_scan h
  have rest : (joined (front ++ piece :: back) tail).take tag.start =
      joined front piece.before := by
    have start : tag.start = (joined front [] ++ piece.before).length := by
      rw [found, List.length_append]
      rfl
    rw [start, joined_append, joined_cons, Piece.text, List.append_assoc, ← List.append_assoc,
      List.take_left, ← joined_eq_append]
  obtain ⟨proper', proper⟩ := List.forall_mem_append.mp proper
  rw [rest, scan_joined proper' (proper piece List.mem_cons_self).untagged]

end

/-! ## The scan of bytes -/

theorem drop_bytes (text : List Char) (n : Nat) :
    (bytes text).drop (byteSize (text.take n)) = bytes (text.drop n) := by
  have whole : bytes text = bytes (text.take n) ++ bytes (text.drop n) := by
    rw [← bytes_append, List.take_append_drop]
  rw [whole, byteSize, List.drop_left]

theorem take_bytes (text : List Char) (n : Nat) :
    (bytes text).take (byteSize (text.take n)) = bytes (text.take n) := by
  have whole : bytes text = bytes (text.take n) ++ bytes (text.drop n) := by
    rw [← bytes_append, List.take_append_drop]
  rw [whole, byteSize, List.take_left]

theorem isBoundary_take (text : List Char) (n : Nat) :
    IsBoundary text (byteSize (text.take n)) := by
  have boundary := isBoundary_append (text.take n) (text.drop n)
  rwa [List.take_append_drop] at boundary

theorem byteSize_take_add (text : List Char) (m n : Nat) :
    byteSize (text.take (m + n)) = byteSize (text.take m) + byteSize ((text.drop m).take n) := by
  rw [List.take_add, byteSize_append]

theorem Tag.stop_inBytes (text : List Char) (tag : Tag) :
    (tag.inBytes text).stop = byteSize (text.take tag.stop) := by
  have split : tag.stop = tag.start + (tag.stop - tag.start) := by
    have := tag.start_lt_stop
    omega
  rw [split, byteSize_take_add, ← List.extract_eq_take_drop]
  rfl

theorem Tag.inBytes_drop {text : List Char} {tag done : Tag} (later : done.stop ≤ tag.start) :
    (tag.countedFrom done).inBytes (text.drop done.stop) =
      (tag.inBytes text).countedFrom (done.inBytes text) := by
  have start : byteSize (text.take tag.start) =
      byteSize (text.take done.stop) +
        byteSize ((text.drop done.stop).take (tag.start - done.stop)) := by
    rw [← byteSize_take_add, Nat.add_sub_cancel' later]
  have own : (text.drop done.stop).extract (tag.countedFrom done).start
      (tag.countedFrom done).stop = text.extract tag.start tag.stop := by
    have length : (tag.countedFrom done).stop - (tag.countedFrom done).start =
        tag.stop - tag.start := by
      simp only [Tag.stop, Tag.length, Tag.countedFrom]
      omega
    rw [List.extract_eq_take_drop, List.extract_eq_take_drop, length, List.drop_drop,
      Tag.countedFrom, Nat.add_sub_cancel' later]
  rw [Tag.inBytes, own, ByteTag.countedFrom, Tag.stop_inBytes, Tag.inBytes, start,
    Nat.add_sub_cancel_left]
  rfl

theorem Tag.inBytes_take {text : List Char} {tag : Tag} {n : Nat} (earlier : tag.stop ≤ n) :
    tag.inBytes (text.take n) = tag.inBytes text := by
  have ordered := tag.start_lt_stop
  have start : (text.take n).take tag.start = text.take tag.start := by
    rw [List.take_take, Nat.min_eq_left (by omega)]
  have own : (text.take n).extract tag.start tag.stop = text.extract tag.start tag.stop := by
    rw [List.extract_eq_take_drop, List.extract_eq_take_drop, List.drop_take, List.take_take,
      Nat.min_eq_left (by omega)]
  rw [Tag.inBytes, start, own]
  rfl

/-- Scans can be cut at every tag. The scan of the text after a tag finds the tags that follow it,
all the same but that their positions are counted from its end and their lines from its line. The
scan of the text before a tag finds the tags before it, as they are. So it is with positions in
characters and with those in bytes, where the text can be cut on either side of a tag. -/
theorem scan_cut (text : List Char) :
    (∀ before tag after, scan text = before ++ tag :: after →
      scan (text.drop tag.stop) = after.map (·.countedFrom tag) ∧
      scan (text.take tag.start) = before ∧
      1 ≤ tag.line ∧ ∀ later ∈ after, tag.stop ≤ later.start ∧ tag.line ≤ later.line) ∧
    ∀ before tag after, scanBytes? (bytes text) = some (before ++ tag :: after) →
      scanBytes? ((bytes text).drop tag.stop) = some (after.map (·.countedFrom tag)) ∧
      scanBytes? ((bytes text).take tag.start) = some before ∧
      IsBoundary text tag.start ∧ IsBoundary text tag.stop ∧
      1 ≤ tag.line ∧ ∀ later ∈ after, tag.stop ≤ later.start ∧ tag.line ≤ later.line := by
  constructor
  · intro before tag after h
    exact ⟨scan_drop_stop h, scan_take_start h, one_le_line_of_scan h, fun _ => le_of_mem_after h⟩
  · intro before tag after h
    -- the tags found in the bytes are those of the text, so the cut is one of these
    rw [scanBytes_bytes, Option.some.injEq] at h
    obtain ⟨before, rest, scanned, rfl, rest'⟩ := List.map_eq_append_iff.mp h
    obtain ⟨tag, after, rfl, rfl, rfl⟩ := List.map_eq_cons_iff.mp rest'
    rw [Tag.stop_inBytes]
    refine ⟨?_, ?_, isBoundary_take text tag.start, isBoundary_take text tag.stop,
      one_le_line_of_scan scanned, ?_⟩
    · rw [drop_bytes, scanBytes_bytes, scan_drop_stop scanned, List.map_map, List.map_map]
      refine congrArg some (List.map_congr_left fun later mem => ?_)
      exact Tag.inBytes_drop (le_of_mem_after scanned mem).1
    · have cut : (bytes text).take (tag.inBytes text).start = bytes (text.take tag.start) :=
        take_bytes text tag.start
      rw [cut, scanBytes_bytes, scan_take_start scanned]
      refine congrArg some (List.map_congr_left fun earlier mem => ?_)
      exact Tag.inBytes_take (stop_le_of_mem_before scanned mem)
    · intro later mem
      obtain ⟨later, member, rfl⟩ := List.mem_map.mp mem
      obtain ⟨start, lines⟩ := le_of_mem_after scanned member
      refine ⟨?_, lines⟩
      have parts := byteSize_take_add text tag.stop (later.start - tag.stop)
      rw [Nat.add_sub_cancel' start] at parts
      simp only [Tag.inBytes]
      omega

/-- A brace more before the first tag, and an escaped tag on two lines before the last one. -/
def threeTags : List Char :=
  "é\x7b\x7b\x7ba\x7d\x7d\n\\\x7b\x7bb\n\x7d\x7d \x7b\x7bc\x7d\x7d".toList

theorem scan_cut_threeTags :
    scan threeTags = [⟨1, ['{', 'a'], 0, 1⟩] ++ ⟨9, ['b', '\n'], 1, 3⟩ :: [⟨16, ['c'], 0, 3⟩] ∧
    scan (threeTags.drop 15) = [⟨1, ['c'], 0, 1⟩] ∧
    scan (threeTags.take 9) = [⟨1, ['{', 'a'], 0, 1⟩] ∧
    scanBytes? (bytes threeTags) = some ([⟨2, 6, ['{', 'a'], 0, 1⟩] ++
      ⟨10, 6, ['b', '\n'], 1, 3⟩ :: [⟨17, 5, ['c'], 0, 3⟩]) ∧
    scanBytes? ((bytes threeTags).drop 16) = some [⟨1, 5, ['c'], 0, 1⟩] ∧
    scanBytes? ((bytes threeTags).take 10) = some [⟨2, 6, ['{', 'a'], 0, 1⟩] := by
  have found : scan threeTags =
      [⟨1, ['{', 'a'], 0, 1⟩] ++ ⟨9, ['b', '\n'], 1, 3⟩ :: [⟨16, ['c'], 0, 3⟩] := by
    cbv
  have inBytes : scanBytes? (bytes threeTags) = some ([⟨2, 6, ['{', 'a'], 0, 1⟩] ++
      ⟨10, 6, ['b', '\n'], 1, 3⟩ :: [⟨17, 5, ['c'], 0, 3⟩]) := by
    rw [scanBytes_bytes, found]
    decide
  obtain ⟨characters, inside⟩ := scan_cut threeTags
  obtain ⟨rest, front, -⟩ := characters _ _ _ found
  obtain ⟨rest', front', -⟩ := inside _ _ _ inBytes
  exact ⟨found, rest, front, inBytes, rest', front'⟩

end Folio
