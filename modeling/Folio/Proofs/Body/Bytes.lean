import Folio.Proofs.Body.Piece

/-! A file is a row of bytes, and its text is what they encode. A position that is counted in bytes
may be inside a character, where a text cannot be cut. But backslashes, braces and line breaks are
bytes of their own that are no part of another character, so the tags of a text can be looked for in
its bytes. Everything here that may go wrong is `none` where it does. -/

namespace Folio

open Body (newlines)

def bytes (text : List Char) : List UInt8 :=
  text.flatMap String.utf8EncodeChar

def decode? (source : List UInt8) : Option (List Char) :=
  source.toByteArray.utf8Decode?.map Array.toList

def byteSize (text : List Char) : Nat :=
  (bytes text).length

theorem bytes_append (a b : List Char) : bytes (a ++ b) = bytes a ++ bytes b :=
  List.flatMap_append

theorem bytes_cons (c : Char) (text : List Char) :
    bytes (c :: text) = String.utf8EncodeChar c ++ bytes text :=
  List.flatMap_cons

@[simp] theorem decode?_bytes (text : List Char) : decode? (bytes text) = some text := by
  have encoded : (bytes text).toByteArray = text.utf8Encode := rfl
  rw [decode?, encoded, List.utf8Decode?_utf8Encode]
  rfl

@[simp] theorem byteSize_nil : byteSize [] = 0 := rfl

@[simp] theorem byteSize_append (a b : List Char) :
    byteSize (a ++ b) = byteSize a + byteSize b := by
  rw [byteSize, bytes_append, List.length_append]
  rfl

theorem byteSize_cons (c : Char) (text : List Char) :
    byteSize (c :: text) = c.utf8Size + byteSize text := by
  rw [byteSize, bytes_cons, List.length_append, String.length_utf8EncodeChar]
  rfl

@[simp] theorem byteSize_brace (text : List Char) : byteSize ('{' :: text) = 1 + byteSize text :=
  byteSize_cons '{' text

@[simp] theorem byteSize_closingBrace (text : List Char) :
    byteSize ('}' :: text) = 1 + byteSize text :=
  byteSize_cons '}' text

@[simp] theorem byteSize_backslashes (n : Nat) : byteSize (List.replicate n '\\') = n := by
  induction n with
  | zero => rfl
  | succ n ih =>
    have one : ('\\' : Char).utf8Size = 1 := rfl
    rw [List.replicate_succ, byteSize_cons, ih, one, Nat.add_comm]

theorem exists_bytes_cons (c : Char) (text : List Char) :
    ∃ byte rest, bytes (c :: text) = byte :: rest ∧ byte ∈ String.utf8EncodeChar c := by
  obtain ⟨byte, others, encoded⟩ :=
    List.exists_cons_of_ne_nil (String.utf8EncodeChar_ne_nil (c := c))
  exact ⟨byte, others ++ bytes text, by rw [bytes_cons, encoded]; rfl, by simp [encoded]⟩

theorem byteSize_pos {text : List Char} (nonempty : text ≠ []) : 0 < byteSize text := by
  cases text with
  | nil => exact absurd rfl nonempty
  | cons c text =>
    have := c.utf8Size_pos
    rw [byteSize_cons]
    omega

/-! ## Cutting at a position -/

/-- The text before and after a position that is counted in bytes. -/
def cutBytes? : Nat → List Char → Option (List Char × List Char)
  | 0, text => some ([], text)
  | _ + 1, [] => none
  | n + 1, c :: rest =>
    if c.utf8Size ≤ n + 1 then
      (cutBytes? (n + 1 - c.utf8Size) rest).map fun parts => (c :: parts.1, parts.2)
    else none

@[simp] theorem cutBytes?_zero (text : List Char) : cutBytes? 0 text = some ([], text) := by
  cases text <;> rfl

@[simp] theorem cutBytes?_append (front rest : List Char) :
    cutBytes? (byteSize front) (front ++ rest) = some (front, rest) := by
  induction front with
  | nil => exact cutBytes?_zero rest
  | cons c front ih =>
    have positive := c.utf8Size_pos
    obtain ⟨n, more⟩ : ∃ n, byteSize (c :: front) = n + 1 :=
      ⟨byteSize (c :: front) - 1, by rw [byteSize_cons]; omega⟩
    have left : n + 1 - c.utf8Size = byteSize front := by
      rw [byteSize_cons] at more
      omega
    have fits : c.utf8Size ≤ n + 1 := by
      rw [byteSize_cons] at more
      omega
    rw [more, List.cons_append, cutBytes?, if_pos fits, left, ih]
    rfl

/-- A text can be cut at a position exactly if whole characters stand before it. -/
theorem cutBytes?_eq_some_iff {position : Nat} {text front rest : List Char} :
    cutBytes? position text = some (front, rest) ↔
      front ++ rest = text ∧ byteSize front = position := by
  constructor
  · intro cut
    induction text generalizing position front with
    | nil =>
      cases position with
      | zero => cases cut; exact ⟨rfl, rfl⟩
      | succ n => cases cut
    | cons c text ih =>
      cases position with
      | zero => cases cut; exact ⟨rfl, rfl⟩
      | succ n =>
        by_cases fits : c.utf8Size ≤ n + 1
        · rw [cutBytes?, if_pos fits, Option.map_eq_some_iff] at cut
          obtain ⟨⟨inner, rest⟩, found, same⟩ := cut
          cases same
          obtain ⟨rfl, size⟩ := ih found
          refine ⟨rfl, ?_⟩
          rw [byteSize_cons, size]
          omega
        · rw [cutBytes?, if_neg fits] at cut
          cases cut
  · rintro ⟨rfl, rfl⟩
    exact cutBytes?_append front rest

/-- Whole characters stand before a position, and whole ones after it. -/
def IsBoundary (text : List Char) (position : Nat) : Prop :=
  (cutBytes? position text).isSome

instance (text : List Char) (position : Nat) : Decidable (IsBoundary text position) :=
  inferInstanceAs (Decidable (_ = true))

theorem isBoundary_append (front rest : List Char) :
    IsBoundary (front ++ rest) (byteSize front) := by
  rw [IsBoundary, cutBytes?_append]
  rfl

/-- The difference of two numbers, if the second one is not the larger one. -/
def sub? (a b : Nat) : Option Nat :=
  if b ≤ a then some (a - b) else none

theorem sub?_of_le {a b : Nat} (h : b ≤ a) : sub? a b = some (a - b) := if_pos h

def slice? (text : List Char) (start stop : Nat) : Option (List Char) := do
  let (_, rest) ← cutBytes? start text
  let length ← sub? stop start
  let (middle, _) ← cutBytes? length rest
  some middle

theorem slice?_append (front middle rest : List Char) :
    slice? (front ++ (middle ++ rest)) (byteSize front) (byteSize front + byteSize middle) =
      some middle := by
  simp [slice?, sub?]

theorem slice?_eq_some_iff {text middle : List Char} {start stop : Nat} :
    slice? text start stop = some middle ↔
      ∃ front rest, front ++ (middle ++ rest) = text ∧ byteSize front = start ∧
        byteSize front + byteSize middle = stop := by
  constructor
  · intro cut
    simp only [slice?, Option.bind_eq_bind, Option.bind_eq_some_iff, Prod.exists, sub?,
      Option.ite_none_right_eq_some, Option.some.injEq] at cut
    obtain ⟨front, after, first, length, ⟨ordered, rfl⟩, middle, rest, second, rfl⟩ := cut
    obtain ⟨rfl, rfl⟩ := cutBytes?_eq_some_iff.mp first
    obtain ⟨rfl, size⟩ := cutBytes?_eq_some_iff.mp second
    exact ⟨front, rest, rfl, rfl, by omega⟩
  · rintro ⟨front, rest, rfl, rfl, rfl⟩
    exact slice?_append front middle rest

/-- A text cannot be cut inside a character. -/
example : slice? ['é'] 0 1 = none := by decide

theorem slice?_drop (front rest : List Char) :
    slice? (front ++ rest) (byteSize front) (byteSize (front ++ rest)) = some rest := by
  have whole := slice?_append front rest []
  rwa [List.append_nil, ← byteSize_append] at whole

theorem slice?_take (front rest : List Char) :
    slice? (front ++ rest) 0 (byteSize front) = some front := by
  have whole := slice?_append [] front rest
  rwa [byteSize_nil, Nat.zero_add] at whole

/-! ## The bytes of a character -/

theorem toNat_toUInt8 {a : Char} (ascii : a.toNat < 128) : a.toUInt8.toNat = a.toNat := by
  have small : a.val.toNat < 256 := Nat.lt_trans ascii (by decide)
  rw [← Char.toUInt8_val, UInt32.toNat_toUInt8]
  exact Nat.mod_eq_of_lt small

/-- The bytes of a character that takes more than one of them are at least 128. -/
theorem toNat_of_mem_utf8EncodeChar {c : Char} {byte : UInt8}
    (mem : byte ∈ String.utf8EncodeChar c) : byte.toNat = c.toNat ∨ 128 ≤ byte.toNat := by
  have high (n bound base : Nat) (positive : 0 < bound) (above : 128 ≤ base)
      (below : base + bound ≤ 256) : 128 ≤ (UInt8.ofNat (n % bound + base)).toNat := by
    have := Nat.mod_lt n positive
    rw [UInt8.toNat_ofNat', Nat.mod_eq_of_lt (by omega)]
    omega
  rw [String.utf8EncodeChar] at mem
  split at mem
  · left
    rename_i ascii
    rw [List.mem_singleton.mp mem, UInt8.toNat_ofNat', Nat.mod_eq_of_lt (by omega)]
    rfl
  · right
    split at mem
    · simp only [List.mem_cons, List.not_mem_nil, or_false] at mem
      rcases mem with rfl | rfl <;> exact high _ _ _ (by decide) (by decide) (by decide)
    · split at mem
      · simp only [List.mem_cons, List.not_mem_nil, or_false] at mem
        rcases mem with rfl | rfl | rfl <;> exact high _ _ _ (by decide) (by decide) (by decide)
      · simp only [List.mem_cons, List.not_mem_nil, or_false] at mem
        rcases mem with rfl | rfl | rfl | rfl <;>
          exact high _ _ _ (by decide) (by decide) (by decide)

/-- A byte that is a character by itself is no part of another one. -/
theorem eq_of_toUInt8_mem {a c : Char} (ascii : a.toNat < 128)
    (mem : a.toUInt8 ∈ String.utf8EncodeChar c) : c = a := by
  have number := toNat_toUInt8 ascii
  rcases toNat_of_mem_utf8EncodeChar mem with same | high
  · rw [number] at same
    exact Char.ext (UInt32.toNat.inj same.symm)
  · omega

/-! ## A scanner of bytes -/

/-- Where a scanner of bytes is. It does not keep the content of a tag but the positions at which
the content starts and, after one closing brace, ends. -/
inductive ByteState where
  | text (backslashes : Nat)
  | opening (start backslashes : Nat)
  | inside (start content backslashes : Nat)
  | closing (start content stop backslashes : Nat)
  deriving DecidableEq, Repr

structure ByteScanner where
  state : ByteState
  position : Nat
  line : Nat
  deriving DecidableEq, Repr

/-- A tag with its position and its length in bytes. -/
structure ByteTag where
  start : Nat
  length : Nat
  content : List Char
  backslashes : Nat
  line : Nat
  deriving DecidableEq, Repr

def ByteTag.stop (tag : ByteTag) : Nat := tag.start + tag.length

def ByteTag.isEscaped (tag : ByteTag) : Bool := tag.backslashes % 2 = 1

def ByteTag.kind (tag : ByteTag) : TagKind := .ofContent tag.content

structure ByteStep where
  next : ByteScanner
  tag? : Option ByteTag
  consumed : Bool
  deriving DecidableEq, Repr

def contentBetween? (source : List UInt8) (start stop : Nat) : Option (List Char) :=
  if start ≤ stop ∧ stop ≤ source.length then decode? (source.extract start stop) else none

theorem contentBetween?_append (front middle rest : List Char) :
    contentBetween? (bytes (front ++ (middle ++ rest))) (byteSize front)
      (byteSize front + byteSize middle) = some middle := by
  have room : byteSize front + byteSize middle ≤ (bytes (front ++ (middle ++ rest))).length := by
    have := byteSize_append front (middle ++ rest)
    have := byteSize_append middle rest
    simp only [byteSize] at *
    omega
  have between : (bytes (front ++ (middle ++ rest))).extract (byteSize front)
      (byteSize front + byteSize middle) = bytes middle := by
    rw [bytes_append, bytes_append, List.extract_eq_take_drop, Nat.add_sub_cancel_left, byteSize,
      byteSize, List.drop_left, List.take_left]
  simp [contentBetween?, room, between]

namespace ByteScanner

def start : ByteScanner := ⟨.text 0, 0, 1⟩

def lineAfter (line : Nat) (byte : UInt8) : Nat :=
  if byte = '\n'.toUInt8 then line + 1 else line

def advance (state : ByteState) (scanner : ByteScanner) (byte : UInt8) : ByteStep :=
  ⟨⟨state, scanner.position + 1, lineAfter scanner.line byte⟩, none, true⟩

def retry (state : ByteState) (scanner : ByteScanner) : ByteStep :=
  ⟨{ scanner with state }, none, false⟩

def step? (source : List UInt8) (scanner : ByteScanner) (byte : UInt8) : Option ByteStep :=
  match scanner.state with
  | .text backslashes =>
    if byte = '\\'.toUInt8 then some (scanner.advance (.text (backslashes + 1)) byte)
    else if byte = '{'.toUInt8 then
      some (scanner.advance (.opening scanner.position backslashes) byte)
    else some (scanner.advance (.text 0) byte)
  | .opening start backslashes =>
    if byte = '{'.toUInt8 then
      some (scanner.advance (.inside start (scanner.position + 1) backslashes) byte)
    else some (scanner.retry (.text 0))
  | .inside start content backslashes =>
    if byte = '}'.toUInt8 then
      some (scanner.advance (.closing start content scanner.position backslashes) byte)
    else some (scanner.advance (.inside start content backslashes) byte)
  | .closing start content stop backslashes =>
    if byte = '}'.toUInt8 then do
      let content ← contentBetween? source content stop
      let length ← sub? (scanner.position + 1) start
      some { scanner.advance (.text 0) byte with
        tag? := some ⟨start, length, content, backslashes, scanner.line⟩ }
    else some (scanner.retry (.inside start content backslashes))

def rank (scanner : ByteScanner) : Nat :=
  match scanner.state with
  | .text _ => 0
  | .inside _ _ _ => 0
  | .opening _ _ => 1
  | .closing _ _ _ _ => 1

theorem rank_lt_of_not_consumed {source : List UInt8} {scanner : ByteScanner} {byte : UInt8}
    {step : ByteStep} (h : scanner.step? source byte = some step) (kept : step.consumed = false) :
    step.next.rank < scanner.rank := by
  obtain ⟨_ | _ | _ | ⟨start, content, stop, backslashes⟩, position, line⟩ := scanner
  · simp only [step?] at h
    split at h
    · cases h; cases kept
    · split at h <;> (cases h; cases kept)
  · simp only [step?] at h
    split at h
    · cases h; cases kept
    · cases h; exact Nat.zero_lt_one
  · simp only [step?] at h
    split at h <;> (cases h; cases kept)
  · simp only [step?] at h
    split at h
    · simp only [Option.bind_eq_bind, Option.bind_eq_some_iff] at h
      obtain ⟨_, _, _, _, h⟩ := h
      cases h; cases kept
    · cases h; exact Nat.zero_lt_one

def tags? (source : List UInt8) (scanner : ByteScanner) (rest : List UInt8) :
    Option (List ByteTag) :=
  match rest with
  | [] => some []
  | byte :: rest =>
    match _h : scanner.step? source byte with
    | none => none
    | some step =>
      match _kept : step.consumed with
      | true => (step.next.tags? source rest).map (step.tag?.toList ++ ·)
      | false => (step.next.tags? source (byte :: rest)).map (step.tag?.toList ++ ·)
termination_by (rest.length, scanner.rank)
decreasing_by
  · exact Prod.Lex.left _ _ (by simp)
  · exact Prod.Lex.right _ (rank_lt_of_not_consumed _h _kept)

end ByteScanner

def scanBytes? (source : List UInt8) : Option (List ByteTag) :=
  ByteScanner.start.tags? source source

/-! ## One byte at a time -/

namespace ByteScanner

variable {source : List UInt8} {scanner : ByteScanner} {byte : UInt8}

theorem tags?_nil : scanner.tags? source [] = some [] := by rw [tags?]

theorem tags?_cons {step : ByteStep} (h : scanner.step? source byte = some step)
    (rest : List UInt8) :
    scanner.tags? source (byte :: rest) =
      (step.next.tags? source (if step.consumed then rest else byte :: rest)).map
        (step.tag?.toList ++ ·) := by
  rw [tags?]
  split
  · rename_i fails; cases h.symm.trans fails
  · rename_i step' same
    cases h.symm.trans same
    split
    · rename_i consumed; rw [consumed]; rfl
    · rename_i kept; rw [kept]; rfl

theorem tags?_advance (state : ByteState)
    (h : scanner.step? source byte = some (scanner.advance state byte)) (rest : List UInt8) :
    scanner.tags? source (byte :: rest) =
      (⟨state, scanner.position + 1, lineAfter scanner.line byte⟩ : ByteScanner).tags? source
        rest := by
  rw [tags?_cons h]
  simp [advance]

theorem tags?_retry (state : ByteState)
    (h : scanner.step? source byte = some (scanner.retry state)) (rest : List UInt8) :
    scanner.tags? source (byte :: rest) =
      ({ scanner with state } : ByteScanner).tags? source (byte :: rest) := by
  rw [tags?_cons h]
  simp [retry]

theorem tags?_text {text : List UInt8} (nonempty : text ≠ [])
    (plain : ∀ byte ∈ text, byte ≠ '\\'.toUInt8 ∧ byte ≠ '{'.toUInt8)
    (backslashes position line : Nat) (rest : List UInt8) :
    (⟨.text backslashes, position, line⟩ : ByteScanner).tags? source (text ++ rest) =
      (⟨.text 0, position + text.length, text.foldl lineAfter line⟩ : ByteScanner).tags? source
        rest := by
  induction text generalizing backslashes position line with
  | nil => exact absurd rfl nonempty
  | cons byte text ih =>
    obtain ⟨slash, brace⟩ := plain byte List.mem_cons_self
    rw [List.cons_append, tags?_advance (.text 0) (by simp [step?, slash, brace])]
    cases text with
    | nil => rfl
    | cons next text =>
      rw [ih (List.cons_ne_nil _ _) fun byte mem => plain byte (.tail _ mem)]
      simp only [List.length_cons, List.foldl_cons, Nat.add_assoc, Nat.add_comm 1]

theorem tags?_inside {text : List UInt8} (plain : '}'.toUInt8 ∉ text)
    (start content backslashes position line : Nat) (rest : List UInt8) :
    (⟨.inside start content backslashes, position, line⟩ : ByteScanner).tags? source
        (text ++ rest) =
      (⟨.inside start content backslashes, position + text.length,
        text.foldl lineAfter line⟩ : ByteScanner).tags? source rest := by
  induction text generalizing position line with
  | nil => rfl
  | cons byte text ih =>
    obtain ⟨brace, later⟩ := List.ne_and_not_mem_of_not_mem_cons plain
    rw [List.cons_append, tags?_advance (.inside start content backslashes)
      (by simp [step?, brace.symm]), ih later]
    simp only [List.length_cons, List.foldl_cons, Nat.add_assoc, Nat.add_comm 1]

/-- A line ends with a character and not within one. -/
theorem foldl_lineAfter (line : Nat) (c : Char) :
    (String.utf8EncodeChar c).foldl lineAfter line = Scanner.lineAfter line c := by
  by_cases newline : c = '\n'
  · subst newline
    rfl
  · have other : ∀ byte ∈ String.utf8EncodeChar c, byte ≠ '\n'.toUInt8 := by
      rintro byte mem rfl
      exact newline (eq_of_toUInt8_mem (by decide) mem)
    rw [Scanner.lineAfter, if_neg newline]
    generalize String.utf8EncodeChar c = text at other
    induction text with
    | nil => rfl
    | cons byte text ih =>
      have same : lineAfter line byte = line := if_neg (other byte List.mem_cons_self)
      rw [List.foldl_cons, same]
      exact ih fun byte mem => other byte (.tail _ mem)

theorem tags?_text_char {c : Char} (slash : c ≠ '\\') (brace : c ≠ '{')
    (backslashes position line : Nat) (rest : List Char) :
    (⟨.text backslashes, position, line⟩ : ByteScanner).tags? source (bytes (c :: rest)) =
      (⟨.text 0, position + c.utf8Size, Scanner.lineAfter line c⟩ : ByteScanner).tags? source
        (bytes rest) := by
  have plain : ∀ byte ∈ String.utf8EncodeChar c, byte ≠ '\\'.toUInt8 ∧ byte ≠ '{'.toUInt8 := by
    intro byte mem
    constructor
    · rintro rfl
      exact slash (eq_of_toUInt8_mem (by decide) mem)
    · rintro rfl
      exact brace (eq_of_toUInt8_mem (by decide) mem)
  rw [bytes_cons, tags?_text String.utf8EncodeChar_ne_nil plain, foldl_lineAfter,
    String.length_utf8EncodeChar]

theorem tags?_inside_char {c : Char} (brace : c ≠ '}')
    (start content backslashes position line : Nat) (rest : List Char) :
    (⟨.inside start content backslashes, position, line⟩ : ByteScanner).tags? source
        (bytes (c :: rest)) =
      (⟨.inside start content backslashes, position + c.utf8Size,
        Scanner.lineAfter line c⟩ : ByteScanner).tags? source (bytes rest) := by
  have plain : '}'.toUInt8 ∉ String.utf8EncodeChar c := fun mem =>
    brace (eq_of_toUInt8_mem (by decide) mem)
  rw [bytes_cons, tags?_inside plain, foldl_lineAfter, String.length_utf8EncodeChar]

end ByteScanner

/-! ## The scan of bytes beside the scan of characters -/

def Tag.inBytes (text : List Char) (tag : Tag) : ByteTag :=
  ⟨byteSize (text.take tag.start), byteSize (text.extract tag.start tag.stop), tag.content,
    tag.backslashes, tag.line⟩

@[simp] theorem Piece.byteSize_braced (piece : Piece) :
    byteSize piece.braced = byteSize piece.content + 4 := by
  simp only [braced, List.cons_append, byteSize_brace, byteSize_append, byteSize_closingBrace,
    byteSize_nil]
  omega

theorem Tag.inBytes_append (front content rest : List Char) (backslashes line : Nat) :
    Tag.inBytes (front ++ ((Piece.mk [] content).braced ++ rest))
        ⟨front.length, content, backslashes, line⟩ =
      ⟨byteSize front, byteSize content + 4, content, backslashes, line⟩ := by
  have length : (Piece.mk [] content).braced.length = content.length + 4 := by
    simp [Piece.braced]
  have between : (front ++ ((Piece.mk [] content).braced ++ rest)).extract front.length
      (front.length + (content.length + 4)) = (Piece.mk [] content).braced := by
    rw [← length, List.extract_eq_take_drop, Nat.add_sub_cancel_left, List.drop_left,
      List.take_left]
  simp [inBytes, Tag.stop, Tag.length, between]

/-- A scanner of bytes that is where a scanner of characters is, after the characters that both have
been through. -/
inductive Tracks : List Char → Scanner → ByteScanner → Prop
  | text (front : List Char) (backslashes line : Nat) :
      Tracks front ⟨.text backslashes, front.length, line⟩
        ⟨.text backslashes, byteSize front, line⟩
  | opening (front : List Char) (backslashes line : Nat) :
      Tracks (front ++ ['{']) ⟨.opening front.length backslashes, front.length + 1, line⟩
        ⟨.opening (byteSize front) backslashes, byteSize front + 1, line⟩
  | inside (front content : List Char) (backslashes line : Nat) :
      Tracks (front ++ '{' :: '{' :: content)
        ⟨.inside front.length backslashes content.reverse, front.length + 2 + content.length, line⟩
        ⟨.inside (byteSize front) (byteSize front + 2) backslashes,
          byteSize front + 2 + byteSize content, line⟩
  | closing (front content : List Char) (backslashes line : Nat) :
      Tracks (front ++ '{' :: '{' :: (content ++ ['}']))
        ⟨.closing front.length backslashes content.reverse, front.length + 2 + content.length + 1,
          line⟩
        ⟨.closing (byteSize front) (byteSize front + 2)
          (byteSize front + 2 + byteSize content) backslashes,
          byteSize front + 2 + byteSize content + 1, line⟩

/-- Two scanners that find the same tags in the rest of a text, if one goes through its characters
and the other one through its bytes. -/
def FindAlike (rest : List Char) : Prop :=
  ∀ ⦃front : List Char⦄ ⦃scanner : Scanner⦄ ⦃byBytes : ByteScanner⦄,
    Tracks front scanner byBytes →
    byBytes.tags? (bytes (front ++ rest)) (bytes rest) =
      some ((scanner.tags rest).map (Tag.inBytes (front ++ rest)))

namespace FindAlike

open Scanner (tags_advance tags_retry)
open ByteScanner (tags?_advance tags?_retry tags?_cons tags?_text_char tags?_inside_char)

variable {rest : List Char} (later : FindAlike rest)
include later

theorem text (front : List Char) (c : Char) (backslashes line : Nat) :
    (⟨.text backslashes, byteSize front, line⟩ : ByteScanner).tags? (bytes (front ++ c :: rest))
        (bytes (c :: rest)) =
      some (((⟨.text backslashes, front.length, line⟩ : Scanner).tags (c :: rest)).map
        (Tag.inBytes (front ++ c :: rest))) := by
  have shift : front ++ c :: rest = front ++ [c] ++ rest := by simp
  by_cases slash : c = '\\'
  · subst slash
    have next := later (.text (front ++ ['\\']) (backslashes + 1) line)
    rw [byteSize_append, List.length_append] at next
    rw [tags_advance (.text (backslashes + 1)) rfl, shift, bytes_cons]
    exact (tags?_advance (.text (backslashes + 1)) rfl _).trans next
  by_cases brace : c = '{'
  · subst brace
    have next := later (.opening front backslashes line)
    rw [tags_advance (.opening front.length backslashes) rfl, shift, bytes_cons]
    exact (tags?_advance (.opening (byteSize front) backslashes) rfl _).trans next
  · have next := later (.text (front ++ [c]) 0 (Scanner.lineAfter line c))
    rw [tags_advance (.text 0) (by simp [Scanner.step, slash, brace]), shift,
      tags?_text_char slash brace]
    simpa [byteSize_cons] using next

theorem inside (front content : List Char) (c : Char) (backslashes line : Nat) :
    (⟨.inside (byteSize front) (byteSize front + 2) backslashes,
        byteSize front + 2 + byteSize content, line⟩ : ByteScanner).tags?
        (bytes (front ++ '{' :: '{' :: (content ++ c :: rest))) (bytes (c :: rest)) =
      some (((⟨.inside front.length backslashes content.reverse,
        front.length + 2 + content.length, line⟩ : Scanner).tags (c :: rest)).map
          (Tag.inBytes (front ++ '{' :: '{' :: (content ++ c :: rest)))) := by
  by_cases brace : c = '}'
  · subst brace
    have next := later (.closing front content backslashes line)
    have shift : front ++ '{' :: '{' :: (content ++ '}' :: rest) =
        front ++ '{' :: '{' :: (content ++ ['}']) ++ rest := by simp
    rw [tags_advance (.closing front.length backslashes content.reverse) rfl, shift, bytes_cons]
    exact (tags?_advance (.closing (byteSize front) (byteSize front + 2)
      (byteSize front + 2 + byteSize content) backslashes) rfl _).trans next
  · have next := later (.inside front (content ++ [c]) backslashes (Scanner.lineAfter line c))
    have shift : front ++ '{' :: '{' :: (content ++ c :: rest) =
        front ++ '{' :: '{' :: (content ++ [c]) ++ rest := by simp
    rw [tags_advance (.inside front.length backslashes (c :: content.reverse))
      (by simp [Scanner.step, brace]), shift, tags?_inside_char brace]
    simpa [byteSize_cons, Nat.add_assoc] using next

/-- After one opening brace; if no second one follows, both are in a text again. -/
theorem opening (front : List Char) (c : Char) (backslashes line : Nat) :
    (⟨.opening (byteSize front) backslashes, byteSize front + 1, line⟩ : ByteScanner).tags?
        (bytes (front ++ ['{'] ++ c :: rest)) (bytes (c :: rest)) =
      some (((⟨.opening front.length backslashes, front.length + 1, line⟩ : Scanner).tags
        (c :: rest)).map (Tag.inBytes (front ++ ['{'] ++ c :: rest))) := by
  by_cases brace : c = '{'
  · subst brace
    have next := later (.inside front [] backslashes line)
    have shift : front ++ ['{'] ++ '{' :: rest = front ++ ['{', '{'] ++ rest := by simp
    rw [tags_advance (.inside front.length backslashes []) rfl, shift, bytes_cons]
    exact (tags?_advance (.inside (byteSize front) (byteSize front + 2) backslashes) rfl _).trans
      next
  · have again := later.text (front ++ ['{']) c 0 line
    rw [byteSize_append, List.length_append] at again
    rw [tags_retry (.text 0) (by simp [Scanner.step, brace])]
    refine Eq.trans ?_ again
    obtain ⟨byte, others, same, mem⟩ := exists_bytes_cons c rest
    have other : byte ≠ '{'.toUInt8 := by
      rintro rfl
      exact brace (eq_of_toUInt8_mem (by decide) mem)
    rw [same]
    exact tags?_retry (.text 0) (by simp [ByteScanner.step?, other]) _

/-- After one closing brace; a second one ends the tag. -/
theorem closing (front content : List Char) (c : Char) (backslashes line : Nat) :
    (⟨.closing (byteSize front) (byteSize front + 2) (byteSize front + 2 + byteSize content)
        backslashes, byteSize front + 2 + byteSize content + 1, line⟩ : ByteScanner).tags?
        (bytes (front ++ '{' :: '{' :: (content ++ ['}']) ++ c :: rest)) (bytes (c :: rest)) =
      some (((⟨.closing front.length backslashes content.reverse,
        front.length + 2 + content.length + 1, line⟩ : Scanner).tags (c :: rest)).map
          (Tag.inBytes (front ++ '{' :: '{' :: (content ++ ['}']) ++ c :: rest))) := by
  by_cases brace : c = '}'
  · subst brace
    have braced : front ++ '{' :: '{' :: (content ++ ['}']) ++ '}' :: rest =
        front ++ ((Piece.mk [] content).braced ++ rest) := by simp [Piece.braced]
    have length : front.length + 2 + content.length + 1 + 1 =
        (front ++ (Piece.mk [] content).braced).length := by
      simp [Piece.braced]
      omega
    have size : byteSize front + 2 + byteSize content + 1 + 1 =
        byteSize (front ++ (Piece.mk [] content).braced) := by
      simp
      omega
    have inner : contentBetween? (bytes (front ++ ((Piece.mk [] content).braced ++ rest)))
        (byteSize front + 2) (byteSize front + 2 + byteSize content) = some content := by
      have between := contentBetween?_append (front ++ ['{', '{']) content ('}' :: '}' :: rest)
      simpa [Piece.braced] using between
    have room : sub? (byteSize (front ++ (Piece.mk [] content).braced)) (byteSize front) =
        some (byteSize content + 4) := by
      simp [sub?]
    have ends : ByteScanner.step? (bytes (front ++ ((Piece.mk [] content).braced ++ rest)))
        ⟨.closing (byteSize front) (byteSize front + 2) (byteSize front + 2 + byteSize content)
          backslashes, byteSize front + 2 + byteSize content + 1, line⟩ '}'.toUInt8 =
        some ⟨⟨.text 0, byteSize (front ++ (Piece.mk [] content).braced), line⟩,
          some ⟨byteSize front, byteSize content + 4, content, backslashes, line⟩, true⟩ := by
      simp only [ByteScanner.step?, if_pos, inner, size, room]
      rw [← size]
      rfl
    have found : (⟨.closing front.length backslashes content.reverse,
        front.length + 2 + content.length + 1, line⟩ : Scanner).tags ('}' :: rest) =
          ⟨front.length, content, backslashes, line⟩ ::
            (⟨.text 0, (front ++ (Piece.mk [] content).braced).length, line⟩ : Scanner).tags
              rest := by
      rw [Scanner.tags_cons, ← length]
      simp [Scanner.step, Scanner.advance, Scanner.lineAfter]
    have next := later (.text (front ++ (Piece.mk [] content).braced) 0 line)
    rw [List.append_assoc] at next
    rw [braced, bytes_cons, found, List.map_cons, Tag.inBytes_append]
    refine (tags?_cons ends _).trans ?_
    exact congrArg (Option.map _) next
  · have again := later.inside front (content ++ ['}']) c backslashes line
    have shift : front ++ '{' :: '{' :: (content ++ ['}']) ++ c :: rest =
        front ++ '{' :: '{' :: (content ++ ['}'] ++ c :: rest) := by simp
    rw [tags_retry (.inside front.length backslashes ('}' :: content.reverse))
      (by simp [Scanner.step, brace]), shift]
    obtain ⟨byte, others, same, mem⟩ := exists_bytes_cons c rest
    have other : byte ≠ '}'.toUInt8 := by
      rintro rfl
      exact brace (eq_of_toUInt8_mem (by decide) mem)
    simp only [byteSize_append, List.length_append, List.reverse_append, List.reverse_singleton,
      List.singleton_append, same] at again ⊢
    refine Eq.trans ?_ again
    exact tags?_retry (.inside (byteSize front) (byteSize front + 2) backslashes)
      (by simp [ByteScanner.step?, other]) _

end FindAlike

/-- A scanner of bytes finds the tags of a text. The induction is on the characters that are left;
a character that is put back is looked at in a state in which it is used up. -/
theorem findAlike (rest : List Char) : FindAlike rest := by
  induction rest with
  | nil =>
    intro front scanner byBytes _
    rw [Scanner.tags]
    exact ByteScanner.tags?_nil
  | cons c rest later =>
    intro front scanner byBytes tracks
    cases tracks with
    | text front backslashes line => exact later.text front c backslashes line
    | opening front backslashes line => exact later.opening front c backslashes line
    | inside front content backslashes line =>
      have found := later.inside front content c backslashes line
      simpa using found
    | closing front content backslashes line => exact later.closing front content c backslashes line

/-- Nothing goes wrong in the scan of the bytes of a text: its positions are in range and in order,
and what stands in a tag is text. The tags that it finds are those of the text. -/
theorem scanBytes_bytes (text : List Char) :
    scanBytes? (bytes text) = some ((scan text).map (Tag.inBytes text)) :=
  findAlike text (.text [] 0 1)

end Folio
