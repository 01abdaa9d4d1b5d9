import Folio.Proofs.Body.Piece

namespace Folio

/-- What a tag is for the nesting of blocks. Escaped tags and expressions are `plain`. -/
inductive Shape where
  | plain
  | opens (block : BlockKind)
  | closes (keyword : String)
  deriving DecidableEq, Repr

def TagKind.shape : TagKind → Shape
  | .expression _ => .plain
  | .opening block _ => .opens block
  | .closing keyword => .closes keyword

def Tag.shape (tag : Tag) : Shape :=
  if tag.isEscaped then .plain else tag.kind.shape

namespace Piece

def firstTag (piece : Piece) : Tag := piece.tag 0 1

def isEscaped (piece : Piece) : Bool := piece.firstTag.isEscaped

def kind (piece : Piece) : TagKind := piece.firstTag.kind

def shape (piece : Piece) : Shape := piece.firstTag.shape

@[simp] theorem shape_tag (piece : Piece) (position line : Nat) :
    (piece.tag position line).shape = piece.shape := rfl

theorem shape_of_escaped {piece : Piece} (escaped : piece.isEscaped = true) :
    piece.shape = .plain :=
  if_pos escaped

theorem shape_of_acting {piece : Piece} (acting : piece.isEscaped = false) :
    piece.shape = piece.kind.shape :=
  if_neg (Bool.eq_false_iff.mp acting)

end Piece

theorem map_shape_tagsAt (position line : Nat) (pieces : List Piece) :
    (tagsAt position line pieces).map Tag.shape = pieces.map Piece.shape := by
  induction pieces generalizing position line with
  | nil => rfl
  | cons piece pieces ih => simp [tagsAt, ih]

/-- How many blocks of a kind are open after a tag, if `depth` were open before; `none` if the tag
closes the block around all of them. -/
def Shape.depth? (block : BlockKind) (depth : Nat) : Shape → Option Nat
  | .plain => some depth
  | .opens other => some (if other = block then depth + 1 else depth)
  | .closes keyword =>
    if keyword = block.keyword then
      match depth with
      | 0 => none
      | depth + 1 => some depth
    else some depth

theorem Shape.depth?_opens (block other : BlockKind) (depth : Nat) :
    (Shape.opens other).depth? block depth = some (if other = block then depth + 1 else depth) :=
  rfl

theorem Shape.of_depth?_eq_none {block : BlockKind} {depth : Nat} {shape : Shape}
    (h : shape.depth? block depth = none) : shape = .closes block.keyword := by
  cases shape with
  | plain => cases h
  | opens other => cases h
  | closes keyword =>
    by_cases same : keyword = block.keyword
    · rw [same]
    · simp only [Shape.depth?, if_neg same] at h
      cases h

theorem closingTag?_cons (block : BlockKind) (depth : Nat) (tag : Tag) (tags : List Tag) :
    closingTag? block depth (tag :: tags) =
      match tag.shape.depth? block depth with
      | none => some tag
      | some depth => closingTag? block depth tags := by
  cases escaped : tag.isEscaped with
  | true => simp [closingTag?, Tag.shape, Shape.depth?, escaped]
  | false =>
    cases kind : tag.kind with
    | expression source => simp [closingTag?, Tag.shape, TagKind.shape, Shape.depth?, escaped, kind]
    | opening other args =>
      simp [closingTag?, Tag.shape, TagKind.shape, Shape.depth?, escaped, kind]
    | closing keyword =>
      by_cases same : keyword = block.keyword
      · cases depth <;>
          simp [closingTag?, Tag.shape, TagKind.shape, Shape.depth?, escaped, kind, same]
      · simp [closingTag?, Tag.shape, TagKind.shape, Shape.depth?, escaped, kind, same]

/-- The pieces inside a block, the piece with its closing tag, and the pieces after it. -/
def cutBlock? (block : BlockKind) (depth : Nat) :
    List Piece → Option (List Piece × Piece × List Piece)
  | [] => none
  | piece :: pieces =>
    match piece.shape.depth? block depth with
    | none => some ([], piece, pieces)
    | some depth =>
      (cutBlock? block depth pieces).map fun parts => (piece :: parts.1, parts.2)

theorem append_of_cutBlock? {block : BlockKind} {depth : Nat} {pieces inner after : List Piece}
    {close : Piece} (h : cutBlock? block depth pieces = some (inner, close, after)) :
    inner ++ close :: after = pieces := by
  induction pieces generalizing depth inner with
  | nil => cases h
  | cons piece pieces ih =>
    cases next : piece.shape.depth? block depth with
    | none =>
      simp only [cutBlock?, next] at h
      cases h
      rfl
    | some depth =>
      simp only [cutBlock?, next, Option.map_eq_some_iff] at h
      obtain ⟨⟨inner, close, after⟩, found, same⟩ := h
      cases same
      rw [List.cons_append, ih found]

theorem shape_of_cutBlock? {block : BlockKind} {depth : Nat} {pieces inner rest : List Piece}
    {close : Piece} (h : cutBlock? block depth pieces = some (inner, close, rest)) :
    close.shape = .closes block.keyword := by
  induction pieces generalizing depth inner with
  | nil => cases h
  | cons piece pieces ih =>
    cases next : piece.shape.depth? block depth with
    | none =>
      simp only [cutBlock?, next] at h
      cases h
      exact Shape.of_depth?_eq_none next
    | some depth =>
      simp only [cutBlock?, next, Option.map_eq_some_iff] at h
      obtain ⟨⟨inner, close, rest⟩, found, same⟩ := h
      cases same
      exact ih found

/-- A block that is closed is closed at the same tag whatever follows. -/
theorem cutBlock?_append {block : BlockKind} {depth : Nat} {pieces inner rest : List Piece}
    {close : Piece} (h : cutBlock? block depth pieces = some (inner, close, rest))
    (more : List Piece) :
    cutBlock? block depth (pieces ++ more) = some (inner, close, rest ++ more) := by
  induction pieces generalizing depth inner with
  | nil => cases h
  | cons piece pieces ih =>
    cases next : piece.shape.depth? block depth with
    | none =>
      simp only [cutBlock?, next] at h
      cases h
      simp [cutBlock?, next]
    | some depth =>
      simp only [cutBlock?, next, Option.map_eq_some_iff] at h
      obtain ⟨⟨inner, close, rest⟩, found, same⟩ := h
      cases same
      simp [cutBlock?, next, ih found]

theorem length_lt_of_cutBlock? {block : BlockKind} {depth : Nat}
    {pieces inner after : List Piece} {close : Piece}
    (h : cutBlock? block depth pieces = some (inner, close, after)) :
    inner.length < pieces.length ∧ after.length < pieces.length := by
  rw [← append_of_cutBlock? h]
  simp only [List.length_append, List.length_cons]
  omega

theorem closingTag?_tagsAt (block : BlockKind) (depth position line : Nat) (pieces : List Piece) :
    closingTag? block depth (tagsAt position line pieces) =
      (cutBlock? block depth pieces).map fun parts =>
        parts.2.1.tag (position + (joined parts.1 []).length)
          (line + Body.newlines (joined parts.1 [])) := by
  induction pieces generalizing depth position line with
  | nil => rfl
  | cons piece pieces ih =>
    rw [tagsAt, closingTag?_cons, Piece.shape_tag, cutBlock?]
    cases piece.shape.depth? block depth with
    | none => simp [Body.newlines]
    | some depth =>
      simp only [ih, Option.map_map]
      congr 1
      funext parts
      simp [newlines_append, Nat.add_assoc]

theorem findBlockEnd_joined {pieces : List Piece} {tail : List Char}
    (proper : ∀ piece ∈ pieces, piece.Proper) (untagged : Untagged tail) (block : BlockKind) :
    findBlockEnd block (joined pieces tail) =
      (cutBlock? block 0 pieces).map fun parts =>
        parts.2.1.tag (joined parts.1 []).length (1 + Body.newlines (joined parts.1 [])) := by
  rw [findBlockEnd, scan_joined proper untagged, closingTag?_tagsAt]
  simp

/-! ## Proper nesting -/

/-- Inside the blocks that are open around them, every block is closed by a tag of its keyword,
after all blocks inside it. A closing tag for which no block is open stands for itself. -/
inductive Nested : List BlockKind → List Shape → Prop
  | nil {around : List BlockKind} : Nested around []
  | plain {around : List BlockKind} {shapes : List Shape} :
      Nested around shapes → Nested around (.plain :: shapes)
  | stray {around : List BlockKind} {keyword : String} {shapes : List Shape} :
      (∀ block ∈ around, keyword ≠ block.keyword) → Nested around shapes →
      Nested around (.closes keyword :: shapes)
  | block {around : List BlockKind} {block : BlockKind} {inner after : List Shape} :
      Nested (block :: around) inner → Nested around after →
      Nested around (.opens block :: (inner ++ .closes block.keyword :: after))

theorem BlockKind.keyword_inj {block other : BlockKind} (h : block.keyword = other.keyword) :
    block = other := by
  cases block <;> cases other <;> first | rfl | exact absurd h (by decide)

theorem cutBlock?_of_nested {around : List BlockKind} {shapes : List Shape}
    (nested : Nested around shapes) {pieces : List Piece} (h : pieces.map Piece.shape = shapes)
    {block : BlockKind} (mem : block ∈ around) (depth : Nat) (more : List Piece) :
    cutBlock? block depth (pieces ++ more) =
      (cutBlock? block depth more).map fun parts => (pieces ++ parts.1, parts.2) := by
  induction nested generalizing pieces depth more with
  | nil =>
    cases List.map_eq_nil_iff.mp h
    simp
  | plain _ ih =>
    obtain ⟨piece, pieces, rfl, shape, rest⟩ := List.map_eq_cons_iff.mp h
    simp [cutBlock?, shape, Shape.depth?, ih rest mem, Function.comp_def]
  | stray ne _ ih =>
    obtain ⟨piece, pieces, rfl, shape, rest⟩ := List.map_eq_cons_iff.mp h
    simp [cutBlock?, shape, Shape.depth?, ih rest mem, ne block mem, Function.comp_def]
  | @block around other inner after _ _ ihInner ihAfter =>
    obtain ⟨opener, pieces, rfl, opens, rest⟩ := List.map_eq_cons_iff.mp h
    obtain ⟨first, pieces, rfl, inside, rest⟩ := List.map_eq_append_iff.mp rest
    obtain ⟨closer, second, rfl, closes, outside⟩ := List.map_eq_cons_iff.mp rest
    have back : closer.shape.depth? block (if other = block then depth + 1 else depth) =
        some depth := by
      by_cases same : other = block
      · simp [closes, Shape.depth?, same]
      · have ne : other.keyword ≠ block.keyword := fun h => same (BlockKind.keyword_inj h)
        simp [closes, Shape.depth?, same, ne]
    simp only [List.cons_append, List.append_assoc, cutBlock?, opens, Shape.depth?_opens,
      ihInner inside (.tail _ mem), back, ihAfter outside mem, Option.map_map, Function.comp_def]

end Folio
