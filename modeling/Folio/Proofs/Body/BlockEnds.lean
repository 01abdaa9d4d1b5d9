import Folio.Proofs.Body.Cuts
import Folio.Proofs.Body.Nesting
import Mathlib

namespace Folio

/-! ## Counting tags -/

def openings (block : BlockKind) (tags : List Tag) : Nat :=
  tags.countP fun tag => tag.shape = .opens block

/-- How many tags have the word that closes a block of a kind. Escaped tags close none. -/
def closings (block : BlockKind) (tags : List Tag) : Nat :=
  tags.countP fun tag => tag.shape = .closes block.keyword

/-- A tag that follows some others closes a block, and with it the closing tags of that kind
outnumber the opening ones by one, besides those of the `depth` blocks of the kind that are open
before. -/
structure Ends (block : BlockKind) (depth : Nat) (before : List Tag) (tag : Tag) : Prop where
  closes : tag.shape = .closes block.keyword
  outnumber : closings block (before ++ [tag]) = openings block before + depth + 1

def FirstEnd (block : BlockKind) (depth : Nat) (tags : List Tag) (tag : Tag) : Prop :=
  ∃ before after, tags = before ++ tag :: after ∧ Ends block depth before tag ∧
    ∀ earlier other between, before = earlier ++ other :: between →
      ¬ Ends block depth earlier other

theorem Shape.depth?_eq_none_iff {block : BlockKind} {depth : Nat} {shape : Shape} :
    shape.depth? block depth = none ↔ depth = 0 ∧ shape = .closes block.keyword := by
  constructor
  · intro none
    have closes := Shape.of_depth?_eq_none none
    subst closes
    cases depth with
    | zero => exact ⟨rfl, rfl⟩
    | succ depth => simp [Shape.depth?] at none
  · rintro ⟨rfl, rfl⟩
    simp [Shape.depth?]

/-- The depth goes up by one with an opening tag and down by one with a closing tag. -/
theorem Shape.of_depth?_eq_some {block : BlockKind} {depth next : Nat} {shape : Shape}
    (h : shape.depth? block depth = some next) :
    depth + (if shape = .opens block then 1 else 0) =
      next + (if shape = .closes block.keyword then 1 else 0) := by
  cases shape with
  | plain =>
    cases h
    simp
  | opens other =>
    cases h
    by_cases same : other = block <;> simp [same]
  | closes keyword =>
    by_cases same : keyword = block.keyword
    · subst same
      cases depth with
      | zero => simp [Shape.depth?] at h
      | succ depth =>
        simp only [Shape.depth?, if_true, Option.some.injEq] at h
        simp [h]
    · simp only [Shape.depth?, if_neg same, Option.some.injEq] at h
      simp [same, h]

section
variable {block : BlockKind} {depth next : Nat} {tag last : Tag} {before tags : List Tag}

theorem openings_cons : openings block (tag :: tags) =
    openings block tags + if tag.shape = .opens block then 1 else 0 := by
  simp [openings, List.countP_cons]

theorem closings_cons : closings block (tag :: tags) =
    closings block tags + if tag.shape = .closes block.keyword then 1 else 0 := by
  simp [closings, List.countP_cons]

theorem ends_nil (closes : tag.shape.depth? block depth = none) : Ends block depth [] tag := by
  obtain ⟨rfl, shape⟩ := Shape.depth?_eq_none_iff.mp closes
  exact ⟨shape, by simp [closings, openings, shape]⟩

theorem not_ends_nil (goes : tag.shape.depth? block depth = some next) :
    ¬ Ends block depth [] tag := by
  rintro ⟨shape, outnumber⟩
  have balance := Shape.of_depth?_eq_some goes
  simp only [shape, reduceCtorEq, if_true, if_false] at balance
  simp only [closings, openings, List.nil_append, List.countP_singleton, List.countP_nil, shape,
    decide_true, if_true] at outnumber
  omega

theorem ends_cons (goes : tag.shape.depth? block depth = some next) :
    Ends block depth (tag :: before) last ↔ Ends block next before last := by
  have balance := Shape.of_depth?_eq_some goes
  have count : closings block (tag :: before ++ [last]) =
        openings block (tag :: before) + depth + 1 ↔
      closings block (before ++ [last]) = openings block before + next + 1 := by
    rw [List.cons_append, closings_cons, openings_cons]
    omega
  exact ⟨fun h => ⟨h.closes, count.mp h.outnumber⟩, fun h => ⟨h.closes, count.mpr h.outnumber⟩⟩

theorem firstEnd_of_depth?_eq_none (closes : tag.shape.depth? block depth = none) :
    FirstEnd block depth (tag :: tags) last ↔ tag = last := by
  constructor
  · rintro ⟨before, after, same, -, first⟩
    cases before with
    | nil =>
      cases same
      rfl
    | cons other before =>
      cases same
      exact absurd (ends_nil closes) (first [] tag before rfl)
  · rintro rfl
    refine ⟨[], tags, rfl, ends_nil closes, ?_⟩
    intro earlier other between absent
    simp at absent

theorem firstEnd_cons (goes : tag.shape.depth? block depth = some next) :
    FirstEnd block depth (tag :: tags) last ↔ FirstEnd block next tags last := by
  -- no row that ends with this tag has an end, and all longer ones count from the next depth
  constructor
  · rintro ⟨before, after, same, ends, first⟩
    cases before with
    | nil =>
      cases same
      exact absurd ends (not_ends_nil goes)
    | cons other before =>
      cases same
      refine ⟨before, after, rfl, (ends_cons goes).mp ends, ?_⟩
      rintro earlier other between rfl
      exact mt (ends_cons goes).mpr (first (tag :: earlier) other between rfl)
  · rintro ⟨before, after, rfl, ends, first⟩
    refine ⟨tag :: before, after, rfl, (ends_cons goes).mpr ends, ?_⟩
    intro earlier other between same
    cases earlier with
    | nil =>
      cases same
      exact not_ends_nil goes
    | cons head earlier =>
      cases same
      exact mt (ends_cons goes).mp (first earlier other between rfl)

end

/-- The tag that is found is the first one that ends the block. -/
theorem closingTag?_eq_some_iff {block : BlockKind} {depth : Nat} {tags : List Tag} {tag : Tag} :
    closingTag? block depth tags = some tag ↔ FirstEnd block depth tags tag := by
  induction tags generalizing depth with
  | nil =>
    constructor
    · intro found
      cases found
    · rintro ⟨before, after, absent, -⟩
      simp at absent
  | cons first tags ih =>
    rw [closingTag?_cons]
    cases goes : first.shape.depth? block depth with
    | none => rw [firstEnd_of_depth?_eq_none goes, Option.some.injEq]
    | some next => rw [firstEnd_cons goes, ih]

theorem closingTag?_eq_none_iff {block : BlockKind} {depth : Nat} {tags : List Tag} :
    closingTag? block depth tags = none ↔
      ∀ before tag after, tags = before ++ tag :: after → ¬ Ends block depth before tag := by
  induction tags generalizing depth with
  | nil => simp [closingTag?]
  | cons first tags ih =>
    rw [closingTag?_cons]
    cases goes : first.shape.depth? block depth with
    | none =>
      constructor
      · intro none
        cases none
      · intro none
        exact absurd (ends_nil goes) (none [] first tags rfl)
    | some next =>
      rw [ih]
      constructor
      · intro none before tag after same
        cases before with
        | nil =>
          cases same
          exact not_ends_nil goes
        | cons other before =>
          cases same
          exact mt (ends_cons goes).mp (none before tag after rfl)
      · rintro none before tag after rfl
        exact mt (ends_cons goes).mpr (none (first :: before) tag after rfl)

/-! ## Tags of other kinds -/

/-- Whether the tag opens or closes a block of a kind. Escaped tags do neither. -/
def Tag.concerns (block : BlockKind) (tag : Tag) : Bool :=
  tag.shape = .opens block || tag.shape = .closes block.keyword

def ownTags (block : BlockKind) (text : List Char) : List Tag :=
  (scan text).filter (·.concerns block)

/-- Where the tag that closes a block stands in a row, by the shapes of the tags. -/
def closingPlace? (block : BlockKind) (depth : Nat) : List Shape → Option Nat
  | [] => none
  | shape :: shapes =>
    match shape.depth? block depth with
    | none => some 0
    | some depth => (closingPlace? block depth shapes).map (· + 1)

theorem Shape.depth?_of_not_concerns {block : BlockKind} {tag : Tag}
    (other : ¬ tag.concerns block = true) (depth : Nat) :
    tag.shape.depth? block depth = some depth := by
  simp only [Tag.concerns, Bool.or_eq_true, decide_eq_true_eq, not_or] at other
  obtain ⟨opens, closes⟩ := other
  cases shape : tag.shape with
  | plain => rfl
  | opens kind =>
    rw [shape, Shape.opens.injEq] at opens
    rw [Shape.depth?_opens, if_neg opens]
  | closes keyword =>
    rw [shape, Shape.closes.injEq] at closes
    simp only [Shape.depth?, if_neg closes]

/-- Only the tags of the kind count for the end of a block. -/
theorem closingTag?_filter (block : BlockKind) (depth : Nat) (tags : List Tag) :
    closingTag? block depth (tags.filter (·.concerns block)) = closingTag? block depth tags := by
  induction tags generalizing depth with
  | nil => rfl
  | cons tag tags ih =>
    by_cases own : tag.concerns block = true
    · rw [List.filter_cons_of_pos own, closingTag?_cons, closingTag?_cons]
      cases tag.shape.depth? block depth with
      | none => rfl
      | some next => exact ih next
    · rw [List.filter_cons_of_neg own, closingTag?_cons, Shape.depth?_of_not_concerns own]
      exact ih depth

theorem closingTag?_eq_bind (block : BlockKind) (depth : Nat) (tags : List Tag) :
    closingTag? block depth tags =
      (closingPlace? block depth (tags.map Tag.shape)).bind (tags[·]?) := by
  induction tags generalizing depth with
  | nil => rfl
  | cons tag tags ih =>
    rw [closingTag?_cons, List.map_cons, closingPlace?]
    cases tag.shape.depth? block depth with
    | none => rfl
    | some next =>
      simp only [ih, Option.bind_map, Function.comp_def, List.getElem?_cons_succ]

/-! ## The end of a block in a text -/

/-- A closing tag after properly nested tags of both kinds ends the block around them. -/
theorem findBlockEnd_of_nested {block : BlockKind} {text : List Char} {before after : List Tag}
    {tag : Tag} (scanned : scan text = before ++ tag :: after)
    (closes : tag.shape = .closes block.keyword)
    (nested : Nested [.each, .capture] (before.map Tag.shape)) :
    findBlockEnd block text = some tag := by
  obtain ⟨front, piece, back, tail, rfl, proper, untagged, rfl, rfl, -⟩ :=
    exists_pieces_of_scan scanned
  rw [map_shape_tagsAt] at nested
  rw [Piece.shape_tag] at closes
  have around : block ∈ [BlockKind.each, .capture] := by cases block <;> decide
  have ends : piece.shape.depth? block 0 = none := Shape.depth?_eq_none_iff.mpr ⟨rfl, closes⟩
  have cut : cutBlock? block 0 (front ++ piece :: back) = some (front, piece, back) := by
    rw [cutBlock?_of_nested nested rfl around, cutBlock?, ends]
    simp
  rw [findBlockEnd_joined proper untagged, cut]
  rfl

/-- The end of a block in any text, properly nested or not. It is the first closing tag of its kind
with which these outnumber the opening tags before it by one, and there is none if there is no such
tag. Only the tags of its kind that are not escaped count: in two texts in which these open and
close alike, the end is at the same place among them. A closing tag up to which the tags of both
kinds are properly nested is the end that is found for its kind. -/
theorem findBlockEnd_counted (block : BlockKind) (text : List Char) :
    (∀ tag, findBlockEnd block text = some tag ↔
      ∃ before after, scan text = before ++ tag :: after ∧ Ends block 0 before tag ∧
        ∀ earlier other between, before = earlier ++ other :: between →
          ¬ Ends block 0 earlier other) ∧
    (findBlockEnd block text = none ↔
      ∀ before tag after, scan text = before ++ tag :: after → ¬ Ends block 0 before tag) ∧
    (∀ other, (ownTags block text).map Tag.shape = (ownTags block other).map Tag.shape →
      ∃ place? : Option Nat,
        findBlockEnd block text = place?.bind ((ownTags block text)[·]?) ∧
        findBlockEnd block other = place?.bind ((ownTags block other)[·]?)) ∧
    ∀ before tag after, scan text = before ++ tag :: after →
      tag.shape = .closes block.keyword → Nested [.each, .capture] (before.map Tag.shape) →
      findBlockEnd block text = some tag := by
  have own (text : List Char) : findBlockEnd block text =
      (closingPlace? block 0 ((ownTags block text).map Tag.shape)).bind
        ((ownTags block text)[·]?) := by
    rw [findBlockEnd, ← closingTag?_filter, closingTag?_eq_bind]
    rfl
  refine ⟨fun tag => closingTag?_eq_some_iff, closingTag?_eq_none_iff, ?_, ?_⟩
  · intro other alike
    exact ⟨_, own text, alike ▸ own other⟩
  · intro before tag after scanned closes nested
    exact findBlockEnd_of_nested scanned closes nested

/-- A loop in a loop that has begun before. -/
def innerLoop : List Char :=
  "\x7b\x7beach b |y|\x7d\x7d\x7b\x7b/each\x7d\x7d\x7b\x7b/each\x7d\x7d".toList

/-- The same loop tags with an escaped one among them, and a section that ends inside the loop. -/
def crossedLoop : List Char :=
  ("\x7b\x7bsection \"s\"\x7d\x7d\\\x7b\x7b/each\x7d\x7d\x7b\x7beach b |y|\x7d\x7d" ++
    "\x7b\x7b/section\x7d\x7d\x7b\x7b/each\x7d\x7d\x7b\x7b/each\x7d\x7d").toList

/-- The last tag of both texts ends the loop around them, and no tag of the second one ends a
section around it. -/
theorem findBlockEnd_counted_crossedLoop :
    findBlockEnd .each innerLoop = some ⟨23, "/each".toList, 0, 1⟩ ∧
    (∃ before after, scan crossedLoop = before ++ ⟨60, "/each".toList, 0, 1⟩ :: after ∧
      Ends .each 0 before ⟨60, "/each".toList, 0, 1⟩ ∧
      ∀ earlier other between, before = earlier ++ other :: between →
        ¬ Ends .each 0 earlier other) ∧
    (∀ before tag after, scan crossedLoop = before ++ tag :: after →
      ¬ Ends .capture 0 before tag) ∧
    ∃ place? : Option Nat,
      findBlockEnd .each innerLoop = place?.bind ((ownTags .each innerLoop)[·]?) ∧
      findBlockEnd .each crossedLoop = place?.bind ((ownTags .each crossedLoop)[·]?) := by
  have scanned : scan innerLoop =
      [⟨0, "each b |y|".toList, 0, 1⟩, ⟨14, "/each".toList, 0, 1⟩] ++
        ⟨23, "/each".toList, 0, 1⟩ :: [] := by
    cbv
  have closes : Tag.shape ⟨23, "/each".toList, 0, 1⟩ = .closes BlockKind.each.keyword := by cbv
  have shapes : List.map Tag.shape [⟨0, "each b |y|".toList, 0, 1⟩, ⟨14, "/each".toList, 0, 1⟩] =
      [.opens .each, .closes "each"] := by
    cbv
  have nested : Nested [.each, .capture] [.opens .each, .closes "each"] := .block .nil .nil
  have last : findBlockEnd .each crossedLoop = some ⟨60, "/each".toList, 0, 1⟩ := by cbv
  have noSection : findBlockEnd .capture crossedLoop = none := by cbv
  have alike : (ownTags .each innerLoop).map Tag.shape =
      (ownTags .each crossedLoop).map Tag.shape := by
    cbv
  obtain ⟨-, -, sameEnd, ofNested⟩ := findBlockEnd_counted .each innerLoop
  obtain ⟨isEnd, -⟩ := findBlockEnd_counted .each crossedLoop
  obtain ⟨-, isNone, -⟩ := findBlockEnd_counted .capture crossedLoop
  exact ⟨ofNested _ _ _ scanned closes (shapes ▸ nested), (isEnd _).mp last, isNone.mp noSection,
    sameEnd crossedLoop alike⟩

end Folio
