import Folio.Proofs.Body.Rescan
import Folio.Proofs.Expr.Printing
import Mathlib

/-! The scan of a body knows nothing of strings and objects: a tag ends at the first two closing
braces. An expression that is written with a backslash before every closing brace of its strings,
and with white space before those of its objects, has no two of them in a row, and its tag is no
block. -/

namespace Folio

/-! ## Closing braces -/

/-- No two closing braces stand in a row in the text, not even after another closing brace. -/
def Apart (text : List Char) : Prop :=
  cutPair? '}' ('}' :: text) = none

namespace Apart

theorem nil : Apart [] := rfl

theorem cutPair?_eq_none {text : List Char} (h : Apart text) : cutPair? '}' text = none :=
  cutPair?_of_cons h

theorem cons {c : Char} {text : List Char} (ne : c ≠ '}') (h : cutPair? '}' text = none) :
    Apart (c :: text) := by
  rw [Apart, cutPair?_single ne, cutPair?_cons_of_ne ne, h]
  rfl

theorem append {a b : List Char} (h : Apart a) (h' : Apart b) : Apart (a ++ b) := by
  -- the character before `a` goes through the induction
  have after : ∀ first, cutPair? '}' (first :: a) = none →
      cutPair? '}' (first :: a ++ b) = none := by
    clear h
    induction a with
    | nil =>
      intro first _
      by_cases brace : first = '}'
      · subst brace; exact h'
      · rw [List.cons_append, List.nil_append, cutPair?_cons_of_ne brace, h'.cutPair?_eq_none]
        rfl
    | cons c a ih =>
      intro first none
      have pair : ¬ (first = '}' ∧ c = '}') := by
        rintro ⟨rfl, rfl⟩
        rw [cutPair?_pair] at none
        cases none
      have later := ih c (cutPair?_of_cons none)
      rw [List.cons_append] at later
      simp [cutPair?, pair, later]
  exact after '}' h

theorem of_not_mem {text : List Char} (h : '}' ∉ text) : Apart text := by
  induction text with
  | nil => exact nil
  | cons c text ih =>
    have ne : c ≠ '}' := by rintro rfl; exact h List.mem_cons_self
    exact cons ne (ih fun mem => h (List.mem_cons_of_mem _ mem)).cutPair?_eq_none

theorem of_append_left {a b : List Char} (h : Apart (a ++ b)) : Apart a :=
  cutPair?_eq_none_iff.mpr fun pair => cutPair?_eq_none_iff.mp h
    (pair.trans ⟨[], b, by simp⟩)

theorem of_blank {text : List Char} (h : Text.AllBlank text) : Apart text :=
  of_not_mem fun mem => absurd (h _ mem) (by decide)

theorem padded {core text : List Char} (h : Apart core) (padded : Expr.Padded core text) :
    Apart text := by
  obtain ⟨before, after, blank, blank', rfl⟩ := padded
  exact ((of_blank blank).append h).append (of_blank blank')

end Apart

namespace Expr

theorem Row.apart {α : Type} {written : α → List Char → Prop} {parts : List α} {inner : List Char}
    (h : Row written parts inner)
    (members : ∀ part ∈ parts, ∀ core, written part core → Apart core) : Apart inner := by
  induction h with
  | none blank => exact .of_blank blank
  | @last part core _ h padded => exact (members part (by simp) core h).padded padded
  | @next part other parts core _ more h padded _ ih =>
    have later : Apart more := ih fun part mem => members part (List.mem_cons_of_mem _ mem)
    exact ((members part (by simp) core h).padded padded).append
      (.cons (by decide) later.cutPair?_eq_none)

theorem Quoted.apart {s : String} {text : List Char} (h : Quoted .tag s text) : Apart text := by
  have inside : ∀ {quote : Char} {chars text : List Char}, Spelled .tag quote chars text →
      Apart text := by
    intro quote chars text spelled
    induction spelled with
    | nil => exact .nil
    | plain _ free _ ih =>
      exact .cons (by rintro rfl; revert free; decide) ih.cutPair?_eq_none
    | @escaped c _ _ _ _ _ ih =>
      have slash : Apart ['\\', c] := .cons (by decide) (by simp [cutPair?])
      exact slash.append ih
  cases h with
  | @mk quote text quotes spelled =>
    have ne : quote ≠ '}' := by rcases quotes with rfl | rfl <;> decide
    have last : Apart [quote] := .cons ne rfl
    exact (Apart.cons ne (inside spelled).cutPair?_eq_none).append last

theorem Bare.apart {text : List Char} (h : Bare text) : Apart text :=
  .of_not_mem fun mem => absurd (h.plain mem) (by decide)

theorem Field.apart {field : String × Expr} {core : List Char}
    (h : Field .tag (Written .tag) field core)
    (item : ∀ core, Written .tag field.2 core → Apart core) : Apart core := by
  cases h with
  | mk label blank blank' written =>
    have name := label.elim Quoted.apart fun word => word.2 ▸ word.1.bare.apart
    have value := (Apart.of_blank blank').append (item _ written)
    exact (name.append (.of_blank blank)).append (.cons (by decide) value.cutPair?_eq_none)

/-- No two closing braces stand in a row in an expression that is written for a tag. -/
theorem Written.apart {expr : Expr} {core : List Char} (h : Written .tag expr core) :
    Apart core := by
  induction expr using nestedInduction generalizing core with
  | literal value =>
    rcases h.quoted_or_bare with ⟨s, quoted⟩ | bare
    · exact quoted.apart
    · exact bare.apart
  | key name =>
    cases h with
    | key name => exact name.word.bare.apart
  | list items ih =>
    cases h with
    | list row =>
      have inner := row.apart fun item mem core h => ih item mem h
      exact (Apart.cons (by decide) inner.cutPair?_eq_none).append (.of_not_mem (by decide))
  | object fields ih =>
    cases h with
    | object row ends =>
      -- the white space keeps the closing brace apart from one in the last field
      obtain ⟨front, blank, rfl, visible⟩ := ends rfl
      have ne : blank ≠ '}' := by rintro rfl; revert visible; decide
      have inner := row.apart fun field mem core h => h.apart fun core h => ih field mem h
      have start : Apart ('{' :: front) :=
        .cons (by decide) inner.of_append_left.cutPair?_eq_none
      have stop : Apart [blank, '}'] := .cons ne rfl
      simpa using start.append stop
  | call name args ih =>
    cases h with
    | @call _ _ gap inner name blank _ row =>
      have inner := row.apart fun item mem core h => ih item mem h
      exact ((name.word.bare.apart.append (.of_blank blank)).append
        (.cons (by decide) inner.cutPair?_eq_none)).append (.of_not_mem (by decide))

/-! ## The kind of the tag -/

open Text (isBlank AllBlank)

theorem Written.visible_after_word {expr : Expr} {core word rest : List Char} {c : Char}
    (h : Written .tag expr core) (eq : core = word ++ c :: rest)
    (all : ∀ d ∈ word, Expr.isNameChar d = true) (stop : Expr.isNameChar c = false) :
    isBlank c = false := by
  have mem : c ∈ core := by simp [eq]
  have drop : core.dropWhile Expr.isNameChar = c :: rest := by
    rw [eq, (takeWhile_append_stop all (by rintro d ⟨⟩; exact stop)).2]
  -- a text that does not start with a character of names starts with `c`
  have first {d : Char} {others : List Char} (starts : core = d :: others)
      (no : Expr.isNameChar d = false) (visible : isBlank d = false) : isBlank c = false := by
    rw [starts, List.dropWhile_cons_of_neg (by simp [no])] at drop
    cases drop
    exact visible
  cases expr with
  | literal value =>
    rcases h.quoted_or_bare with ⟨s, quoted⟩ | bare
    · cases quoted with
      | mk quotes _ => rcases quotes with rfl | rfl <;> exact first rfl (by decide) (by decide)
    · exact bare.visible mem
  | key =>
    cases h with
    | key name => exact name.word.bare.visible mem
  | list =>
    cases h with
    | list => exact first rfl (by decide) (by decide)
  | object =>
    cases h with
    | object => exact first rfl (by decide) (by decide)
  | call =>
    cases h with
    | @call name _ gap inner named _ tight _ =>
      have none : gap = [] := tight rfl
      subst none
      rw [List.append_nil, List.append_assoc,
        (takeWhile_append_stop (fun d mem => named.word.isNameChar mem)
          (by rintro d ⟨⟩; decide)).2] at drop
      cases drop
      decide

/-- No block is opened: white space would have to follow its word. -/
theorem blockArgs?_of_written {expr : Expr} {core : List Char} (h : Written .tag expr core)
    (block : BlockKind) : TagKind.blockArgs? block core = none := by
  rw [TagKind.blockArgs?]
  split
  · rename_i c rest found
    have eq : core = block.keyword.toList ++ c :: rest :=
      (List.append_eq_of_isPrefixOf?_eq_some found).symm
    rw [if_neg]
    intro blank
    have all : ∀ d ∈ block.keyword.toList, Expr.isNameChar d = true :=
      List.all_eq_true.mp (by cases block <;> decide)
    have visible := h.visible_after_word eq all (isNameChar_of_isBlank blank)
    exact Bool.false_ne_true (visible.symm.trans blank)
  · rfl

/-- No reader reads a slash, so that no expression starts with one. -/
theorem Written.ne_slash {style : Style} {expr : Expr} {core rest : List Char}
    (h : Written style expr core) : core ≠ '/' :: rest := by
  rintro rfl
  have read := readable style expr expr.levels [] _ [] Text.allBlank_nil h stops_nil
  obtain ⟨levels, eq⟩ := Nat.exists_eq_succ_of_ne_zero (Nat.ne_of_gt expr.levels_pos)
  simp only [Nat.le_refl, decide_true, if_true] at read
  rw [eq, outcome_nested] at read
  cases read

theorem kind_of_written {expr : Expr} {core content : List Char} (h : Written .tag expr core)
    (padded : Padded core content) : TagKind.ofContent content = .expression core := by
  rw [TagKind.ofContent, trim_padded h.opens h.closes padded]
  split
  · exact absurd rfl h.ne_slash
  · simp [blockArgs?_of_written h]

end Expr

/-! ## Executing the tag -/

namespace Body

variable {σ : Type}

/-- A body that is a single tag, with a space on either side of what it holds. -/
def tagged (text : List Char) : List Char :=
  '{' :: '{' :: ' ' :: text ++ [' ', '}', '}']

def taggedPiece (text : List Char) : Piece :=
  ⟨[], ' ' :: text ++ [' ']⟩

theorem text_taggedPiece (text : List Char) : (taggedPiece text).text = tagged text := by
  simp [taggedPiece, tagged, Piece.text, Piece.braced]

theorem proper_taggedPiece {text : List Char} (h : Apart text) : (taggedPiece text).Proper := by
  have inside : cutPair? '}' (' ' :: text) = none := by
    rw [cutPair?_cons_of_ne (by decide), h.cutPair?_eq_none]
    rfl
  refine ⟨rfl, ?_⟩
  have cut := cutPair?_append_cons inside (by decide : ' ' ≠ '}') ['}', '}']
  simpa [taggedPiece] using cut

theorem scan_tagged {text : List Char} (h : Apart text) :
    scan (tagged text) = [(taggedPiece text).firstTag] := by
  have proper : ∀ piece ∈ [taggedPiece text], piece.Proper := by
    simpa using proper_taggedPiece h
  have noTag : Untagged [] := by simp [Untagged]
  have found := scan_joined proper noTag
  rwa [joined_cons, joined_nil, List.append_nil, text_taggedPiece] at found

theorem evaluateSource_of_read {path : Path} {line : Nat} {scope : Scope σ} {source : List Char}
    {expr : Expr} (h : Expr.read source = .ok expr) :
    evaluateSource path line scope source = evaluate path line scope expr := by
  rw [evaluateSource, h]

section
variable {expr : Expr} {core text : List Char} (written : Expr.Written .tag expr core)
  (padded : Expr.Padded core text)
include written padded

theorem kind_taggedPiece : (taggedPiece text).kind = .expression core := by
  obtain ⟨before, after, blank, blank', rfl⟩ := padded
  refine Expr.kind_of_written written ⟨' ' :: before, after ++ [' '], ?_, ?_, ?_⟩
  · exact List.forall_mem_cons.mpr ⟨by decide, blank⟩
  · exact List.forall_mem_append.mpr ⟨blank', (by decide : Text.AllBlank [' '])⟩
  · simp [taggedPiece, Piece.firstTag, Piece.tag]

theorem execute_tagged (levels : expr.levels ≤ Expr.maxLevels) (path : Path) (scope : Scope σ) :
    execute path (String.ofList (tagged text)) scope = (do
      let value ← evaluate path (1 + newlines (tagged text)) scope expr
      let shown ← output path core value
      pure (String.ofList shown)) := by
  have read : Expr.read core = .ok expr := by
    rw [Expr.read_padded written (.refl core), if_pos levels]
  have proper := proper_taggedPiece (written.apart.padded padded)
  have whole := execute_expression proper (kind_taggedPiece written padded) path scope
  rw [show Piece.mk [] _ = taggedPiece text from rfl, text_taggedPiece] at whole
  simp only [whole, shownSource, evaluateSource_of_read read, bind_assoc]

end

theorem execute_spell (s : String) (path : Path) (scope : Scope σ) :
    execute path (String.ofList (tagged (Expr.spell s))) scope = pure s := by
  have written : Expr.Written .tag (.literal (.text s)) (Expr.spell s) :=
    .text (Expr.quoted_spell s)
  have one : (Expr.literal (.text s)).levels ≤ Expr.maxLevels := by
    rw [Expr.levels]
    decide
  have shown : output path (Expr.spell s) (.text s) = (pure s.toList : Run σ (List Char)) := rfl
  rw [execute_tagged written (.refl _) one, evaluate, pure_bind, shown,
    pure_bind, String.ofList_toList]

/-- Everything that is read as an expression can be written in a tag: its text, with white space
around it or not, makes a body that is one tag from its start to its end, and executing it writes
the value of the expression or fails as its evaluation does. So every string can be written by a
tag, whatever braces, quotes, backslashes and line breaks are in it. -/
theorem expressions_in_tags :
    (∀ source expr, Expr.read source = .ok expr →
      expr.levels ≤ 64 ∧ ∃ core, Expr.Written .tag expr core) ∧
    (∀ expr core text, Expr.Written .tag expr core → Expr.Padded core text → expr.levels ≤ 64 →
      ∃ tag, scan (tagged text) = [tag] ∧ tag.start = 0 ∧ tag.stop = (tagged text).length ∧
        tag.isEscaped = false ∧ tag.kind = .expression core ∧
        ∀ (σ : Type) (path : Path) (scope : Scope σ),
          execute path (String.ofList (tagged text)) scope = (do
            let value ← evaluate path tag.line scope expr
            let shown ← output path core value
            pure (String.ofList shown))) ∧
    ∀ (s : String) (σ : Type) (path : Path) (scope : Scope σ),
      execute path (String.ofList (tagged (Expr.spell s))) scope = pure s := by
  refine ⟨fun source expr read => ?_, fun expr core text written padded levels => ?_,
    fun s σ path scope => execute_spell s path scope⟩
  · obtain ⟨rest, first⟩ := Expr.nested_of_read read
    exact ⟨Expr.levels_le_of_nested first, Expr.exists_written read⟩
  · have line : (taggedPiece text).firstTag.line = 1 + newlines (tagged text) := by
      rw [← text_taggedPiece]
      rfl
    refine ⟨(taggedPiece text).firstTag, scan_tagged (written.apart.padded padded), rfl, ?_, rfl,
      kind_taggedPiece written padded, fun σ path scope => ?_⟩
    · rw [Piece.firstTag, Piece.stop_tag, text_taggedPiece, Nat.zero_add]
    · rw [line, execute_tagged written padded levels]

/-- A scope in which every key leads to its own name. -/
def echo : Scope Unit where
  lookup _ key := some (.text key)
  invoke name _ := pure (.text name)
  declare _ content := pure content

/-- The words of blocks as a key and as a call, and closing braces in the name of a field. -/
theorem expressions_in_tags_words :
    (∃ core, Expr.Written .tag (.key "each") core) ∧
      (execute "page" (String.ofList (tagged "each".toList)) echo).eval () = (.ok "each", ()) ∧
      ∃ tag, scan (tagged "\x7b\"\\\x7d\\\x7d\":each(section) \x7d".toList) = [tag] ∧
        tag.kind = .expression "\x7b\"\\\x7d\\\x7d\":each(section) \x7d".toList := by
  have each : Expr.IsName "each" := by decide
  have word : Expr.IsName "section" := by decide
  have key : Expr.Written .tag (.key "each") "each".toList := .key each
  have name : Expr.Quoted .tag "\x7d\x7d" ['"', '\\', '\x7d', '\\', '\x7d', '"'] :=
    @Expr.Quoted.mk _ _ '"' ['\\', '\x7d', '\\', '\x7d'] (.inl rfl)
      (.escaped (by decide) (by decide) (.escaped (by decide) (by decide) .nil))
  have call : Expr.Written .tag (.call "each" [.key "section"]) "each(section)".toList :=
    @Expr.Written.call _ "each" _ [] _ each Text.allBlank_nil (fun _ => rfl)
      (.last (.key word) (.refl _))
  have object : Expr.Written .tag (.object [("\x7d\x7d", .call "each" [.key "section"])])
      "\x7b\"\\\x7d\\\x7d\":each(section) \x7d".toList :=
    @Expr.Written.object _ _ "\"\\\x7d\\\x7d\":each(section) ".toList
      (.last (@Expr.Field.mk _ _ _ _ _ [] [] _ (.inl name) Text.allBlank_nil
        Text.allBlank_nil call)
        ⟨[], [' '], Text.allBlank_nil, by decide, rfl⟩)
      (fun _ => ⟨"\"\\\x7d\\\x7d\":each(section)".toList, ' ', rfl, by decide⟩)
  obtain ⟨_, _, _, _, _, _, run⟩ :=
    expressions_in_tags.2.1 _ _ _ key (.refl _) (by decide)
  obtain ⟨tag, found, _, _, _, kind, _⟩ :=
    expressions_in_tags.2.1 _ _ _ object (.refl _) (by decide)
  refine ⟨(expressions_in_tags.1 "each".toList _ rfl).2, ?_, tag, found, kind⟩
  rw [run, evaluate]
  rfl

end Body

end Folio
