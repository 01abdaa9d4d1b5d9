import Folio.Body.Scan

/-! A block ends at the first closing tag of its keyword that is not needed for a block of the same
kind inside it. Escaped tags and tags of the other kind do not count. -/

namespace Folio

/-- The tag that closes a block, in the tags after its opening tag, if `depth` blocks of the same
kind are open inside it. -/
def closingTag? (block : BlockKind) (depth : Nat) : List Tag → Option Tag
  | [] => none
  | tag :: tags =>
    if tag.isEscaped then closingTag? block depth tags
    else match tag.kind with
      | .expression _ => closingTag? block depth tags
      | .opening other _ =>
        closingTag? block (if other = block then depth + 1 else depth) tags
      | .closing keyword =>
        if keyword = block.keyword then
          match depth with
          | 0 => some tag
          | depth + 1 => closingTag? block depth tags
        else
          closingTag? block depth tags

def findBlockEnd (block : BlockKind) (text : List Char) : Option Tag :=
  closingTag? block 0 (scan text)

theorem ne_nil_of_findBlockEnd {block : BlockKind} {text : List Char} {tag : Tag}
    (h : findBlockEnd block text = some tag) : text ≠ [] := by
  rintro rfl
  simp [findBlockEnd, closingTag?] at h

end Folio
