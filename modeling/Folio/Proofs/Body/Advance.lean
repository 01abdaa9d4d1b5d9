import Folio.Proofs.Body.Bytes

/-! A scanner is fed the byte at its position until it is at the end of its bytes. A byte that it
does not use up is fed to it once more, in another state. That it is not fed the same byte forever,
and how often it is fed in all, follows from its rank, which is at most one and goes down with each
byte that it puts back. -/

namespace Folio

namespace ByteScanner

variable {source : List UInt8} {scanner : ByteScanner} {byte : UInt8} {step : ByteStep}

/-! ## One step -/

theorem rank_le_one (scanner : ByteScanner) : scanner.rank ≤ 1 := by
  unfold rank
  split <;> decide

theorem position_of_step? (h : scanner.step? source byte = some step) :
    step.next.position = scanner.position + if step.consumed then 1 else 0 := by
  obtain ⟨_ | _ | _ | ⟨start, content, stop, backslashes⟩, position, line⟩ := scanner
  · simp only [step?] at h
    split at h
    · cases h; rfl
    · split at h <;> (cases h; rfl)
  · simp only [step?] at h
    split at h <;> (cases h; rfl)
  · simp only [step?] at h
    split at h <;> (cases h; rfl)
  · simp only [step?] at h
    split at h
    · simp only [Option.bind_eq_bind, Option.bind_eq_some_iff] at h
      obtain ⟨_, _, _, _, h⟩ := h
      cases h; rfl
    · cases h; rfl

theorem position_of_consumed (h : scanner.step? source byte = some step)
    (consumed : step.consumed = true) : step.next.position = scanner.position + 1 := by
  rw [position_of_step? h, if_pos consumed]

theorem position_of_kept (h : scanner.step? source byte = some step)
    (kept : step.consumed = false) : step.next.position = scanner.position := by
  rw [position_of_step? h, kept]
  rfl

theorem consumed_of_not_consumed {byte' : UInt8} {step' : ByteStep}
    (h : scanner.step? source byte = some step) (kept : step.consumed = false)
    (h' : step.next.step? source byte' = some step') : step'.consumed = true := by
  cases kept' : step'.consumed with
  | true => rfl
  | false =>
    have first := rank_lt_of_not_consumed h kept
    have second := rank_lt_of_not_consumed h' kept'
    have := scanner.rank_le_one
    omega

end ByteScanner

/-! ## All steps -/

/-- A byte that a scanner is fed, and what the scanner does with it. -/
structure Feed where
  scanner : ByteScanner
  byte : UInt8
  step : ByteStep
  deriving DecidableEq, Repr

/-- All that a scanner is fed up to the end of its source. -/
inductive Feeds (source : List UInt8) : ByteScanner → List Feed → Prop
  | done {scanner : ByteScanner} : source.length ≤ scanner.position → Feeds source scanner []
  | feed {scanner : ByteScanner} {byte : UInt8} {step : ByteStep} {feeds : List Feed} :
      source[scanner.position]? = some byte → scanner.step? source byte = some step →
      Feeds source step.next feeds → Feeds source scanner (⟨scanner, byte, step⟩ :: feeds)

namespace Feeds

variable {source : List UInt8} {scanner : ByteScanner} {feeds : List Feed}

/-- The scanner has no choice. -/
theorem unique (h : Feeds source scanner feeds) {others : List Feed}
    (h' : Feeds source scanner others) : others = feeds := by
  induction h generalizing others with
  | done stops =>
    cases h' with
    | done => rfl
    | feed found =>
      obtain ⟨inside, -⟩ := List.getElem?_eq_some_iff.mp found
      omega
  | feed found steps _ ih =>
    cases h' with
    | done stops =>
      obtain ⟨inside, -⟩ := List.getElem?_eq_some_iff.mp found
      omega
    | feed found' steps' later =>
      cases found.symm.trans found'
      cases steps.symm.trans steps'
      rw [ih later]

/-- What is fed when a scan finds tags. The induction is on the recursion of the scan. -/
theorem of_tags? {rest : List UInt8} {tags : List ByteTag}
    (h : scanner.tags? source rest = some tags) (here : source.drop scanner.position = rest) :
    ∃ feeds, Feeds source scanner feeds ∧ feeds.flatMap (·.step.tag?.toList) = tags := by
  fun_induction ByteScanner.tags? source scanner rest generalizing tags with
  | case1 scanner =>
    cases h
    exact ⟨[], .done (List.drop_eq_nil_iff.mp here), rfl⟩
  | case2 => cases h
  | case3 scanner byte rest step found consumed ih =>
    obtain ⟨later, scanned, rfl⟩ := Option.map_eq_some_iff.mp h
    have next : source.drop step.next.position = rest := by
      rw [ByteScanner.position_of_consumed found consumed, ← List.drop_drop, here]
      rfl
    obtain ⟨feeds, all, rfl⟩ := ih scanned next
    refine ⟨⟨scanner, byte, step⟩ :: feeds, .feed ?_ found all, rfl⟩
    rw [← List.head?_drop, here]
    rfl
  | case4 scanner byte rest step found kept ih =>
    obtain ⟨later, scanned, rfl⟩ := Option.map_eq_some_iff.mp h
    have next : source.drop step.next.position = byte :: rest := by
      rw [ByteScanner.position_of_kept found kept, here]
    obtain ⟨feeds, all, rfl⟩ := ih scanned next
    refine ⟨⟨scanner, byte, step⟩ :: feeds, .feed ?_ found all, rfl⟩
    rw [← List.head?_drop, here]
    rfl

/-- Every byte from the position of the scanner on is used up once. -/
theorem map_byte_consumed (h : Feeds source scanner feeds) :
    (feeds.filter (·.step.consumed)).map Feed.byte = source.drop scanner.position := by
  induction h with
  | done stops => exact (List.drop_eq_nil_iff.mpr stops).symm
  | @feed scanner byte step feeds found steps _ ih =>
    obtain ⟨inside, rfl⟩ := List.getElem?_eq_some_iff.mp found
    cases consumed : step.consumed with
    | true =>
      rw [List.filter_cons, if_pos consumed, List.map_cons, ih,
        ByteScanner.position_of_consumed steps consumed, ← List.drop_eq_getElem_cons inside]
    | false =>
      rw [List.filter_cons, if_neg (Bool.eq_false_iff.mp consumed), ih,
        ByteScanner.position_of_kept steps consumed]

/-- The rank pays for the bytes that are put back. -/
theorem length_le (h : Feeds source scanner feeds) :
    feeds.length ≤ 2 * (source.length - scanner.position) + scanner.rank := by
  induction h with
  | done => exact Nat.zero_le _
  | @feed scanner byte step feeds found steps _ ih =>
    obtain ⟨inside, -⟩ := List.getElem?_eq_some_iff.mp found
    rw [List.length_cons]
    cases consumed : step.consumed with
    | true =>
      have position := ByteScanner.position_of_consumed steps consumed
      have rank := step.next.rank_le_one
      omega
    | false =>
      have position := ByteScanner.position_of_kept steps consumed
      have rank := ByteScanner.rank_lt_of_not_consumed steps consumed
      omega

theorem of_append {before : List Feed} {feed : Feed} {after : List Feed}
    (h : Feeds source scanner (before ++ feed :: after)) :
    Feeds source feed.scanner (feed :: after) := by
  induction before generalizing scanner with
  | nil => cases h with | feed found steps later => exact .feed found steps later
  | cons other before ih => cases h with | feed _ _ later => exact ih later

/-- A byte that is put back is fed next, and then it is used up. -/
theorem next_of_kept {feed : Feed} {after : List Feed}
    (h : Feeds source scanner (feed :: after)) (kept : feed.step.consumed = false) :
    ∃ next later, after = next :: later ∧ next.step.consumed = true ∧ next.byte = feed.byte ∧
      next.scanner.position = feed.scanner.position := by
  cases h with
  | feed found steps rest =>
    have position := ByteScanner.position_of_kept steps kept
    cases rest with
    | done stops =>
      obtain ⟨inside, -⟩ := List.getElem?_eq_some_iff.mp found
      rw [position] at stops
      exact absurd inside (Nat.not_lt.mpr stops)
    | feed found' steps' later =>
      rw [position] at found'
      cases found.symm.trans found'
      exact ⟨_, _, rfl, ByteScanner.consumed_of_not_consumed steps kept steps', rfl, position⟩

end Feeds

namespace Scanner

theorem rank_le_one (scanner : Scanner) : scanner.rank ≤ 1 := by
  unfold rank
  split <;> decide

/-- The scanner of characters makes no more steps, for the same reason. -/
theorem steps_le (scanner : Scanner) (text : List Char) :
    scanner.steps text ≤ 2 * text.length + scanner.rank := by
  fun_induction Scanner.steps scanner text with
  | case1 => exact Nat.zero_le _
  | case2 scanner c rest consumed ih =>
    have rank := (scanner.step c).next.rank_le_one
    rw [List.length_cons]
    omega
  | case3 scanner c rest kept ih =>
    have rank := rank_lt_of_not_consumed kept
    omega

end Scanner

/-- A scan of any text ends, and it always advances. There is one row of bytes that the scanner is
fed from the start of the text up to its end, and with it the scanner finds the tags of the text. It
uses up every byte once, in their order. A byte that it does not use up is fed next, and then it is
used up. So the scanner is fed at most twice as often as the text has bytes, and the scanner of
characters makes at most twice as many steps as the text has characters. -/
theorem scan_advances (text : List Char) :
    (∃ feeds, Feeds (bytes text) .start feeds ∧
      (∀ others, Feeds (bytes text) .start others → others = feeds) ∧
      scanBytes? (bytes text) = some (feeds.flatMap (·.step.tag?.toList)) ∧
      (feeds.filter (·.step.consumed)).map Feed.byte = bytes text ∧
      (∀ before feed after, feeds = before ++ feed :: after → feed.step.consumed = false →
        ∃ next later, after = next :: later ∧ next.step.consumed = true ∧
          next.byte = feed.byte ∧ next.scanner.position = feed.scanner.position) ∧
      feeds.length ≤ 2 * byteSize text) ∧
    Scanner.start.steps text ≤ 2 * text.length := by
  constructor
  · have scanned := scanBytes_bytes text
    obtain ⟨feeds, all, tags⟩ := Feeds.of_tags? scanned rfl
    refine ⟨feeds, all, fun others => all.unique, ?_, all.map_byte_consumed, ?_, all.length_le⟩
    · rw [scanned, tags]
    · rintro before feed after rfl kept
      exact all.of_append.next_of_kept kept
  · exact Scanner.steps_le .start text

/-- What the scanner is fed of a brace and a letter: the letter is no second brace. -/
def braceFeeds : List Feed :=
  [⟨.start, '{'.toUInt8, ⟨⟨.opening 0 0, 1, 1⟩, none, true⟩⟩,
    ⟨⟨.opening 0 0, 1, 1⟩, 'x'.toUInt8, ⟨⟨.text 0, 1, 1⟩, none, false⟩⟩,
    ⟨⟨.text 0, 1, 1⟩, 'x'.toUInt8, ⟨⟨.text 0, 2, 1⟩, none, true⟩⟩]

theorem scan_advances_braceFeeds :
    Feeds (bytes ['{', 'x']) .start braceFeeds ∧
    (∃ next later, braceFeeds.drop 2 = next :: later ∧ next.step.consumed = true ∧
      next.byte = 'x'.toUInt8 ∧ next.scanner.position = 1) ∧
    braceFeeds.length ≤ 4 := by
  have all : Feeds (bytes ['{', 'x']) .start braceFeeds :=
    .feed rfl rfl (.feed rfl rfl (.feed rfl rfl (.done (Nat.le_refl _))))
  obtain ⟨⟨feeds, -, unique, -, -, next, length⟩, -⟩ := scan_advances ['{', 'x']
  cases unique braceFeeds all
  exact ⟨all, next [_] _ _ rfl rfl, length⟩

end Folio
