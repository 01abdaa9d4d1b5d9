import Folio.Proofs.Expr.Writing

/-! Every reader gives its rest together with a proof that it is shorter. `outcome` leaves the proof
out, and each reader has an equation for its outcome in terms of the readers that it calls. -/

namespace Folio.Expr

open Text (Parsed trimStart)

/-- What a reader has read, and the rest. -/
def outcome {α : Type} {text : List Char} (result : Except ExprError (Parsed α text)) :
    Except ExprError (α × List Char) :=
  result.map fun p => (p.value, p.rest)

variable {α : Type} {text : List Char}

@[simp] theorem outcome_ok (p : Parsed α text) : outcome (.ok p) = .ok (p.value, p.rest) := rfl

@[simp] theorem outcome_error (error : ExprError) :
    outcome (.error error : Except ExprError (Parsed α text)) = .error error := rfl

theorem ok_of_bind {β : Type} {first : Except ExprError α} {next : α → Except ExprError β}
    {value : β} (h : first >>= next = .ok value) :
    ∃ read, first = .ok read ∧ next read = .ok value := by
  cases first with
  | error error => cases h
  | ok read => exact ⟨read, rfl, h⟩

/-! ## Strings, numbers and names -/

theorem outcome_stringRest_guarded (quote c : Char) (rest : List Char) :
    outcome (stringRest quote ('\\' :: c :: rest)) =
      (outcome (stringRest quote rest)).map fun read => (escaped c :: read.1, read.2) := by
  rw [stringRest]
  cases stringRest quote rest <;> rfl

theorem outcome_stringRest_quote {quote : Char} (ne : quote ≠ '\\') (rest : List Char) :
    outcome (stringRest quote (quote :: rest)) = .ok ([], rest) := by
  rw [stringRest.eq_4 quote quote rest (fun e _ => ne e) (fun _ _ e _ => ne e), if_pos rfl]
  rfl

theorem outcome_stringRest_plain {quote c : Char} (ne : c ≠ '\\') (ne' : c ≠ quote)
    (rest : List Char) :
    outcome (stringRest quote (c :: rest)) =
      (outcome (stringRest quote rest)).map fun read => (c :: read.1, read.2) := by
  rw [stringRest.eq_4 quote c rest (fun e _ => ne e) (fun _ _ e _ => ne e), if_neg ne']
  cases stringRest quote rest <;> rfl

theorem outcome_string (quote : Char) (rest : List Char) :
    outcome (string (quote :: rest)) =
      (outcome (stringRest quote rest)).map fun read => (String.ofList read.1, read.2) := by
  rw [string]
  cases stringRest quote rest <;> rfl

theorem outcome_number (first : Char) (rest : List Char) :
    outcome (number (first :: rest)) =
      match number? (first :: rest.takeWhile isNumberChar) with
      | some n => .ok (.number n, rest.dropWhile isNumberChar)
      | none => .error (.badNumber (String.ofList (first :: rest.takeWhile isNumberChar))) := by
  rw [number]
  cases number? (first :: rest.takeWhile isNumberChar) <;> rfl

theorem outcome_dottedName (first : Char) (rest : List Char) :
    outcome (dottedName (first :: rest)) =
      .ok (String.ofList (first :: rest.takeWhile isNameChar), rest.dropWhile isNameChar) := rfl

/-! ## Lists, objects and calls -/

/-- One turn of a loop over parts with commas between them: a part, and then more parts after a
comma, or the closing character. -/
def turn (one : List Char → Except ExprError (α × List Char))
    (row : List Char → Except ExprError (List α × List Char)) (close : Char)
    (missing : ExprError) (wrong : Char → ExprError) (text : List Char) :
    Except ExprError (List α × List Char) :=
  match one text with
  | .error error => .error error
  | .ok (part, rest) =>
    match trimStart rest with
    | [] => .error missing
    | c :: more =>
      if c = ',' then (row more).map fun read => (part :: read.1, read.2)
      else if c = close then .ok ([part], more)
      else .error (wrong c)

/-- Reads a row after its opening character, which may be closed at once. -/
def closedOr (close : Char) (row : List Char → Except ExprError (List α × List Char))
    (text : List Char) : Except ExprError (List α × List Char) :=
  if (trimStart text).head? = some close then .ok ([], (trimStart text).tail) else row text

variable (nested : Reader Expr)

theorem outcome_items (close : Char) (text : List Char) :
    outcome (items nested close text) =
      turn (fun text => outcome (nested text)) (fun text => outcome (items nested close text)) close
        (.openList close) (.wrongSeparator close) text := by
  rw [items, turn]
  rcases nested text with error | ⟨item, rest, shorter⟩
  · rfl
  dsimp only [outcome_ok]
  split
  · simp [*]
  · rename_i c more h
    simp only [h]
    split
    · cases items nested close more <;> rfl
    · split <;> rfl

theorem outcome_bracketed (close : Char) (text : List Char) :
    outcome (bracketed nested close text) =
      closedOr close (fun text => outcome (items nested close text)) text := by
  rw [bracketed, closedOr]
  split
  · simp [*]
  · rename_i c rest h
    simp only [h, List.head?_cons, Option.some.injEq, List.tail_cons]
    split <;> rfl

theorem outcome_fieldName_quote {quote : Char} (h : quote = '"' ∨ quote = '\'')
    (rest : List Char) :
    outcome (fieldName (quote :: rest)) = outcome (string (quote :: rest)) := by
  rw [fieldName, if_pos h]

theorem outcome_fieldName_word {first : Char} (h : isNameStart first = true)
    (h' : ¬ (first = '"' ∨ first = '\'')) (rest : List Char) :
    outcome (fieldName (first :: rest)) = outcome (dottedName (first :: rest)) := by
  rw [fieldName, if_neg h', if_pos h]

theorem outcome_expect (wanted : Char) (text : List Char) :
    outcome (expect wanted text) =
      match trimStart text with
      | [] => .error (.missingChar wanted)
      | c :: rest => if c = wanted then .ok ((), rest) else .error (.wrongChar wanted c) := by
  rw [expect]
  split
  · simp [*]
  · rename_i c rest h
    simp only [h]
    split <;> rfl

theorem outcome_field (text : List Char) :
    outcome (field nested text) = (do
      let (name, rest) ← outcome (fieldName (trimStart text))
      let (_, rest) ← outcome (expect ':' rest)
      let (item, rest) ← outcome (nested rest)
      pure ((name, item), rest)) := by
  rw [field]
  rcases fieldName (trimStart text) with error | ⟨name, rest, shorter⟩
  · rfl
  dsimp only [outcome_ok]
  simp only [bind, Except.bind]
  rcases expect ':' rest with error | ⟨_, rest', shorter'⟩
  · rfl
  dsimp only [outcome_ok]
  cases nested rest' <;> rfl

theorem outcome_fields (text : List Char) :
    outcome (fields nested text) =
      turn (fun text => outcome (field nested text)) (fun text => outcome (fields nested text)) '}'
        .wrongFieldEnd (fun _ => .wrongFieldEnd) text := by
  rw [fields, turn]
  rcases field nested text with error | ⟨first, rest, shorter⟩
  · rfl
  dsimp only [outcome_ok]
  split
  · rename_i more h
    simp only [h, if_true]
    cases fields nested more <;> rfl
  · rename_i more h
    simp only [h]
    rfl
  · rename_i comma brace
    split
    · rfl
    · rename_i c more h
      rw [if_neg fun eq : c = ',' => comma more (eq ▸ h),
        if_neg fun eq : c = '}' => brace more (eq ▸ h)]
      rfl

theorem outcome_braced (text : List Char) :
    outcome (braced nested text) =
      closedOr '}' (fun text => outcome (fields nested text)) text := by
  rw [braced, closedOr]
  split
  · simp [*]
  · rename_i h
    rw [if_neg]
    intro head
    obtain ⟨rest, eq⟩ := List.head?_eq_some_iff.mp head
    exact h rest eq

theorem outcome_nameOrCall (text : List Char) :
    outcome (nameOrCall nested text) = (do
      let (name, rest) ← outcome (dottedName text)
      match keyword? name with
      | some value => pure (.literal value, rest)
      | none =>
        match trimStart rest with
        | '(' :: more => do
          let (args, rest) ← outcome (bracketed nested ')' more)
          pure (.call name args, rest)
        | _ => pure (.key name, rest)) := by
  rw [nameOrCall]
  rcases dottedName text with error | ⟨name, rest, shorter⟩
  · rfl
  dsimp only [outcome_ok]
  simp only [bind, Except.bind]
  cases keyword? name with
  | some value => rfl
  | none =>
    dsimp only
    split
    · rename_i more h
      simp only [h]
      cases bracketed nested ')' more <;> rfl
    · split
      · simp_all
      · rfl

/-! ## Expressions -/

theorem outcome_term (first : Char) (rest : List Char) :
    outcome (term nested (first :: rest)) =
      if first = '"' ∨ first = '\'' then
        (outcome (string (first :: rest))).map fun read => (.literal (.text read.1), read.2)
      else if first = '[' then
        (outcome (bracketed nested ']' rest)).map fun read => (.list read.1, read.2)
      else if first = '{' then
        (outcome (braced nested rest)).map fun read => (.object read.1, read.2)
      else if first = '-' ∨ first.isDigit then
        (outcome (number (first :: rest))).map fun read => (.literal read.1, read.2)
      else if isNameStart first then outcome (nameOrCall nested (first :: rest))
      else .error (.strayChar first) := by
  rw [term]
  split
  · cases string (first :: rest) <;> rfl
  split
  · cases bracketed nested ']' rest <;> rfl
  split
  · cases braced nested rest <;> rfl
  split
  · cases number (first :: rest) <;> rfl
  split <;> rfl

theorem outcome_nested (levels : Nat) (text : List Char) :
    outcome (Expr.nested (levels + 1) text) =
      outcome (term (Expr.nested levels) (trimStart text)) := by
  rw [Expr.nested]
  cases term (Expr.nested levels) (trimStart text) <;> rfl

theorem read_eq (source : List Char) :
    read source = (do
      let (expr, rest) ← outcome (Expr.nested maxLevels source)
      if trimStart rest = [] then pure expr
      else .error (.strayRest (String.ofList (trimStart rest)) (String.ofList source))) := by
  rw [read]
  rcases Expr.nested maxLevels source with error | ⟨expr, rest, shorter⟩
  · rfl
  · dsimp only [outcome_ok]
    simp only [bind, Except.bind]
    split
    · rename_i h
      rw [if_pos h]
      rfl
    · rename_i h
      rw [if_neg h]

/-! ## Rows -/

/-- A loop over parts with commas between them, up to a closing character. -/
structure IsRow (one : List Char → Except ExprError (α × List Char))
    (row : List Char → Except ExprError (List α × List Char)) (close : Char) : Prop where
  turns : ∃ missing wrong, ∀ text, row text = turn one row close missing wrong text
  close_ne : close ≠ ','

theorem isRow_items {close : Char} (ne : close ≠ ',') :
    IsRow (fun text => outcome (nested text)) (fun text => outcome (items nested close text))
      close :=
  ⟨⟨_, _, outcome_items nested close⟩, ne⟩

theorem isRow_fields :
    IsRow (fun text => outcome (field nested text)) (fun text => outcome (fields nested text))
      '}' :=
  ⟨⟨_, _, outcome_fields nested⟩, by decide⟩

namespace IsRow

variable {one : List Char → Except ExprError (α × List Char)}
  {row : List Char → Except ExprError (List α × List Char)} {close : Char}
  {text rest more : List Char} {part : α} {parts : List α}

theorem failed (loop : IsRow one row close) {error : ExprError} (h : one text = .error error) :
    row text = .error error := by
  obtain ⟨_, _, eq⟩ := loop.turns
  rw [eq, turn, h]

theorem next (loop : IsRow one row close) (h : one text = .ok (part, rest))
    (separator : trimStart rest = ',' :: more) :
    row text = (row more).map fun read => (part :: read.1, read.2) := by
  obtain ⟨_, _, eq⟩ := loop.turns
  simp [eq text, turn, h, separator]

theorem last (loop : IsRow one row close) (h : one text = .ok (part, rest))
    (closing : trimStart rest = close :: more) : row text = .ok ([part], more) := by
  obtain ⟨_, _, eq⟩ := loop.turns
  simp [eq text, turn, h, closing, loop.close_ne]

theorem back (loop : IsRow one row close) (h : row text = .ok (parts, rest)) :
    ∃ part after, one text = .ok (part, after) ∧
      (parts = [part] ∨ ∃ others more, parts = part :: others ∧ row more = .ok (others, rest)) := by
  obtain ⟨_, _, eq⟩ := loop.turns
  rw [eq, turn] at h
  cases read : one text with
  | error error => simp [read] at h
  | ok first =>
    obtain ⟨part, after⟩ := first
    refine ⟨part, after, rfl, ?_⟩
    simp only [read] at h
    split at h
    · cases h
    · rename_i c more _
      split at h
      · cases later : row more with
        | error error => simp [later, Except.map] at h
        | ok others =>
          simp only [later, Except.map, Except.ok.injEq, Prod.mk.injEq] at h
          exact .inr ⟨others.1, more, h.1.symm, by rw [later, ← h.2]⟩
      · split at h
        · cases h
          exact .inl rfl
        · cases h

/-- Every part that a loop has read was read by the reader of one part. -/
theorem of_ok (loop : IsRow one row close) (h : row text = .ok (parts, rest)) (mem : part ∈ parts) :
    ∃ text rest, one text = .ok (part, rest) := by
  induction parts generalizing text with
  | nil => cases mem
  | cons head parts ih =>
    obtain ⟨first, after, read, single | ⟨others, more, both, later⟩⟩ := loop.back h
    · cases single
      cases List.mem_singleton.mp mem
      exact ⟨text, after, read⟩
    · cases both
      rcases List.mem_cons.mp mem with rfl | mem
      · exact ⟨text, after, read⟩
      · exact ih later mem

theorem of_closedOr (loop : IsRow one row close) (h : closedOr close row text = .ok (parts, rest))
    (mem : part ∈ parts) : ∃ text rest, one text = .ok (part, rest) := by
  rw [closedOr] at h
  split at h
  · cases h
    cases mem
  · exact loop.of_ok h mem

end IsRow

/-! ## What is read -/

/-- An expression as a reader makes it, the expressions inside of which have a property. -/
inductive Made (part : Expr → Prop) : Expr → Prop
  | text (s : String) : Made part (.literal (.text s))
  | number {text : List Char} {n : Number} : IsNumeral text → number? text = some n →
      Made part (.literal (.number n))
  | bool (b : Bool) : Made part (.literal (.bool b))
  | null : Made part (.literal .null)
  | key {name : String} : IsName name → Made part (.key name)
  | list {items : List Expr} : (∀ item ∈ items, part item) → Made part (.list items)
  | object {fields : List (String × Expr)} : (∀ field ∈ fields, part field.2) →
      Made part (.object fields)
  | call {name : String} {args : List Expr} : IsName name → (∀ arg ∈ args, part arg) →
      Made part (.call name args)

section
variable {nested} {part : Expr → Prop} {rest : List Char} {expr : Expr}

theorem part_of_bracketed
    (parts : ∀ text expr rest, outcome (nested text) = .ok (expr, rest) → part expr) {close : Char}
    (ne : close ≠ ',') {items : List Expr}
    (h : outcome (bracketed nested close text) = .ok (items, rest)) :
    ∀ item ∈ items, part item := by
  intro item mem
  rw [outcome_bracketed] at h
  obtain ⟨text, rest, read⟩ := (isRow_items nested ne).of_closedOr h mem
  exact parts text item rest read

theorem part_of_field
    (parts : ∀ text expr rest, outcome (nested text) = .ok (expr, rest) → part expr)
    {entry : String × Expr} (h : outcome (field nested text) = .ok (entry, rest)) :
    part entry.2 := by
  rw [outcome_field] at h
  obtain ⟨⟨name, afterName⟩, _, h⟩ := ok_of_bind h
  obtain ⟨⟨_, afterColon⟩, _, h⟩ := ok_of_bind h
  obtain ⟨⟨item, afterItem⟩, read, h⟩ := ok_of_bind h
  cases h
  exact parts _ _ _ read

theorem part_of_braced
    (parts : ∀ text expr rest, outcome (nested text) = .ok (expr, rest) → part expr)
    {fields : List (String × Expr)} (h : outcome (braced nested text) = .ok (fields, rest)) :
    ∀ field ∈ fields, part field.2 := by
  intro field mem
  rw [outcome_braced] at h
  obtain ⟨text, rest, read⟩ := (isRow_fields nested).of_closedOr h mem
  exact part_of_field parts read

theorem isName_of_keyword?_eq_none {name : String} (h : keyword? name = none)
    (word : IsWord name.toList) : IsName name := by
  refine ⟨word, ?_, ?_, ?_⟩ <;> rintro rfl <;> cases h

theorem made_of_nameOrCall
    (parts : ∀ text expr rest, outcome (nested text) = .ok (expr, rest) → part expr)
    {first : Char} (start : isNameStart first = true) {others : List Char}
    (h : outcome (nameOrCall nested (first :: others)) = .ok (expr, rest)) : Made part expr := by
  rw [outcome_nameOrCall, outcome_dottedName] at h
  have word : IsWord (String.ofList (first :: others.takeWhile isNameChar)).toList :=
    ⟨first, _, String.toList_ofList, start, List.all_eq_true.mp List.all_takeWhile⟩
  generalize String.ofList (first :: others.takeWhile isNameChar) = name at h word
  obtain ⟨⟨name, after⟩, named, h⟩ := ok_of_bind h
  cases named
  dsimp only at h
  cases keyword : keyword? name with
  | some value =>
    rw [keyword] at h
    cases h
    unfold keyword? at keyword
    split at keyword
    · cases keyword; exact .bool true
    split at keyword
    · cases keyword; exact .bool false
    split at keyword
    · cases keyword; exact .null
    · cases keyword
  | none =>
    have named := isName_of_keyword?_eq_none keyword word
    simp only [keyword] at h
    split at h
    · obtain ⟨⟨args, afterArgs⟩, read, h⟩ := ok_of_bind h
      cases h
      exact .call named (part_of_bracketed parts (by decide) read)
    · cases h
      exact .key named

theorem made_of_term
    (parts : ∀ text expr rest, outcome (nested text) = .ok (expr, rest) → part expr)
    (h : outcome (term nested text) = .ok (expr, rest)) : Made part expr := by
  cases text with
  | nil => cases h
  | cons first others =>
    rw [outcome_term] at h
    split at h
    · cases read : outcome (string (first :: others)) <;> rw [read] at h <;> cases h
      exact .text _
    split at h
    · cases read : outcome (bracketed nested ']' others) <;> rw [read] at h <;> cases h
      exact .list (part_of_bracketed parts (by decide) read)
    split at h
    · cases read : outcome (braced nested others) <;> rw [read] at h <;> cases h
      exact .object (part_of_braced parts read)
    split at h
    · rename_i start
      rw [outcome_number] at h
      cases value : number? (first :: others.takeWhile isNumberChar) <;> rw [value] at h <;> cases h
      exact .number ⟨first, _, rfl, start, List.all_eq_true.mp List.all_takeWhile⟩ value
    split at h
    · exact made_of_nameOrCall parts ‹_› h
    · cases h

/-- What is read on every level has a property that what is made of the expressions of the level
below has. -/
theorem of_nested {P : Nat → Expr → Prop}
    (step : ∀ levels expr, Made (P levels) expr → P (levels + 1) expr) {levels : Nat}
    {text : List Char} (h : outcome (Expr.nested levels text) = .ok (expr, rest)) :
    P levels expr := by
  induction levels generalizing text expr rest with
  | zero => cases h
  | succ levels ih =>
    rw [outcome_nested] at h
    exact step levels expr (made_of_term (fun _ _ _ read => ih read) h)

theorem nested_of_read {source : List Char} (h : read source = .ok expr) :
    ∃ rest, outcome (Expr.nested maxLevels source) = .ok (expr, rest) := by
  rw [read_eq] at h
  obtain ⟨⟨first, rest⟩, read, h⟩ := ok_of_bind h
  dsimp only at h
  split at h
  · cases h
    exact ⟨rest, read⟩
  · cases h

end

end Folio.Expr
