import Folio.Proofs.Page.Lookup

/-! The first segment of a key says where the key leads: to the item of the innermost loop with that
variable, or else to a field of the data that is bound to the page. What follows the first dot leads
on from there. So inside loops a key has the value that it would have on a page whose data the loops
had been added to, the outermost first. -/

namespace Folio

open Body

/-! ## The head of a key -/

/-- The first segment of a key, and what follows the dot after it. -/
def splitHead (key : String) : String × Option String :=
  match Text.cut? '.' key.toList with
  | none => (key, none)
  | some (head, rest) => (String.ofList head, some (String.ofList rest))

theorem keySegments_eq (key : String) :
    keySegments key = (splitHead key).1 :: (((splitHead key).2.map keySegments).getD []) := by
  rw [keySegments, Text.splitString, Text.split_eq, splitHead]
  cases Text.cut? '.' key.toList with
  | none => simp
  | some parts => simp [keySegments, Text.splitString]

/-- What the rest of a key leads to from a value: to the value itself if nothing is left. -/
def Value.follow? (value : Value) : Option String → Option Value
  | none => some value
  | some rest => value.resolve? (keySegments rest)

theorem Value.follow?_eq (value : Value) (rest? : Option String) :
    value.follow? rest? = value.resolve? ((rest?.map keySegments).getD []) := by
  cases rest? <;> rfl

def Fields.lookup? (fields : Fields) (key : String) : Option Value :=
  let (head, rest?) := splitHead key
  (fields.get? head).bind fun value => value.follow? rest?

/-- The value of a key in a loop, the variable of which may be the head of the key. -/
def Scope.lookupLoop (name : String) (item : Value) (outer : String → Option Value)
    (key : String) : Option Value :=
  let (head, rest?) := splitHead key
  if head = name then item.follow? rest? else outer key

/-- Fields may as well be seen as one object, from which the whole key leads on. -/
theorem Fields.resolve?_eq_lookup? (fields : Fields) (key : String) :
    fields.resolve? key = fields.lookup? key := by
  rw [Fields.resolve?, keySegments_eq, Value.resolve?, Value.child?, Fields.lookup?]
  simp only [Value.follow?_eq]

theorem Scope.lookupBound_eq_lookupLoop (name : String) (item : Value)
    (outer : String → Option Value) (key : String) :
    lookupBound name item outer key = lookupLoop name item outer key := by
  rw [lookupBound, keySegments_eq, lookupLoop]
  simp only [Value.follow?_eq]

/-! ## Loops around a key -/

/-- Fields to which loops have added their variables, the outermost loop first. -/
def Fields.extend (fields : Fields) (locals : Locals) : Fields :=
  locals.foldr (fun bound fields => Fields.insert bound.1 bound.2 fields) fields

/-- The value of a key inside loops, each of which splits the key again. -/
def Fields.lookupLoops (fields : Fields) : Locals → String → Option Value
  | [] => fields.lookup?
  | (name, item) :: outer => Scope.lookupLoop name item (fields.lookupLoops outer)

theorem Fields.get?_extend (fields : Fields) (locals : Locals) (name : String) :
    (fields.extend locals).get? name = (locals.lookup name).or (fields.get? name) := by
  induction locals with
  | nil => rfl
  | cons bound outer ih =>
    obtain ⟨other, item⟩ := bound
    by_cases same : name = other
    · subst same
      rw [extend, List.foldr_cons, Fields.get?_insert_self, List.lookup_cons, beq_self_eq_true]
      rfl
    · rw [extend, List.foldr_cons, Fields.get?_insert_of_ne same, List.lookup_cons,
        beq_eq_false_iff_ne.mpr same]
      exact ih

/-- The loop around a key decides alone where its variable is the head, and leaves other keys to the
loops outside. -/
theorem Fields.lookup?_extend (fields : Fields) (locals : Locals) (key : String) :
    (fields.extend locals).lookup? key = fields.lookupLoops locals key := by
  induction locals with
  | nil => rfl
  | cons bound outer ih =>
    obtain ⟨name, item⟩ := bound
    rw [lookupLoops, Scope.lookupLoop, ← ih]
    simp only [lookup?, get?_extend, List.lookup_cons]
    by_cases same : (splitHead key).1 = name
    · rw [if_pos same, beq_iff_eq.mpr same]
      rfl
    · rw [if_neg same, beq_eq_false_iff_ne.mpr same]

/-- A loop variable hides a field of its name, also where only the field would lead on. -/
example : Fields.lookupLoops [("x", .object [("y", .null)])] [("x", .text "a")] "x.y" = none := by
  cbv

namespace Page

variable {σ : Type} (host : Host σ)

/-- Inside loops a key is split by one loop after the other, and last by the page. -/
theorem lookup_bindAll (locals : Locals) (session : Session σ) (key : String) :
    ((scope host).bindAll locals).lookup session key =
      session.page.context.lookupLoops locals key := by
  induction locals generalizing key with
  | nil => exact Fields.resolve?_eq_lookup? session.page.context key
  | cons bound outer ih =>
    obtain ⟨name, item⟩ := bound
    rw [Fields.lookupLoops, ← Scope.lookupBound_eq_lookupLoop, ← funext ih]
    rfl

/-- The innermost loop with the head of a key as its variable decides alone: a key that leads to
nothing from its item leads to nothing. All other keys lead where they lead outside the loops. -/
theorem lookup_bindAll_head (locals : Locals) (session : Session σ) (key : String) :
    ((scope host).bindAll locals).lookup session key =
      match locals.lookup (splitHead key).1 with
      | some item => item.follow? (splitHead key).2
      | none => session.page.get? key := by
  rw [lookup_bindAll, ← Fields.lookup?_extend, get?, Fields.resolve?_eq_lookup?]
  simp only [Fields.lookup?, Fields.get?_extend]
  cases locals.lookup (splitHead key).1 <;> rfl

/-- A loop leaves all keys as they are, also one that fails. -/
theorem lookup_after_loop (path : Path) (line : Nat) (locals : Locals) (args text : List Char)
    (offset : Nat) (session : Session σ) (key : String) :
    let loop :=
      runBlock path line ((scope host).bindAll locals) args (runText path text offset) .each
    ((scope host).bindAll locals).lookup (loop.eval session).2 key =
      ((scope host).bindAll locals).lookup session key := by
  intro loop
  have scopes := (keepsRest_calls host).scopes.bindAll locals
  have kept := Session.context_of_keepsRest (Bond.runBlock scopes path line
    (fun inner => Bond.runTags inner path text offset 0 (scan text)) args .each) session
  rw [lookup_bindAll, lookup_bindAll]
  exact congrArg (Fields.lookupLoops · locals key) kept

/-- Inside loops every key has the value that it has on a page whose data the loops have been added
to, and that is where the whole key leads from that data as one object. The innermost loop with the
head of the key as its variable decides alone. After a loop all keys are as they were before it. -/
theorem lookup_in_loops (locals : Locals) (session : Session σ) :
    let inside := (scope host).bindAll locals
    let extended := session.page.context.extend locals
    (∀ key,
      inside.lookup session key = session.page.context.lookupLoops locals key ∧
      inside.lookup session key = extended.lookup? key ∧
      inside.lookup session key = { session.page with context := extended }.get? key ∧
      inside.lookup session key = (Value.object extended).resolve? (keySegments key) ∧
      inside.lookup session key =
        match locals.lookup (splitHead key).1 with
        | some item => item.follow? (splitHead key).2
        | none => session.page.get? key) ∧
    ∀ path line args text offset key,
      let loop := runBlock path line inside args (runText path text offset) .each
      inside.lookup (loop.eval session).2 key = inside.lookup session key := by
  refine ⟨fun key => ?_, fun path line args text offset key => ?_⟩
  · have inside := lookup_bindAll host locals session key
    have extended := inside.trans (Fields.lookup?_extend session.page.context locals key).symm
    have whole := extended.trans (Fields.resolve?_eq_lookup? _ key).symm
    exact ⟨inside, extended, whole, whole, lookup_bindAll_head host locals session key⟩
  · exact lookup_after_loop host path line locals args text offset session key

end Page

end Folio
