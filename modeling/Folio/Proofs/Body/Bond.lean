import Folio.Body.Execution
import Folio.Proofs.Run.Bond

/-! All that a body does is asking its scope for keys, calling functions and declaring sections. So
whatever holds of these three holds of the whole body. -/

namespace Folio

open Body

theorem Scope.ask_bind {σ : Type} (scope : Scope σ) (name key : String) (item : Value) :
    (scope.bind name item).ask key =
      match keySegments key with
      | [] => scope.ask key
      | head :: rest => if head = name then pure (item.resolve? rest) else scope.ask key := by
  unfold Scope.ask Scope.bind Scope.lookupBound
  cases segments : keySegments key with
  | nil => simp [segments]
  | cons head rest =>
    by_cases bound : head = name
    · simp only [segments, bound, List.head?_cons, if_true]
      rfl
    · simp [segments, bound]

/-- Two scopes that do everything alike. -/
structure Bond.Scopes {σ τ : Type} (bond : Bond σ τ) (left : Scope σ) (right : Scope τ) : Prop where
  ask (key : String) : bond.holds (left.ask key) (right.ask key)
  invoke (name : String) (args : List Value) :
    bond.holds (left.invoke name args) (right.invoke name args)
  declare (name content : String) :
    bond.holds (left.declare name content) (right.declare name content)

namespace Bond

variable {σ τ : Type} {bond : Bond σ τ} {left : Scope σ} {right : Scope τ}

theorem ask_bind (ask : ∀ key, bond.holds (left.ask key) (right.ask key)) (name : String)
    (item : Value) (key : String) :
    bond.holds ((left.bind name item).ask key) ((right.bind name item).ask key) := by
  rw [Scope.ask_bind, Scope.ask_bind]
  split
  · exact ask key
  · split
    · exact bond.pure _
    · exact ask key

theorem Scopes.bind (scopes : bond.Scopes left right) (name : String) (item : Value) :
    bond.Scopes (left.bind name item) (right.bind name item) where
  ask := bond.ask_bind scopes.ask name item
  invoke := scopes.invoke
  declare := scopes.declare

mutual

theorem evaluate (scopes : bond.Scopes left right) (path : Path) (line : Nat) (expr : Expr) :
    bond.holds (Body.evaluate path line left expr) (Body.evaluate path line right expr) := by
  cases expr with
  | literal value =>
    rw [Body.evaluate, Body.evaluate]
    exact bond.pure value
  | key key =>
    rw [Body.evaluate, Body.evaluate]
    apply bond.bind (scopes.ask key)
    rintro (_ | value)
    · exact bond.fail _
    · exact bond.pure value
  | list items =>
    rw [Body.evaluate, Body.evaluate]
    apply bond.bind (evaluateAll scopes path line items)
    intro values
    exact bond.pure _
  | object fields =>
    rw [Body.evaluate, Body.evaluate]
    apply bond.bind (evaluateFields scopes path line fields)
    intro values
    exact bond.pure _
  | call name args =>
    rw [Body.evaluate, Body.evaluate]
    apply bond.bind (evaluateAll scopes path line args)
    intro values
    exact scopes.invoke name values

theorem evaluateAll (scopes : bond.Scopes left right) (path : Path) (line : Nat)
    (items : List Expr) :
    bond.holds (Body.evaluateAll path line left items)
      (Body.evaluateAll path line right items) := by
  cases items with
  | nil =>
    rw [Body.evaluateAll, Body.evaluateAll]
    exact bond.pure []
  | cons item rest =>
    rw [Body.evaluateAll, Body.evaluateAll]
    apply bond.bind (evaluate scopes path line item)
    intro value
    apply bond.bind (evaluateAll scopes path line rest)
    intro values
    exact bond.pure _

theorem evaluateFields (scopes : bond.Scopes left right) (path : Path) (line : Nat)
    (fields : List (String × Expr)) :
    bond.holds (Body.evaluateFields path line left fields)
      (Body.evaluateFields path line right fields) := by
  cases fields with
  | nil =>
    rw [Body.evaluateFields, Body.evaluateFields]
    exact bond.pure []
  | cons field rest =>
    obtain ⟨name, item⟩ := field
    rw [Body.evaluateFields, Body.evaluateFields]
    apply bond.bind (evaluate scopes path line item)
    intro value
    apply bond.bind (evaluateFields scopes path line rest)
    intro values
    exact bond.pure _

end

section
variable (scopes : bond.Scopes left right) (path : Path) (line : Nat)
include scopes

theorem evaluateSource (source : List Char) :
    bond.holds (Body.evaluateSource path line left source)
      (Body.evaluateSource path line right source) := by
  unfold Body.evaluateSource
  cases Expr.read source with
  | error error => exact bond.fail _
  | ok expr => exact evaluate scopes path line expr

theorem shownSource (source : List Char) :
    bond.holds (Body.shownSource path line left source)
      (Body.shownSource path line right source) := by
  apply bond.bind (evaluateSource scopes path line source)
  intro value
  cases value with
  | list items => exact bond.fail _
  | object fields => exact bond.fail _
  | _ => exact bond.pure _

theorem loopItems (key : String) :
    bond.holds (Body.loopItems path line left key) (Body.loopItems path line right key) := by
  apply bond.bind (scopes.ask key)
  rintro (_ | value)
  · exact bond.fail _
  · cases value with
    | list items => exact bond.pure items
    | _ => exact bond.fail _

theorem sectionName (source : List Char) :
    bond.holds (Body.sectionName path line left source)
      (Body.sectionName path line right source) := by
  apply bond.bind (evaluateSource scopes path line source)
  intro value
  cases value with
  | text name => exact bond.pure name
  | _ => exact bond.fail _

/-- A block, if the text inside it is executed alike in all scopes that do everything alike. -/
theorem runBlock {inner : Scope σ → Run σ (List Char)} {inner' : Scope τ → Run τ (List Char)}
    (h : ∀ {left right}, bond.Scopes left right → bond.holds (inner left) (inner' right))
    (args : List Char) (block : BlockKind) :
    bond.holds (Body.runBlock path line left args inner block)
      (Body.runBlock path line right args inner' block) := by
  cases block with
  | each =>
    unfold Body.runBlock
    cases eachArgs? args with
    | none => exact bond.fail _
    | some names =>
      obtain ⟨key, name⟩ := names
      apply bond.bind (loopItems scopes path line key)
      intro items
      apply bond.bind (bond.mapM (fun item => h (scopes.bind name item)) items)
      intro shown
      exact bond.pure _
  | capture =>
    apply bond.bind (sectionName scopes path line args)
    intro name
    apply bond.bind (h scopes)
    intro content
    apply bond.bind (scopes.declare name (String.ofList content))
    intro shown
    exact bond.pure _

end

/-- The induction is on the text, which is shorter inside a block, and then on its tags. -/
theorem runTags (scopes : bond.Scopes left right) (path : Path) (text : List Char)
    (offset cursor : Nat) (tags : List Tag) :
    bond.holds (Body.runTags path text offset left cursor tags)
      (Body.runTags path text offset right cursor tags) := by
  induction h : text.length using Nat.strongRecOn
    generalizing text left right offset cursor tags with
  | ind length inside =>
    subst h
    induction tags generalizing cursor with
    | nil =>
      rw [Body.runTags, Body.runTags]
      unfold trailing
      dsimp only
      split
      · exact bond.fail _
      · exact bond.pure _
    | cons tag tags ih =>
      rw [Body.runTags, Body.runTags]
      by_cases skipped : tag.start < cursor
      · rw [if_pos skipped, if_pos skipped]
        exact ih cursor
      rw [if_neg skipped, if_neg skipped]
      by_cases escaped : tag.isEscaped = true
      · rw [if_pos escaped, if_pos escaped]
        apply bond.bind (ih tag.stop)
        intro after
        exact bond.pure _
      rw [if_neg escaped, if_neg escaped]
      cases tag.kind with
      | expression source =>
        apply bond.bind (shownSource scopes path _ source)
        intro shown
        apply bond.bind (ih tag.stop)
        intro after
        exact bond.pure _
      | closing keyword => exact bond.fail _
      | opening block args =>
        dsimp only
        split
        · exact bond.fail _
        · rename_i close found
          apply bond.bind
          · apply runBlock scopes
            intro left right scopes
            exact inside _ (length_inner_lt found) scopes _ _ _ _ rfl
          · intro shown
            apply bond.bind (ih (tag.stop + close.stop))
            intro after
            exact bond.pure _

theorem execute (scopes : bond.Scopes left right) (path : Path) (source : String) :
    bond.holds (Body.execute path source left) (Body.execute path source right) := by
  apply bond.bind (runTags scopes path source.toList 0 0 (scan source.toList))
  intro text
  exact bond.pure _

end Bond

end Folio
