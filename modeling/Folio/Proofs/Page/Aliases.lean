import Folio.Proofs.Engine.Jobs
import Folio.Proofs.Expr.Reading
import Folio.Proofs.Page.Bond
import Folio.Rehearsal
import Mathlib

/-! An alias is one more way to write calls, and nothing else. A call that is written with the alias
does what it does without it, and all other calls do what they do on a page that has no alias. -/

namespace Folio

open Body

/-! ## Names -/

namespace Alias

/-- No name of an operation ends with a dot and something else, nor with the name of another
operation. -/
theorem ending_of_spelling {spelling : String × Operation} (mem : spelling ∈ Operation.spellings)
    {rest : List Char} (ending : rest <:+ spelling.1.toList) :
    rest.head? ≠ some '.' ∧
      ∀ other, Operation.ofName? (String.ofList rest) = some other → other = spelling.2 := by
  have endings : ∀ spelling ∈ Operation.spellings, ∀ rest ∈ spelling.1.toList.tails,
      rest.head? ≠ some '.' ∧
        ∀ other, Operation.ofName? (String.ofList rest) = some other → other = spelling.2 := by
    decide
  exact endings spelling mem rest ((List.mem_tails _ _).mpr ending)

theorem mem_of_ofName? {name : String} {operation : Operation}
    (named : Operation.ofName? name = some operation) :
    (name, operation) ∈ Operation.spellings := by
  obtain ⟨before, after, split, -⟩ := List.lookup_eq_some_iff.mp named
  rw [split]
  exact List.mem_append_right _ List.mem_cons_self

variable {called : Alias} {name : String}

/-- A name of an operation leads to it under every alias. What follows the word in such a name is no
name at all, or one that the same operation answers to. -/
theorem ofName?_resolve {operation : Operation}
    (named : Operation.ofName? name = some operation) :
    Operation.ofName? (called.resolve name) = some operation := by
  have mem := mem_of_ofName? named
  unfold resolve
  split
  · exact named
  · rename_i rest found
    have whole := List.isPrefixOf?_eq_some_iff_append_eq.mp found
    exact absurd rfl (ending_of_spelling mem ⟨called.word.toList, whole⟩).1
  · rename_i rest _ found
    have whole := List.isPrefixOf?_eq_some_iff_append_eq.mp found
    cases bare : Operation.ofName? (String.ofList rest) with
    | none => simp [bare, named]
    | some other =>
      obtain rfl := (ending_of_spelling mem ⟨called.word.toList, whole⟩).2 other bare
      simp [bare]

theorem resolve_bare (named : (Operation.ofName? name).isSome) :
    called.resolve (called.word ++ name) = name := by
  obtain ⟨operation, found⟩ := Option.isSome_iff_exists.mp named
  have undotted := (ending_of_spelling (mem_of_ofName? found) List.suffix_rfl).1
  rw [resolve, String.toList_append, isPrefixOf?_append]
  split
  · rename_i none
    cases none
  · rename_i rest same
    rw [Option.some.injEq] at same
    rw [same] at undotted
    exact absurd rfl undotted
  · rename_i rest _ same
    rw [Option.some.injEq] at same
    rw [← same, String.ofList_toList, if_pos named]

theorem resolve_other (dotted : ∀ plain, plain ≠ "" → name ≠ called.word ++ "." ++ plain)
    (bare : ∀ plain, (Operation.ofName? plain).isSome → name ≠ called.word ++ plain) :
    called.resolve name = name := by
  unfold resolve
  split
  · rfl
  · rename_i rest found
    have whole := List.isPrefixOf?_eq_some_iff_append_eq.mp found
    by_cases nothing : rest = []
    · rw [if_pos nothing]
    · refine absurd ?_ (dotted (String.ofList rest) (by simpa using nothing))
      rw [← String.toList_inj]
      simp [← whole]
  · rename_i rest _ found
    have whole := List.isPrefixOf?_eq_some_iff_append_eq.mp found
    refine if_neg fun named => bare (String.ofList rest) named ?_
    rw [← String.toList_inj]
    simp [← whole]

end Alias

theorem Page.ofName?_callName (page : Page) {name : String} {operation : Operation}
    (named : Operation.ofName? name = some operation) :
    Operation.ofName? (callName page name) = some operation := by
  unfold callName
  cases page.alias? with
  | none => exact named
  | some called => exact Alias.ofName?_resolve named

/-! ## Runs under an alias -/

def Session.withAlias {σ : Type} (session : Session σ) (alias? : Option Alias) : Session σ :=
  { session with page := { session.page with alias? } }

/-- The host that is shown every page under an alias, or under none. The alias of a page is not told
to those who listen, so they hear the same from both. -/
def Host.showing {σ : Type} (host : Host σ) (alias? : Option Alias) : Host σ :=
  { host with fire := fun event => host.fire { event with page := { event.page with alias? } } }

/-- Under the alias the first run does what the second one does without. -/
def Session.SameUnder {σ α : Type} (called : Alias) (run plain : Run (Session σ) α) : Prop :=
  ∀ session : Session σ, run.eval (session.withAlias (some called)) =
    let ended := plain.eval (session.withAlias none)
    (ended.1, ended.2.withAlias (some called))

abbrev Session.under (σ : Type) (called : Alias) : Bond (Session σ) (Session σ) :=
  .ofStates (fun named plain => named = plain.withAlias (some called) ∧ plain.page.alias? = none)
    fun _ => False

section
variable {σ α : Type} {called : Alias}

theorem Session.sameUnder_of_holds {run plain : Run (Session σ) α}
    (h : (under σ called).holds run plain) : SameUnder called run plain := by
  intro session
  have alike := h (session.withAlias (some called)) (session.withAlias none) ⟨rfl, rfl⟩
  obtain ⟨result, after, -⟩ := alike.of_no_excuse
  exact Prod.ext result after

theorem Session.under_outside (run : Run σ α) :
    (under σ called).holds (outside run) (outside run) := by
  rintro _ session ⟨rfl, none⟩
  exact .same ⟨rfl, none⟩

theorem Session.under_fire (host : Host σ) (stage : Stage) :
    (under σ called).holds (fire host stage) (fire (host.showing (some called)) stage) := by
  rintro _ session ⟨rfl, none⟩
  exact .same ⟨rfl, none⟩

end

namespace Page

variable {σ : Type} (host : Host σ) {called : Alias}

/-! ## The calls of a page -/

theorem under_insert (name : String) (context : Fields) :
    (Session.under σ called).holds (insert host name context)
      (insert (host.showing (some called)) name context) := by
  apply (Session.under σ called).bind (Session.under_fire host _)
  intro _
  apply (Session.under σ called).bind (Session.under_outside (host.render name context))
  intro rendered
  apply (Session.under σ called).bind (Session.under_fire host _)
  intro _
  exact (Session.under σ called).pure rendered

theorem under_operations :
    (Session.under σ called).Operations host (host.showing (some called)) where
  look free := by
    rintro _ session ⟨rfl, none⟩
    rw [Run.eval_look, Run.eval_look, Session.withAlias, free]
    exact .same ⟨rfl, none⟩
  setLayout name := by
    apply (Session.under σ called).bind (Session.under_outside (host.seek name))
    rintro (_ | path)
    · exact (Session.under σ called).fail _
    · rintro _ session ⟨rfl, none⟩
      exact .same ⟨rfl, none⟩
  supply name fallback := by
    rintro _ session ⟨rfl, none⟩
    exact .same ⟨rfl, none⟩
  insert := under_insert host
  insertIf name context := by
    apply (Session.under σ called).bind (Session.under_outside (host.seek name))
    rintro (_ | path)
    · exact (Session.under σ called).pure ""
    · exact under_insert host name context
  filter name value args := Session.under_outside (host.filter name value args)

/-- A call under the alias does what the name that it means does without. -/
theorem under_dispatch {name plain : String} (means : called.resolve name = plain)
    (args : List Value) :
    (Session.under σ called).holds (dispatch host name args)
      (dispatch (host.showing (some called)) plain args) := by
  apply (Session.under σ called).bind
  · rintro _ session ⟨rfl, none⟩
    have named : callName (session.withAlias (some called)).page name = plain := means
    have unnamed : callName session.page plain = plain := by rw [callName, none]
    rw [Run.eval_look, Run.eval_look, named, unnamed]
    exact .same ⟨rfl, none⟩
  · intro name
    cases Operation.ofName? name with
    | none => exact Session.under_outside (host.run name args)
    | some operation => exact (under_operations host).operate operation args

theorem under_dispatch_spelled {name : String} {operation : Operation}
    (named : Operation.ofName? name = some operation) (args : List Value) :
    (Session.under σ called).holds (dispatch host name args)
      (dispatch (host.showing (some called)) name args) := by
  rintro _ session ⟨rfl, none⟩
  rw [eval_dispatch_operation host (ofName?_callName _ named),
    eval_dispatch_operation _ (ofName?_callName _ named)]
  exact (under_operations host).operate operation args _ session ⟨rfl, none⟩

end Page

/-! ## Expressions -/

namespace Expr

mutual

/-- The expression with the word and a dot before the names of all calls. -/
def prefixed (word : String) : Expr → Expr
  | .literal value => .literal value
  | .key name => .key name
  | .list items => .list (prefixedAll word items)
  | .object fields => .object (prefixedFields word fields)
  | .call name args => .call (word ++ "." ++ name) (prefixedAll word args)

def prefixedAll (word : String) : List Expr → List Expr
  | [] => []
  | item :: items => item.prefixed word :: prefixedAll word items

def prefixedFields (word : String) : List (String × Expr) → List (String × Expr)
  | [] => []
  | (name, item) :: fields => (name, item.prefixed word) :: prefixedFields word fields

end

inductive Named : Expr → Prop
  | literal (value : Value) : Named (.literal value)
  | key (name : String) : Named (.key name)
  | list {items : List Expr} : (∀ item ∈ items, Named item) → Named (.list items)
  | object {fields : List (String × Expr)} : (∀ field ∈ fields, Named field.2) →
      Named (.object fields)
  | call {name : String} {args : List Expr} : name ≠ "" → (∀ arg ∈ args, Named arg) →
      Named (.call name args)

theorem IsName.ne_empty {name : String} (h : IsName name) : name ≠ "" := by
  rintro rfl
  obtain ⟨⟨first, rest, word, -⟩, -⟩ := h
  cases word

theorem named_of_read {source : List Char} {expr : Expr} (h : read source = .ok expr) :
    expr.Named := by
  obtain ⟨rest, read⟩ := nested_of_read h
  refine of_nested (P := fun _ => Named) (fun levels expr made => ?_) read
  cases made with
  | text s => exact .literal _
  | number numeral found => exact .literal _
  | bool b => exact .literal _
  | null => exact .literal _
  | key name => exact .key _
  | list items => exact .list items
  | object fields => exact .object fields
  | call name args => exact .call name.ne_empty args

end Expr

namespace Bond

variable {σ τ : Type} {bond : Bond σ τ} {left : Scope σ} {right : Scope τ} {word : String}

theorem evaluateAll_prefixed {path : Path} {line : Nat} {items : List Expr}
    (each : ∀ item ∈ items, bond.holds (Body.evaluate path line left (item.prefixed word))
      (Body.evaluate path line right item)) :
    bond.holds (Body.evaluateAll path line left (Expr.prefixedAll word items))
      (Body.evaluateAll path line right items) := by
  induction items with
  | nil =>
    rw [Expr.prefixedAll, Body.evaluateAll, Body.evaluateAll]
    exact bond.pure []
  | cons item items ih =>
    obtain ⟨first, rest⟩ := List.forall_mem_cons.mp each
    rw [Expr.prefixedAll, Body.evaluateAll, Body.evaluateAll]
    apply bond.bind first
    intro value
    apply bond.bind (ih rest)
    intro values
    exact bond.pure _

theorem evaluateFields_prefixed {path : Path} {line : Nat} {fields : List (String × Expr)}
    (each : ∀ field ∈ fields, bond.holds (Body.evaluate path line left (field.2.prefixed word))
      (Body.evaluate path line right field.2)) :
    bond.holds (Body.evaluateFields path line left (Expr.prefixedFields word fields))
      (Body.evaluateFields path line right fields) := by
  induction fields with
  | nil =>
    rw [Expr.prefixedFields, Body.evaluateFields, Body.evaluateFields]
    exact bond.pure []
  | cons field fields ih =>
    obtain ⟨first, rest⟩ := List.forall_mem_cons.mp each
    obtain ⟨name, item⟩ := field
    rw [Expr.prefixedFields, Body.evaluateFields, Body.evaluateFields]
    apply bond.bind first
    intro value
    apply bond.bind (ih rest)
    intro values
    exact bond.pure _

/-- An expression with the word before its calls in one scope, and without it in the other one, if
every single call is alike. -/
theorem evaluate_prefixed (path : Path) (line : Nat)
    (ask : ∀ key, bond.holds (left.ask key) (right.ask key))
    (invoke : ∀ name args, name ≠ "" →
      bond.holds (left.invoke (word ++ "." ++ name) args) (right.invoke name args))
    {expr : Expr} (named : expr.Named) :
    bond.holds (Body.evaluate path line left (expr.prefixed word))
      (Body.evaluate path line right expr) := by
  induction named with
  | literal value =>
    rw [Expr.prefixed, Body.evaluate, Body.evaluate]
    exact bond.pure value
  | key name =>
    rw [Expr.prefixed, Body.evaluate, Body.evaluate]
    apply bond.bind (ask name)
    rintro (_ | value)
    · exact bond.fail _
    · exact bond.pure value
  | list _ each =>
    rw [Expr.prefixed, Body.evaluate, Body.evaluate]
    apply bond.bind (evaluateAll_prefixed each)
    intro values
    exact bond.pure _
  | object _ each =>
    rw [Expr.prefixed, Body.evaluate, Body.evaluate]
    apply bond.bind (evaluateFields_prefixed each)
    intro values
    exact bond.pure _
  | call nonempty _ each =>
    rw [Expr.prefixed, Body.evaluate, Body.evaluate]
    apply bond.bind (evaluateAll_prefixed each)
    intro values
    exact invoke _ values nonempty

end Bond

namespace Page

variable {σ : Type} (host : Host σ) {called : Alias}

theorem under_ask (locals : Locals) (key : String) :
    (Session.under σ called).holds (((scope host).bindAll locals).ask key)
      (((scope (host.showing (some called))).bindAll locals).ask key) := by
  induction locals generalizing key with
  | nil =>
    rintro _ session ⟨rfl, none⟩
    exact .same ⟨rfl, none⟩
  | cons bound outer ih => exact Bond.ask_bind ih bound.1 bound.2 key

theorem under_evaluate (path : Path) (line : Nat) (locals : Locals) {expr : Expr}
    (named : expr.Named) :
    (Session.under σ called).holds
      (evaluate path line ((scope host).bindAll locals) (expr.prefixed called.word))
      (evaluate path line ((scope (host.showing (some called))).bindAll locals) expr) := by
  apply Bond.evaluate_prefixed path line (under_ask host locals) _ named
  intro name args nonempty
  rw [Scope.invoke_bindAll, Scope.invoke_bindAll]
  exact under_dispatch host (Alias.resolve_dotted nonempty) args

variable (called) in
/-- What the calls of a page do under an alias. The word may stand before every name with a dot, and
directly before the names of operations; these mean their operations under every alias, and all
other names mean what they mean without one. So do whole expressions with the word before all
calls. -/
theorem calls_under_alias :
    (∀ name args, name ≠ "" →
      Session.SameUnder called (dispatch host (called.word ++ "." ++ name) args)
        (dispatch (host.showing (some called)) name args)) ∧
    (∀ name operation args, Operation.ofName? name = some operation →
      Session.SameUnder called (dispatch host (called.word ++ name) args)
        (dispatch (host.showing (some called)) name args) ∧
      Session.SameUnder called (dispatch host name args)
        (dispatch (host.showing (some called)) name args) ∧
      ∀ session : Session σ,
        (dispatch host name args).eval session = (operate host operation args).eval session) ∧
    (∀ name args, (∀ plain, plain ≠ "" → name ≠ called.word ++ "." ++ plain) →
      (∀ plain, (Operation.ofName? plain).isSome → name ≠ called.word ++ plain) →
      Session.SameUnder called (dispatch host name args)
        (dispatch (host.showing (some called)) name args)) ∧
    (∀ path line locals expr, Expr.Named expr →
      Session.SameUnder called
        (evaluate path line ((scope host).bindAll locals) (expr.prefixed called.word))
        (evaluate path line ((scope (host.showing (some called))).bindAll locals) expr)) ∧
    ∀ source expr, Expr.read source = .ok expr → expr.Named := by
  refine ⟨fun name args nonempty => ?_, fun name operation args named => ⟨?_, ?_, ?_⟩,
    fun name args dotted bare => ?_, fun path line locals expr named => ?_,
    fun source expr read => ?_⟩
  · exact Session.sameUnder_of_holds (under_dispatch host (Alias.resolve_dotted nonempty) args)
  · have some : (Operation.ofName? name).isSome := by rw [named, Option.isSome_some]
    exact Session.sameUnder_of_holds (under_dispatch host (Alias.resolve_bare some) args)
  · exact Session.sameUnder_of_holds (under_dispatch_spelled host named args)
  · intro session
    exact eval_dispatch_operation host (session.page.ofName?_callName named) args
  · exact Session.sameUnder_of_holds (under_dispatch host (Alias.resolve_other dotted bare) args)
  · exact Session.sameUnder_of_holds (under_evaluate host path line locals named)
  · exact Expr.named_of_read read

/-- The word is the beginning of a name of an operation, and of another name. -/
theorem calls_under_alias_last :
    let host := Rehearsal.host { disk := default }
    let called : Alias := ⟨"last_"⟩
    let plain := host.showing (some called)
    let expr : Expr := .call "title" [.call "data" []]
    ("title" ≠ "" ∧ Session.SameUnder called (dispatch host ("last_" ++ "." ++ "title") [])
      (dispatch plain "title" [])) ∧
    (Operation.ofName? "buffer" = some .lastBuffer ∧
      Session.SameUnder called (dispatch host ("last_" ++ "buffer") [])
        (dispatch plain "buffer" [])) ∧
    (Operation.ofName? "last_buffer" = some .lastBuffer ∧
      Session.SameUnder called (dispatch host "last_buffer" [])
        (dispatch plain "last_buffer" [])) ∧
    ((∀ plain, plain ≠ "" → "last_one" ≠ "last_" ++ "." ++ plain) ∧
      (∀ plain, (Operation.ofName? plain).isSome → "last_one" ≠ "last_" ++ plain) ∧
      Session.SameUnder called (dispatch host "last_one" []) (dispatch plain "last_one" [])) ∧
    Expr.read "title(data())".toList = .ok expr ∧ expr.Named ∧
      Session.SameUnder called
        (evaluate "page.tpl" 1 ((scope host).bindAll []) (expr.prefixed "last_"))
        (evaluate "page.tpl" 1 ((scope plain).bindAll []) expr) := by
  intro host called plain expr
  obtain ⟨dotted, spelled, other, whole, reads⟩ := calls_under_alias host called
  have nonempty : "title" ≠ "" := by decide
  have buffer : Operation.ofName? "buffer" = some .lastBuffer := by decide
  have lastBuffer : Operation.ofName? "last_buffer" = some .lastBuffer := by decide
  have undotted (plain : String) : plain ≠ "" → "last_one" ≠ "last_" ++ "." ++ plain := by
    intro _ same
    have := congrArg String.toList same
    simp at this
  have unspelled (plain : String) (named : (Operation.ofName? plain).isSome) :
      "last_one" ≠ "last_" ++ plain := by
    intro same
    have rest : plain = "one" := by
      rw [← String.toList_inj]
      simpa using (congrArg String.toList same).symm
    rw [rest] at named
    cases named
  have read : Expr.read "title(data())".toList = .ok expr := by cbv
  refine ⟨⟨nonempty, dotted _ _ nonempty⟩, ⟨buffer, (spelled _ _ _ buffer).1⟩,
    ⟨lastBuffer, (spelled _ _ _ lastBuffer).2.1⟩,
    ⟨undotted, unspelled, other _ _ undotted unspelled⟩, read, reads _ _ read,
    whole _ _ _ _ (reads _ _ read)⟩

end Page

end Folio
