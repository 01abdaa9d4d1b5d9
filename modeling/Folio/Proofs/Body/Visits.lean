import Folio.Proofs.Body.Trace
import Folio.Proofs.Expr.Writing
import Mathlib

/-! An expression is a tree, and evaluating it visits every node after the parts of the node, from
left to right. The visits in that order are a program for a stack: the values of the parts lie on
top of it, and the visit puts the value of the node in their place. -/

namespace Folio

/-- The visit of a node of an expression, after its parts. -/
inductive Expr.Visit where
  | literal (value : Value)
  | key (key : String)
  | list (length : Nat)
  | object (names : List String)
  | call (name : String) (arity : Nat)
  deriving Repr

namespace Expr

mutual

/-- The nodes of an expression, every one after its parts, from left to right. -/
def visits : Expr → List Visit
  | .literal value => [.literal value]
  | .key name => [.key name]
  | .list items => visitsAll items ++ [.list items.length]
  | .object fields => visitsFields fields ++ [.object (fields.map Prod.fst)]
  | .call name args => visitsAll args ++ [.call name args.length]

def visitsAll : List Expr → List Visit
  | [] => []
  | item :: items => item.visits ++ visitsAll items

def visitsFields : List (String × Expr) → List Visit
  | [] => []
  | (_, item) :: fields => item.visits ++ visitsFields fields

end

theorem visitsFields_eq (fields : List (String × Expr)) :
    visitsFields fields = visitsAll (fields.map Prod.snd) := by
  induction fields with
  | nil => rfl
  | cons field fields ih => rw [visitsFields, ih, List.map_cons, visitsAll]

namespace Visit

/-- The call that a visit makes: its name and the number of its arguments. -/
def call? : Visit → Option (String × Nat)
  | .call name arity => some (name, arity)
  | _ => none

/-- How many values a visit takes from the stack. -/
def arity : Visit → Nat
  | .literal _ => 0
  | .key _ => 0
  | .list length => length
  | .object names => names.length
  | .call _ arity => arity

/-- How many values lie on the stack after a visit, if there were enough before. -/
def height? (height : Nat) (visit : Visit) : Option Nat :=
  if visit.arity ≤ height then some (height - visit.arity + 1) else none

end Visit

def heightAfter? (height : Nat) (visits : List Visit) : Option Nat :=
  visits.foldlM Visit.height? height

theorem heightAfter?_append (height : Nat) (visits more : List Visit) :
    heightAfter? height (visits ++ more) =
      (heightAfter? height visits).bind fun height => heightAfter? height more :=
  List.foldlM_append

theorem heightAfter?_visitsAll {items : List Expr}
    (each : ∀ item ∈ items, ∀ height, heightAfter? height item.visits = some (height + 1))
    (height : Nat) : heightAfter? height (visitsAll items) = some (height + items.length) := by
  induction items generalizing height with
  | nil => rfl
  | cons item items ih =>
    obtain ⟨first, rest⟩ := List.forall_mem_cons.mp each
    rw [visitsAll, heightAfter?_append, first, Option.bind_some, ih rest, List.length_cons]
    congr 1
    omega

/-- The parts of a node leave as many values as the visit of the node takes. -/
theorem heightAfter?_node {visits : List Visit} {visit : Visit} {height : Nat}
    (parts : heightAfter? height visits = some (height + visit.arity)) :
    heightAfter? height (visits ++ [visit]) = some (height + 1) := by
  rw [heightAfter?_append, parts]
  simp [heightAfter?, Visit.height?]

theorem heightAfter?_visits (expr : Expr) :
    ∀ height, heightAfter? height expr.visits = some (height + 1) := by
  induction expr using nestedInduction with
  | literal value =>
    simp [visits, heightAfter?, Visit.height?, Visit.arity]
  | key name =>
    simp [visits, heightAfter?, Visit.height?, Visit.arity]
  | list items each =>
    intro height
    rw [visits]
    apply heightAfter?_node
    rw [heightAfter?_visitsAll each, Visit.arity]
  | object fields each =>
    intro height
    rw [visits, visitsFields_eq]
    apply heightAfter?_node
    rw [heightAfter?_visitsAll (List.forall_mem_map.mpr each), Visit.arity, List.length_map,
      List.length_map]
  | call name args each =>
    intro height
    rw [visits]
    apply heightAfter?_node
    rw [heightAfter?_visitsAll each, Visit.arity]

end Expr

def Call.shape (call : Call) : String × Nat :=
  (call.name, call.args.length)

namespace Body

open Folio.Expr (Visit visitsAll visitsFields heightAfter?)

variable {σ : Type} (path : Path) (line : Nat) (scope : Scope σ)

/-- Visits a node. The values of its parts are on top of the stack, the last one first. -/
def visit (stack : List Value) : Visit → Run σ (List Value)
  | .literal value => pure (value :: stack)
  | .key key => do
    match ← scope.ask key with
    | some value => pure (value :: stack)
    | none => fail path (.undefined key line)
  | .list length => pure (.list (stack.take length).reverse :: stack.drop length)
  | .object names =>
    pure (.ofFields (names.zip (stack.take names.length).reverse) :: stack.drop names.length)
  | .call name arity => do
    let value ← scope.invoke name (stack.take arity).reverse
    pure (value :: stack.drop arity)

def visitAll (visits : List Visit) (stack : List Value) : Run σ (List Value) :=
  visits.foldlM (visit path line scope) stack

/-! ## The value of an expression -/

section
variable {path line scope}

theorem visitAll_append (visits more : List Visit) (stack : List Value) :
    visitAll path line scope (visits ++ more) stack =
      visitAll path line scope visits stack >>= visitAll path line scope more :=
  List.foldlM_append

theorem visitAll_single (node : Visit) (stack : List Value) :
    visitAll path line scope [node] stack = visit path line scope stack node := by
  simp [visitAll]

theorem length_of_evaluateAll {items : List Expr} {values : List Value} {state after : σ}
    (h : (evaluateAll path line scope items).eval state = (.ok values, after)) :
    values.length = items.length := by
  induction items generalizing values state with
  | nil =>
    rw [evaluateAll] at h
    cases h
    rfl
  | cons item items ih =>
    rw [evaluateAll] at h
    obtain ⟨value, between, -, h⟩ := Run.exists_of_bind_ok h
    obtain ⟨others, last, ran, h⟩ := Run.exists_of_bind_ok h
    cases h
    rw [List.length_cons, List.length_cons, ih ran]

theorem evaluateFields_eq (fields : List (String × Expr)) :
    evaluateFields path line scope fields = (do
      let values ← evaluateAll path line scope (fields.map Prod.snd)
      pure ((fields.map Prod.fst).zip values)) := by
  induction fields with
  | nil => simp [evaluateFields, evaluateAll]
  | cons field fields ih =>
    obtain ⟨name, item⟩ := field
    simp [evaluateFields, evaluateAll, ih]

/-- All fields of an object are evaluated, whatever their names. -/
theorem evaluate_object (fields : List (String × Expr)) :
    evaluate path line scope (.object fields) = (do
      let values ← evaluateAll path line scope (fields.map Prod.snd)
      pure (.ofFields ((fields.map Prod.fst).zip values))) := by
  rw [evaluate, evaluateFields_eq, bind_assoc]
  rfl

theorem visitAll_visitsAll {items : List Expr}
    (each : ∀ item ∈ items, ∀ stack, visitAll path line scope item.visits stack = (do
      let value ← evaluate path line scope item
      pure (value :: stack)))
    (stack : List Value) :
    visitAll path line scope (visitsAll items) stack = (do
      let values ← evaluateAll path line scope items
      pure (values.reverse ++ stack)) := by
  induction items generalizing stack with
  | nil => simp [visitsAll, visitAll, evaluateAll]
  | cons item items ih =>
    obtain ⟨first, rest⟩ := List.forall_mem_cons.mp each
    rw [visitsAll, visitAll_append, first, evaluateAll]
    simp [ih rest]

/-- A node takes the values of its parts from the stack. -/
theorem visitAll_node {items : List Expr} {node : Visit} {take : List Value → Run σ Value}
    (each : ∀ item ∈ items, ∀ stack, visitAll path line scope item.visits stack = (do
      let value ← evaluate path line scope item
      pure (value :: stack)))
    (takes : ∀ (values stack : List Value), values.length = items.length →
      visit path line scope (values.reverse ++ stack) node = (do
        let value ← take values
        pure (value :: stack)))
    (stack : List Value) :
    visitAll path line scope (visitsAll items ++ [node]) stack = (do
      let value ← evaluateAll path line scope items >>= take
      pure (value :: stack)) := by
  rw [visitAll_append, visitAll_visitsAll each, bind_assoc, bind_assoc]
  apply Run.bind_congr
  intro state values after ran
  rw [pure_bind, visitAll_single, takes values stack (length_of_evaluateAll ran)]

/-- The visits of an expression leave its value on the stack, and do what evaluating it does. -/
theorem visitAll_visits (expr : Expr) : ∀ stack : List Value,
    visitAll path line scope expr.visits stack = (do
      let value ← evaluate path line scope expr
      pure (value :: stack)) := by
  induction expr using Expr.nestedInduction with
  | literal value =>
    intro stack
    rw [Expr.visits, visitAll_single, evaluate, pure_bind, visit]
  | key name =>
    intro stack
    rw [Expr.visits, visitAll_single, evaluate, bind_assoc, visit]
    congr 1
    funext found
    cases found <;> rfl
  | list items each =>
    intro stack
    rw [Expr.visits, evaluate]
    apply visitAll_node each
    intro values stack length
    simp [visit, ← length]
  | object fields each =>
    intro stack
    rw [Expr.visits, Expr.visitsFields_eq, evaluate_object]
    apply visitAll_node (List.forall_mem_map.mpr each)
    intro values stack length
    rw [List.length_map] at length
    simp [visit, ← length]
  | call name args each =>
    intro stack
    rw [Expr.visits, evaluate]
    apply visitAll_node each
    intro values stack length
    simp [visit, ← length]

end

/-! ## The calls of an expression -/

theorem eval_visit_key (stack : List Value) (state : σ) (calls : List Call) (key : String) :
    (visit path line scope.traced stack (.key key)).eval (state, calls) =
      ((scope.lookup state key).elim (.error (.body path (.undefined key line)))
        (fun value => .ok (value :: stack)), scope.asked key state, calls) := by
  rw [visit, Run.eval_bind]
  simp only [Scope.ask, Scope.traced, Run.eval_of]
  cases scope.lookup state key <;> rfl

theorem eval_visit_call {stack args : List Value} {state last : σ} {name : String} {arity : Nat}
    {result : Except Error Value} (top : (stack.take arity).reverse = args)
    (answered : (scope.invoke name args).eval state = (result, last)) (calls : List Call) :
    (visit path line scope.traced stack (.call name arity)).eval (state, calls) =
      (result.map fun value => value :: stack.drop arity, last, calls ++ [⟨name, args⟩]) := by
  rw [visit, top, Run.eval_bind]
  simp only [Scope.traced, Run.eval_of, answered]
  cases result <;> rfl

/-- Some nodes have been visited: the stack and the state that are left, and the calls that have
been made, one for every call among the nodes. -/
structure Visited (visits : List Visit) (state : σ) (stack : List Value) (after : σ)
    (calls : List Call) : Prop where
  ran : (visitAll path line scope.traced visits []).eval (state, []) = (.ok stack, after, calls)
  made : calls.map Call.shape = visits.filterMap Visit.call?
  height : heightAfter? 0 visits = some stack.length

/-- How visiting some nodes ends, with which state, and after which calls. -/
inductive InOrder (visits : List Visit) (state : σ) :
    Except Error (List Value) → σ → List Call → Prop
  | whole {stack : List Value} {after : σ} {calls : List Call} :
      Visited path line scope visits state stack after calls →
      InOrder visits state (.ok stack) after calls
  | undefined {done rest : List Visit} {key : String} {stack : List Value} {between : σ}
      {calls : List Call} :
      visits = done ++ .key key :: rest →
      Visited path line scope done state stack between calls → scope.lookup between key = none →
      InOrder visits state (.error (.body path (.undefined key line))) (scope.asked key between)
        calls
  /-- A call fails; its arguments are the values on top of the stack. -/
  | refused {done rest : List Visit} {name : String} {args stack : List Value} {between after : σ}
      {calls : List Call} {error : Error} :
      visits = done ++ .call name args.length :: rest →
      Visited path line scope done state (args.reverse ++ stack) between calls →
      (scope.invoke name args).eval between = (.error error, after) →
      InOrder visits state (.error error) after (calls ++ [⟨name, args⟩])

section
variable {path line scope} {visits more : List Visit} {state after : σ} {stack : List Value}
  {calls : List Call}

theorem InOrder.append {error : Error}
    (h : InOrder path line scope visits state (.error error) after calls) (more : List Visit) :
    InOrder path line scope (visits ++ more) state (.error error) after calls := by
  cases h with
  | undefined split visited missing =>
    exact .undefined (by rw [split, List.append_assoc, List.cons_append]) visited missing
  | refused split visited failed =>
    exact .refused (by rw [split, List.append_assoc, List.cons_append]) visited failed

theorem Visited.concat (visited : Visited path line scope visits state stack after calls)
    {node : Visit} {above : List Value} {last : σ} {added later : List Call}
    (ran : (Body.visit path line scope.traced stack node).eval (after, calls) =
      (.ok above, last, later)) (log : later = calls ++ added)
    (made : added.map Call.shape = node.call?.toList)
    (height : node.height? stack.length = some above.length) :
    Visited path line scope (visits ++ [node]) state above last later where
  ran := by
    rw [visitAll_append, Run.bind_of_ok visited.ran, visitAll_single, ran]
  made := by
    rw [log, List.map_append, visited.made, made, List.filterMap_append]
    cases call : node.call? <;> simp [call]
  height := by
    rw [Expr.heightAfter?_append, visited.height, Option.bind_some]
    simpa [heightAfter?] using height

theorem Visited.visit (visited : Visited path line scope visits state stack after calls)
    {node : Visit} (enough : node.arity ≤ stack.length) :
    let ended := (Body.visit path line scope.traced stack node).eval (after, calls)
    InOrder path line scope (visits ++ [node]) state ended.1 ended.2.1 ended.2.2 := by
  have height (value : Value) :
      node.height? stack.length = some (value :: stack.drop node.arity).length := by
    rw [Visit.height?, if_pos enough, List.length_cons, List.length_drop]
  have log : calls = calls ++ [] := (List.append_nil calls).symm
  cases node with
  | literal value => exact .whole (visited.concat rfl log rfl (height value))
  | list length => exact .whole (visited.concat rfl log rfl (height _))
  | object names => exact .whole (visited.concat rfl log rfl (height _))
  | key name =>
    have ran := eval_visit_key path line scope stack after calls name
    cases found : scope.lookup after name with
    | none =>
      rw [found] at ran
      rw [ran]
      exact .undefined rfl visited found
    | some value =>
      rw [found] at ran
      rw [ran]
      exact .whole (visited.concat ran log rfl (height value))
  | call name arity =>
    let args := (stack.take arity).reverse
    have length : args.length = arity := by
      rw [List.length_reverse, List.length_take]
      exact Nat.min_eq_left enough
    cases answered : (scope.invoke name args).eval after with
    | mk result last =>
      have ran := eval_visit_call path line scope rfl answered calls
      rw [ran]
      cases result with
      | error error =>
        have split : visits ++ [.call name arity] = visits ++ .call name args.length :: [] := by
          rw [length]
        have below : stack = args.reverse ++ stack.drop arity := by
          rw [List.reverse_reverse, List.take_append_drop]
        rw [below] at visited
        exact .refused split visited answered
      | ok value =>
        have made : [Call.mk name args].map Call.shape = [(name, arity)] := by
          rw [List.map_singleton, Call.shape, length]
        exact .whole (visited.concat ran rfl made (height value))

/-- Visiting nodes stops at the first one that fails, if there are always enough values. The
induction is on the nodes from the last one on. -/
theorem inOrder_visitAll {height : Nat} (fits : heightAfter? 0 visits = some height) (state : σ) :
    let ended := (visitAll path line scope.traced visits []).eval (state, [])
    InOrder path line scope visits state ended.1 ended.2.1 ended.2.2 := by
  induction visits using List.reverseRecOn generalizing height with
  | nil => exact .whole ⟨rfl, rfl, rfl⟩
  | append_singleton done node ih =>
    rw [Expr.heightAfter?_append] at fits
    obtain ⟨before, fits, enough⟩ := Option.bind_eq_some_iff.mp fits
    have earlier := ih fits
    rw [visitAll_append]
    cases ran : (visitAll path line scope.traced done []).eval (state, []) with
    | mk result rest =>
      obtain ⟨between, calls⟩ := rest
      rw [ran] at earlier
      cases earlier with
      | undefined split visited missing =>
        rw [Run.bind_of_error ran]
        exact InOrder.append (.undefined split visited missing) [node]
      | refused split visited failed =>
        rw [Run.bind_of_error ran]
        exact InOrder.append (.refused split visited failed) [node]
      | whole visited =>
        rw [visited.height, Option.some.injEq] at fits
        subst fits
        rw [Run.bind_of_ok ran, visitAll_single]
        apply visited.visit
        by_contra short
        simp [heightAfter?, Visit.height?, short] at enough

end

theorem evaluate_traced (expr : Expr) (state : σ) (calls : List Call) :
    let ended := (evaluate path line scope.traced expr).eval (state, calls)
    (evaluate path line scope expr).eval state = (ended.1, ended.2.1) := by
  have alike := Bond.evaluate scope.traced_alike path line expr (state, calls) state rfl
  obtain ⟨result, after⟩ := alike.of_no_excuse
  exact (Prod.ext result after).symm

/-- Evaluating an expression does what visiting its nodes in order does, and leaves its value on the
stack. So it makes every call of the expression once, after the calls among the arguments and with
their values; the first key that is undefined and the first call that fails end it. An object
literal evaluates all its fields, and of several fields of one name the last counts. -/
theorem evaluate_in_order (expr : Expr) :
    (∀ stack : List Value, visitAll path line scope expr.visits stack = (do
      let value ← evaluate path line scope expr
      pure (value :: stack))) ∧
    (∀ state : σ,
      let ended := (evaluate path line scope.traced expr).eval (state, [])
      (evaluate path line scope expr).eval state = (ended.1, ended.2.1) ∧
      InOrder path line scope expr.visits state (ended.1.map fun value => [value]) ended.2.1
        ended.2.2) ∧
    ∀ fields : List (String × Expr),
      evaluate path line scope (.object fields) = (do
        let values ← evaluateAll path line scope (fields.map Prod.snd)
        pure (.object (Fields.ofList ((fields.map Prod.fst).zip values)))) ∧
      ∀ (values : List Value) (name : String),
        (Fields.ofList ((fields.map Prod.fst).zip values)).get? name =
          ((fields.map Prod.fst).zip values).reverse.lookup name := by
  refine ⟨visitAll_visits expr, fun state => ⟨?_, ?_⟩, fun fields => ⟨?_, fun values name => ?_⟩⟩
  · exact evaluate_traced path line scope expr state []
  · have order : let ended := (visitAll path line scope.traced expr.visits []).eval (state, [])
        InOrder path line scope expr.visits state ended.1 ended.2.1 ended.2.2 :=
      inOrder_visitAll (expr.heightAfter?_visits 0) state
    rw [visitAll_visits, ← map_eq_pure_bind, Run.eval_map] at order
    exact order
  · exact evaluate_object fields
  · exact Fields.get?_ofList _ name

end Body

end Folio
