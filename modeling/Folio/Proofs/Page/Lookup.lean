import Folio.Proofs.Page.Aliases
import Folio.Proofs.Page.Layout
import Mathlib

/-! A key in an expression is looked up in the loops around it, and then in the data that is bound
to the page. The call `get` is passed on by all loops to the page, which looks its key up in that
data alone. So both find the same unless the key starts with the variable of a loop. -/

namespace Folio

open Body

/-! ## Keys inside loops -/

/-- A key that starts with the variable of a loop leads on from the item of the innermost such loop.
All other keys are looked up outside the loops. -/
theorem Scope.ask_bindAll {σ : Type} (scope : Scope σ) (locals : Locals) {key head : String}
    {rest : List String} (segments : keySegments key = head :: rest) :
    (scope.bindAll locals).ask key =
      match locals.lookup head with
      | some item => pure (item.resolve? rest)
      | none => scope.ask key := by
  induction locals with
  | nil => rfl
  | cons bound outer ih =>
    obtain ⟨name, item⟩ := bound
    simp only [bindAll, Scope.ask_bind, segments]
    by_cases same : head = name
    · rw [if_pos same, List.lookup_cons, beq_iff_eq.mpr same]
    · rw [if_neg same, ih, List.lookup_cons, beq_eq_false_iff_ne.mpr same]

theorem Scope.ask_bindAll_of_free {σ : Type} (scope : Scope σ) {locals : Locals} {key : String}
    (free : ∀ bound ∈ locals, (keySegments key).head? ≠ some bound.1) :
    (scope.bindAll locals).ask key = scope.ask key := by
  cases segments : keySegments key with
  | nil => exact absurd (List.map_eq_nil_iff.mp segments) (Text.split_ne_nil '.' key.toList)
  | cons head rest =>
    have unbound : locals.lookup head = none := by
      rw [List.lookup_eq_none_iff]
      intro bound mem
      have other := free bound mem
      rw [segments, List.head?_cons, ne_eq, Option.some.injEq] at other
      exact bne_iff_ne.mpr other
    rw [scope.ask_bindAll locals segments, unbound]

namespace Body

def keyResult (path : Path) (line : Nat) (key : String) : Option Value → Except Error Value
  | some value => .ok value
  | none => .error (.body path (.undefined key line))

theorem eval_evaluate_key {σ : Type} (path : Path) (line : Nat) (scope : Scope σ) (key : String)
    (state : σ) : (evaluate path line scope (.key key)).eval state =
      (keyResult path line key (scope.lookup state key), scope.asked key state) := by
  rw [evaluate, Run.eval_bind, Scope.ask, Run.eval_of]
  cases scope.lookup state key <;> rfl

end Body

/-! ## The data of a page -/

namespace Page

variable {σ : Type} (host : Host σ)

/-- Nothing that a body does changes the data of its page. -/
theorem context_collect (session : Session σ) :
    ((collect host).eval session).2.page.context = session.page.context :=
  Session.context_of_keepsRest (keepsRest_calls host).collect session

/-- The call `get` gives what its key leads to in the data of the page, or else what it is given. -/
theorem eval_dispatch_get (key : String) (args : List Value) (session : Session σ) :
    (dispatch host "get" (.text key :: args)).eval session =
      (.ok ((session.page.get? key).getD (argument args 0)), session) := by
  have called : Operation.ofName? (callName session.page "get") = some .get :=
    session.page.ofName?_callName (by decide)
  rw [eval_dispatch_operation host called]
  rfl

theorem eval_evaluate_get (path : Path) (line : Nat) (locals : Locals) (key : String)
    (args : List Expr) (session : Session σ) :
    (evaluate path line ((scope host).bindAll locals)
        (.call "get" (.literal (.text key) :: args))).eval session =
      ((fun values => (session.page.get? key).getD (argument values 0)) <$>
        evaluateAll path line ((scope host).bindAll locals) args).eval session := by
  have scopes := (keepsRest_calls host).scopes.bindAll locals
  have kept :=
    Session.context_of_keepsRest (Bond.evaluateAll scopes path line args) session
  rw [evaluate, evaluateAll, evaluate, Run.eval_map]
  simp only [pure_bind, bind_assoc, Scope.invoke_bindAll]
  rw [Run.eval_bind]
  rcases ended : (evaluateAll path line ((scope host).bindAll locals) args).eval session with
    ⟨error | values, after⟩
  · rfl
  · rw [ended] at kept
    have same : after.page.get? key = session.page.get? key :=
      congrArg (Fields.resolve? · key) kept
    simp only [Page.scope]
    rw [eval_dispatch_get, same]
    rfl

/-- What the call `get` gives at a place in a body, inside any loops. It gives the value that the
key has outside all loops, or else, exactly if the key is not defined there, its next argument, or
null. The key itself ends in the same way at that place, unless it starts with the variable of a
loop around it. -/
theorem get_agrees (path : Path) (line : Nat) (locals : Locals) (key : String) (args : List Expr)
    (session : Session σ) : ∃ found : Option Value,
      (evaluate path line (scope host) (.key key)).eval session =
        (keyResult path line key found, session) ∧
      (evaluate path line ((scope host).bindAll locals)
          (.call "get" (.literal (.text key) :: args))).eval session =
        ((fun values => found.getD (argument values 0)) <$>
          evaluateAll path line ((scope host).bindAll locals) args).eval session ∧
      ((∀ bound ∈ locals, (keySegments key).head? ≠ some bound.1) →
        (evaluate path line ((scope host).bindAll locals) (.key key)).eval session =
          (keyResult path line key found, session)) := by
  have outside : (evaluate path line (scope host) (.key key)).eval session =
      (keyResult path line key (session.page.get? key), session) :=
    eval_evaluate_key path line (scope host) key session
  refine ⟨session.page.get? key, outside, ?_, fun free => ?_⟩
  · exact eval_evaluate_get host path line locals key args session
  · rw [← outside, evaluate, evaluate, Scope.ask_bindAll_of_free (scope host) free]

/-! ## A loop with both -/

def bareHost : Host Unit where
  disk := ⟨.folder [], []⟩
  find _ world := (none, world)
  render name _ := Run.fail (.templateNotFound name)
  renderLayout _ _ buffer := pure buffer
  fire _ world := world
  note _ world := world
  run name _ := Run.fail (.helperNotFound name)
  filter name _ _ := Run.fail (.filterNotFound name)
  readSection _ _ := none
  storeSection _ _ world := world

def itemPage : Session Unit :=
  ⟨{ path := "page.tpl", context := [("xs", .list [.text "a"])] }, ()⟩

theorem get_agrees_itemPage : ∃ found : Option Value,
    (evaluate "page.tpl" 1 (scope bareHost) (.key "xs.0")).eval itemPage =
      (keyResult "page.tpl" 1 "xs.0" found, itemPage) ∧
    (evaluate "page.tpl" 1 ((scope bareHost).bindAll [("x", .text "a")])
        (.call "get" [.literal (.text "xs.0"), .literal (.text "d")])).eval itemPage =
      (.ok (found.getD (.text "d")), itemPage) ∧
    (evaluate "page.tpl" 1 ((scope bareHost).bindAll [("x", .text "a")]) (.key "xs.0")).eval
        itemPage =
      (keyResult "page.tpl" 1 "xs.0" found, itemPage) := by
  obtain ⟨found, outside, called, inside⟩ := get_agrees bareHost "page.tpl" 1 [("x", .text "a")]
    "xs.0" [.literal (.text "d")] itemPage
  refine ⟨found, outside, ?_, inside (by decide)⟩
  rw [called]
  simp only [evaluateAll, evaluate]
  rfl

/-- A loop that writes its variable, and what `get` gives for the same key. -/
def itemLoop : List Piece :=
  [⟨[], "each xs |x|".toList⟩, ⟨[], ['x']⟩, ⟨[' '], "get('x', 'd')".toList⟩,
    ⟨[], "/each".toList⟩]

/-- The variable of a loop is not in the data of the page. -/
theorem get_not_item :
    (execute "page.tpl" (String.ofList (joined itemLoop [])) (scope bareHost)).eval itemPage =
      (.ok "a d", itemPage) := by
  have proper : ∀ piece ∈ itemLoop, piece.Proper := by decide
  have item : Expr.read ['x'] = .ok (.key "x") := by cbv
  have call : Expr.read "get('x', 'd')".toList =
      .ok (.call "get" [.literal (.text "x"), .literal (.text "d")]) := by cbv
  have opens : Piece.kind ⟨[], "each xs |x|".toList⟩ = .opening .each "xs |x|".toList := by cbv
  have shows : Piece.kind ⟨[], ['x']⟩ = .expression ['x'] := by cbv
  have calls : Piece.kind ⟨[' '], "get('x', 'd')".toList⟩ =
      .expression "get('x', 'd')".toList := by cbv
  have ends : cutBlock? .each 0 [⟨[], ['x']⟩, ⟨[' '], "get('x', 'd')".toList⟩,
      ⟨[], "/each".toList⟩] =
      some ([⟨[], ['x']⟩, ⟨[' '], "get('x', 'd')".toList⟩], ⟨[], "/each".toList⟩, []) := by
    cbv
  have args : eachArgs? "xs |x|".toList = some ("xs", "x") := by cbv
  rw [execute_joined proper (by simp [Untagged]) String.toList_ofList.symm, itemLoop,
    runPieces_block rfl opens ends]
  simp only [runPieces_expression rfl shows, runPieces_expression rfl calls, runBlock, args,
    loopItems, shownSource, evaluateSource, item, call, evaluate, evaluateAll, runPieces, runTail,
    openBraces?]
  rfl

end Page

end Folio
