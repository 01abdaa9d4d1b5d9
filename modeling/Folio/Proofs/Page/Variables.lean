import Folio.Proofs.Body.Expressions
import Folio.Proofs.Expr.Paths
import Folio.Proofs.Page.Lookup

/-! The variable of a loop is whatever stands between the two bars of its tag. The loop binds it,
but only an identifier that is no keyword is read back as a key. A tag with nothing but such a
variable writes the item; with any other one, it means the same as without the loop. -/

namespace Folio

theorem Text.cut?_eq_some_iff {sep : Char} {text before after : List Char} :
    cut? sep text = some (before, after) ↔ text = before ++ sep :: after ∧ sep ∉ before := by
  constructor
  · intro cut
    have whole := append_of_cut? cut
    refine ⟨whole.symm, cut?_eq_none_iff.mp ?_⟩
    rw [← whole, cut?_append] at cut
    cases again : cut? sep before with
    | none => rfl
    | some parts =>
      -- a separator before the first one would cut the text earlier
      rw [again] at cut
      simp only [Option.some.injEq, Prod.mk.injEq] at cut
      have shorter := append_of_cut? again
      rw [cut.1] at shorter
      simp at shorter
  · rintro ⟨rfl, free⟩
    rw [cut?_append, cut?_eq_none_iff.mpr free]

namespace Body

variable {σ : Type}

/-! ## What stands between the bars -/

/-- A list and a variable are what stands before and between the first two bars of a text, without
the white space around it. Neither may be empty, and nothing may follow. -/
def IsEachArgs (args : List Char) (key name : String) : Prop :=
  ∃ before between after, args = before ++ '|' :: (between ++ '|' :: after) ∧
    '|' ∉ before ∧ '|' ∉ between ∧ Text.trim before ≠ [] ∧ Text.trim between ≠ [] ∧
    Text.trim after = [] ∧ key = String.ofList (Text.trim before) ∧
    name = String.ofList (Text.trim between)

theorem eachArgs?_eq_some_iff {args : List Char} {key name : String} :
    eachArgs? args = some (key, name) ↔ IsEachArgs args key name := by
  constructor
  · intro h
    simp only [eachArgs?, Option.bind_eq_bind, Option.bind_eq_some_iff] at h
    obtain ⟨⟨before, rest⟩, first, ⟨between, after⟩, second, ⟨⟩, asked, same⟩ := h
    obtain ⟨rfl, free⟩ := Text.cut?_eq_some_iff.mp first
    obtain ⟨rfl, free'⟩ := Text.cut?_eq_some_iff.mp second
    have fine : Text.trim before ≠ [] ∧ Text.trim between ≠ [] ∧ Text.trim after = [] := by
      by_contra refused
      rw [guard, if_neg refused] at asked
      cases asked
    cases same
    exact ⟨before, between, after, rfl, free, free', fine.1, fine.2.1, fine.2.2, rfl, rfl⟩
  · rintro ⟨before, between, after, rfl, free, free', nonempty, nonempty', blank, rfl, rfl⟩
    have first : Text.cut? '|' (before ++ '|' :: (between ++ '|' :: after)) =
        some (before, between ++ '|' :: after) :=
      Text.cut?_eq_some_iff.mpr ⟨rfl, free⟩
    have second : Text.cut? '|' (between ++ '|' :: after) = some (between, after) :=
      Text.cut?_eq_some_iff.mpr ⟨rfl, free'⟩
    simp [eachArgs?, first, second, guard, nonempty, nonempty', blank]

/-- A name by which the variable of a loop can be looked up: an identifier that is no keyword. -/
structure IsVariable (name : String) : Prop where
  ident : Expr.IsIdent name.toList
  free : Expr.keyword? name = none

instance (name : String) : Decidable (IsVariable name) :=
  decidable_of_iff (Expr.IsIdent name.toList ∧ Expr.keyword? name = none)
    ⟨fun h => ⟨h.1, h.2⟩, fun h => ⟨h.ident, h.free⟩⟩

namespace IsVariable

variable {name : String} (h : IsVariable name)
include h

theorem isName : Expr.IsName name :=
  Expr.isName_of_keyword?_eq_none h.free
    (Expr.isWord_iff.mpr ⟨name.toList, [], (Expr.dotted_nil _).symm, h.ident, by simp⟩)

theorem read : Expr.read name.toList = .ok (.key name) := by
  have written : Expr.Written .free (.key name) name.toList := .key h.isName
  rw [Expr.read_padded written (.refl _), if_pos (Nat.le_of_ble_eq_true rfl)]

theorem keySegments : keySegments name = [name] := by
  have split := Expr.split_dotted (fun c mem => h.ident.chars mem) (List.forall_mem_nil _)
  rw [Expr.dotted_nil] at split
  rw [Folio.keySegments, Text.splitString, split, List.map_singleton, String.ofList_toList]

theorem kind {content : List Char} (only : Text.trim content = name.toList) :
    TagKind.ofContent content = .expression name.toList := by
  have written : Expr.Written .tag (.key name) name.toList := .key h.isName
  have alone := Expr.trim_padded written.opens written.closes (.refl _)
  have same : TagKind.ofContent content = TagKind.ofContent name.toList := by
    rw [TagKind.ofContent, TagKind.ofContent, only, alone]
  rw [same, Expr.kind_of_written written (.refl _)]

end IsVariable

/-! ## Scopes that find the same names -/

section
variable {left right : Scope σ} (path : Path) (line : Nat)

theorem evaluateAll_congr {items : List Expr}
    (each : ∀ item ∈ items, evaluate path line left item = evaluate path line right item) :
    evaluateAll path line left items = evaluateAll path line right items := by
  induction items with
  | nil => rw [evaluateAll, evaluateAll]
  | cons item items ih =>
    obtain ⟨first, each⟩ := List.forall_mem_cons.mp each
    rw [evaluateAll, evaluateAll, first, ih each]

theorem evaluateFields_congr {fields : List (String × Expr)}
    (each : ∀ field ∈ fields, evaluate path line left field.2 = evaluate path line right field.2) :
    evaluateFields path line left fields = evaluateFields path line right fields := by
  induction fields with
  | nil => rw [evaluateFields, evaluateFields]
  | cons field fields ih =>
    obtain ⟨first, each⟩ := List.forall_mem_cons.mp each
    rw [evaluateFields, evaluateFields, first, ih each]

/-- An expression is evaluated alike in scopes that make the same calls and find its names alike. -/
theorem evaluate_congr (calls : left.invoke = right.invoke) {expr : Expr}
    (found : ∀ name ∈ expr.names, left.ask name = right.ask name) :
    evaluate path line left expr = evaluate path line right expr := by
  induction expr using Expr.nestedInduction with
  | literal value => rw [evaluate, evaluate]
  | key name => rw [evaluate, evaluate, found name List.mem_cons_self]
  | list items ih =>
    have parts := Expr.forall_namesAll_iff.mp found
    rw [evaluate, evaluate,
      evaluateAll_congr path line fun item mem => ih item mem (parts item mem)]
  | object fields ih =>
    have parts := Expr.forall_namesFields_iff.mp found
    rw [evaluate, evaluate,
      evaluateFields_congr path line fun field mem => ih field mem (parts field mem)]
  | call name args ih =>
    have parts := Expr.forall_namesAll_iff.mp (List.forall_mem_cons.mp found).2
    rw [evaluate, evaluate, calls,
      evaluateAll_congr path line fun arg mem => ih arg mem (parts arg mem)]

end

/-! ## What a variable stands for -/

theorem read_of_keyword {name : String} {value : Value}
    (keyword : Expr.keyword? name = some value) :
    Expr.read name.toList = .ok (.literal value) := by
  simp only [Expr.keyword?] at keyword
  split at keyword
  · subst name
    cases keyword
    cbv
  · split at keyword
    · subst name
      cases keyword
      cbv
    · split at keyword
      · subst name
        cases keyword
        cbv
      · cases keyword

/-- Nothing that is read from a text which is no variable has a name that starts with the text. -/
theorem head_ne_of_not_isVariable {name : String} (other : ¬ IsVariable name) {expr : Expr}
    (read : Expr.read name.toList = .ok expr) :
    ∀ key ∈ expr.names, (keySegments key).head? ≠ some name := by
  intro key mem starts
  have named := Expr.isName_of_read read key mem
  obtain ⟨first, later, whole, ident, flats⟩ := Expr.isWord_iff.mp named.word
  rw [keySegments, Text.splitString, whole, Expr.split_dotted (fun c mem => ident.chars mem) flats]
    at starts
  -- the head of a name is an identifier, and so the text can only be a keyword
  cases starts
  have keyword : Expr.keyword? (String.ofList first) ≠ none := by
    intro free
    exact other ⟨by rwa [String.toList_ofList], free⟩
  obtain ⟨value, keyword⟩ := Option.ne_none_iff_exists'.mp keyword
  cases (read_of_keyword keyword).symm.trans read
  cases mem

theorem ask_bindAll_of_head_ne (scope : Scope σ) (locals : Locals) {name key : String}
    (other : (keySegments key).head? ≠ some name) (item : Value) :
    ((scope.bind name item).bindAll locals).ask key = (scope.bindAll locals).ask key := by
  induction locals with
  | nil =>
    rw [Scope.bindAll, Scope.bindAll, Scope.ask_bind]
    cases segments : keySegments key with
    | nil => rfl
    | cons head rest =>
      rw [segments, List.head?_cons, ne_eq, Option.some.injEq] at other
      exact if_neg other
  | cons bound outer ih => rw [Scope.bindAll, Scope.bindAll, Scope.ask_bind, Scope.ask_bind, ih]

section
variable (path : Path) (line : Nat) (scope : Scope σ) {name : String}

/-- The variable stands for the item, whatever it stands for outside the loop. Loops inside it that
have other variables leave it alone. -/
theorem evaluateSource_variable (h : IsVariable name) (item : Value) {locals : Locals}
    (others : ∀ bound ∈ locals, bound.1 ≠ name) :
    evaluateSource path line ((scope.bind name item).bindAll locals) name.toList = pure item := by
  have free : ∀ bound ∈ locals, (keySegments name).head? ≠ some bound.1 := by
    intro bound mem same
    rw [h.keySegments, List.head?_cons, Option.some.injEq] at same
    exact others bound mem same.symm
  have found : ((scope.bind name item).bindAll locals).ask name = pure (some item) := by
    rw [Scope.ask_bindAll_of_free _ free, Scope.ask_bind, h.keySegments]
    exact if_pos rfl
  rw [evaluateSource_of_read h.read, evaluate, found, pure_bind]

/-- Any other text that a loop has for its variable means the same with the loop and without it. -/
theorem evaluateSource_of_not_isVariable (other : ¬ IsVariable name) (item : Value)
    (locals : Locals) :
    evaluateSource path line ((scope.bind name item).bindAll locals) name.toList =
      evaluateSource path line (scope.bindAll locals) name.toList := by
  rw [evaluateSource, evaluateSource]
  cases read : Expr.read name.toList with
  | error error => rfl
  | ok expr =>
    have calls : ((scope.bind name item).bindAll locals).invoke =
        (scope.bindAll locals).invoke := by
      rw [Scope.invoke_bindAll, Scope.invoke_bindAll]
      rfl
    refine evaluate_congr path line calls fun key mem => ?_
    exact ask_bindAll_of_head_ne scope locals (head_ne_of_not_isVariable other read key mem) item

theorem eval_runBlock_each {args : List Char} {key : String} (inner : Scope σ → Run σ (List Char))
    (named : eachArgs? args = some (key, name)) {state : σ} {items : List Value}
    (bound : scope.lookup state key = some (.list items)) :
    (runBlock path line scope args inner .each).eval state =
      (List.flatten <$> items.mapM fun item => inner (scope.bind name item)).eval
        (scope.asked key state) := by
  have found : (loopItems path line scope key).eval state = (.ok items, scope.asked key state) := by
    rw [loopItems, Scope.ask, Run.eval_bind, Run.eval_of, bound]
    rfl
  simp only [runBlock, named]
  rw [Run.bind_of_ok found, map_eq_pure_bind]

end

/-- Loops and their variables. Any texts before and between two bars are taken for a list and a
variable, and a loop over a list executes its text for one item after the other. If the variable is
an identifier that is no keyword, a tag with nothing but the variable writes the item of the
innermost such loop. Otherwise what stands between the bars means the same as without the loop. -/
theorem loop_variables (path : Path) (line : Nat) (scope : Scope σ) (args : List Char)
    (inner : Scope σ → Run σ (List Char)) :
    (eachArgs? args = none → runBlock path line scope args inner .each =
      malformed path line (.eachArgs (String.ofList args))) ∧
    ∀ key name, (eachArgs? args = some (key, name) ↔ IsEachArgs args key name) ∧
      (eachArgs? args = some (key, name) →
        (∀ state items, scope.lookup state key = some (.list items) →
          (runBlock path line scope args inner .each).eval state =
            (List.flatten <$> items.mapM fun item => inner (scope.bind name item)).eval
              (scope.asked key state)) ∧
        (IsVariable name → ∀ item locals, (∀ bound ∈ locals, bound.1 ≠ name) →
          (∀ line, evaluateSource path line ((scope.bind name item).bindAll locals) name.toList =
            pure item) ∧
          ∀ text offset cursor tag tags, cursor ≤ tag.start → tag.isEscaped = false →
            Text.trim tag.content = name.toList →
            runTags path text offset ((scope.bind name item).bindAll locals) cursor (tag :: tags) =
              (do
                let shown ← output path name.toList item
                let after ← runTags path text offset ((scope.bind name item).bindAll locals)
                  tag.stop tags
                pure (lead text cursor tag ++ shown ++ after))) ∧
        (¬ IsVariable name → ∀ item locals line,
          evaluateSource path line ((scope.bind name item).bindAll locals) name.toList =
            evaluateSource path line (scope.bindAll locals) name.toList)) := by
  constructor
  · intro unnamed
    simp only [runBlock, unnamed]
  intro key name
  refine ⟨eachArgs?_eq_some_iff, fun named => ⟨?_, ?_, ?_⟩⟩
  · intro state items bound
    exact eval_runBlock_each path line scope inner named bound
  · intro isVariable item locals others
    have value := fun line => evaluateSource_variable path line scope isVariable item others
    refine ⟨value, ?_⟩
    intro text offset cursor tag tags ahead plain only
    rw [runTags_expression ahead plain (isVariable.kind only), shownSource, value, pure_bind]
  · intro other item locals line
    exact evaluateSource_of_not_isVariable path line scope other item locals

/-- A page with a list, and with fields of the names that loops over the list have for their
variables. -/
def fieldPage : Session Unit :=
  ⟨{ path := "t.tpl", context :=
    [("a", .object [("b", .text "outer")]), ("x", .text "outer"), ("xs", .list [.text "i"])] }, ()⟩

/-- The variable `x` hides the field of its name; the variable `a.b` hides nothing. -/
theorem loop_variables_fieldPage :
    let scope := Page.scope Page.bareHost
    let inner := runText "t.tpl" "\x7b\x7bx\x7d\x7d".toList 0
    (runBlock "t.tpl" 1 scope "xs |x|".toList inner .each).eval fieldPage =
      (List.flatten <$> [.text "i"].mapM fun item => inner (scope.bind "x" item)).eval fieldPage ∧
    evaluateSource "t.tpl" 1 ((scope.bind "x" (.text "i")).bindAll [("y", .null)]) ['x'] =
      pure (.text "i") ∧
    runTags "t.tpl" "\x7b\x7bx\x7d\x7d".toList 0 (scope.bind "x" (.text "i")) 0 [⟨0, ['x'], 0, 1⟩] =
      pure ['i'] ∧
    evaluateSource "t.tpl" 1 (scope.bind "a.b" (.text "i")) "a.b".toList =
      evaluateSource "t.tpl" 1 scope "a.b".toList := by
  intro scope inner
  have named : eachArgs? "xs |x|".toList = some ("xs", "x") := by cbv
  have dottedNamed : eachArgs? "xs |a.b|".toList = some ("xs", "a.b") := by cbv
  obtain ⟨-, accepts⟩ := loop_variables "t.tpl" 1 scope "xs |x|".toList inner
  obtain ⟨-, dotted⟩ := loop_variables "t.tpl" 1 scope "xs |a.b|".toList inner
  obtain ⟨runs, shows, -⟩ := (accepts "xs" "x").2 named
  obtain ⟨-, -, free⟩ := (dotted "xs" "a.b").2 dottedNamed
  have isVariable : IsVariable "x" := by decide
  have other : ¬ IsVariable "a.b" := by decide
  obtain ⟨value, -⟩ := shows isVariable (.text "i") [("y", .null)] (by decide)
  obtain ⟨-, writes⟩ := shows isVariable (.text "i") [] (List.forall_mem_nil _)
  refine ⟨runs fieldPage _ rfl, value 1, ?_, free other (.text "i") [] 1⟩
  have written := writes "\x7b\x7bx\x7d\x7d".toList 0 0 ⟨0, ['x'], 0, 1⟩ [] (Nat.le_refl _)
    (by decide) (by cbv)
  rw [Scope.bindAll] at written
  rw [written, runTags]
  rfl

def dottedLoop : List Piece :=
  [⟨[], "each xs |a.b|".toList⟩, ⟨[], "a.b".toList⟩, ⟨[], "/each".toList⟩]

/-- The tag of the loop is taken, but its text writes the field outside the loop. -/
theorem item_not_written :
    eachArgs? "xs |a.b|".toList = some ("xs", "a.b") ∧
    (execute "t.tpl" (String.ofList (joined dottedLoop [])) (Page.scope Page.bareHost)).eval
        fieldPage = (.ok "outer", fieldPage) := by
  have proper : ∀ piece ∈ dottedLoop, piece.Proper := by decide
  have field : Expr.read "a.b".toList = .ok (.key "a.b") := by cbv
  have opens : Piece.kind ⟨[], "each xs |a.b|".toList⟩ = .opening .each "xs |a.b|".toList := by cbv
  have shows : Piece.kind ⟨[], "a.b".toList⟩ = .expression "a.b".toList := by cbv
  have ends : cutBlock? .each 0 [⟨[], "a.b".toList⟩, ⟨[], "/each".toList⟩] =
      some ([⟨[], "a.b".toList⟩], ⟨[], "/each".toList⟩, []) := by
    cbv
  have args : eachArgs? "xs |a.b|".toList = some ("xs", "a.b") := by cbv
  refine ⟨args, ?_⟩
  rw [execute_joined proper (by simp [Untagged]) String.toList_ofList.symm, dottedLoop,
    runPieces_block rfl opens ends]
  simp only [runPieces_expression rfl shows, runBlock, args, loopItems, shownSource,
    evaluateSource, field, evaluate, runPieces, runTail, openBraces?]
  rfl

end Body

end Folio
