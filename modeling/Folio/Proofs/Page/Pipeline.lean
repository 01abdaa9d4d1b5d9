import Folio.Page.Call
import Folio.Rehearsal
import Mathlib

namespace Folio

structure FilterStage where
  name : String
  args : List Value
  deriving Repr

/-- The stage that a segment of a pipeline stands for, with its place among all segments. -/
def FilterStage.at? (args : List (List Value)) (segment : String × Nat) : Option FilterStage :=
  let name := Text.trimString segment.1
  if name = "" then none else some ⟨name, args.getD segment.2 []⟩

/-- The stages of a pipeline. Each has the arguments at its place, none where the list of arguments
is too short. -/
def pipelineStages (pipeline : String) (args : List (List Value)) : List FilterStage :=
  (Text.splitString '|' pipeline).zipIdx.filterMap (FilterStage.at? args)

structure FilterCall where
  stage : FilterStage
  value : Value
  answer : Except Error Value

/-- What a call hands on to the next stage: its answer, or the value itself if the filter
declines. -/
def FilterCall.handedOn (call : FilterCall) : Except Error Value :=
  match call.answer with
  | .ok .null => .ok call.value
  | answer => answer

def Host.tracedFilters {σ : Type} (host : Host σ) : Host (σ × List FilterCall) where
  disk := host.disk
  find name state := ((host.find name state.1).1, (host.find name state.1).2, state.2)
  render name context := beside (host.render name context)
  renderLayout path context buffer := beside (host.renderLayout path context buffer)
  fire event state := (host.fire event state.1, state.2)
  note remark state := (host.note remark state.1, state.2)
  run name args := beside (host.run name args)
  filter name value args := Run.of fun state =>
    let ended := (host.filter name value args).eval state.1
    (ended.1, ended.2, state.2 ++ [⟨⟨name, args⟩, value, ended.1⟩])
  readSection state name := host.readSection state.1 name
  storeSection name content state := (host.storeSection name content state.1, state.2)
where
  beside {α : Type} (run : Run σ α) : Run (σ × List FilterCall) α :=
    Run.within Prod.fst (fun world state => (world, state.2)) run

/-- How a value goes through stages: the calls that are made, and what comes out. -/
structure Piped (stages : List FilterStage) (value : Value) (calls : List FilterCall)
    (result : Except Error Value) : Prop where
  order : calls.map FilterCall.stage <+: stages
  whole : ∀ output, result = .ok output → calls.map FilterCall.stage = stages
  first : ∀ call ∈ calls.head?, call.value = value
  /-- Every call but the last hands something on, with which the next one is made. -/
  next : calls.IsChain fun call next => call.handedOn = .ok next.value
  /-- What the last call hands on comes out; if it has failed, that is its error. -/
  ends : result = (calls.getLast?.map FilterCall.handedOn).getD (.ok value)

namespace Piped

variable {stages : List FilterStage} {calls : List FilterCall} {result : Except Error Value}

theorem done (value : Value) : Piped [] value [] (.ok value) where
  order := List.prefix_rfl
  whole _ _ := rfl
  first := by simp
  next := .nil
  ends := rfl

theorem handed {call : FilterCall} {next : Value} (on : call.handedOn = .ok next)
    (piped : Piped stages next calls result) :
    Piped (call.stage :: stages) call.value (call :: calls) result where
  order := List.cons_prefix_cons.mpr ⟨rfl, piped.order⟩
  whole output ok := by rw [List.map_cons, piped.whole output ok]
  first := by simp
  next := by
    refine List.isChain_cons.mpr ⟨fun following mem => ?_, piped.next⟩
    rw [on, piped.first following mem]
  ends := by
    rw [piped.ends, List.getLast?_cons]
    cases calls.getLast? with
    | none => exact on.symm
    | some last => rfl

theorem failed {call : FilterCall} {error : Error} (fault : call.handedOn = .error error) :
    Piped (call.stage :: stages) call.value [call] (.error error) where
  order := by simp
  whole output ok := by cases ok
  first := by simp
  next := .singleton call
  ends := fault.symm

end Piped

namespace Page

variable {σ : Type} (host : Host σ)

/-! ## Two pipelines in a row -/

/-- Stages after stages, if every one of the first has arguments at its place. -/
theorem runStages_append (stages more : List String) (value : Value) (a b : List (List Value))
    (places : a.length = stages.length) :
    runStages host value (stages ++ more) (a ++ b) = (do
      let between ← runStages host value stages a
      runStages host between more b) := by
  induction stages generalizing value a with
  | nil =>
    obtain rfl := List.eq_nil_of_length_eq_zero places
    rw [runStages, pure_bind]
    rfl
  | cons stage stages ih =>
    obtain ⟨own, a, rfl⟩ := List.exists_cons_of_length_eq_add_one places
    have places : a.length = stages.length := Nat.succ.inj places
    simp only [List.cons_append, runStages, List.tail_cons, List.headD_cons]
    split
    · exact ih value a places
    · rw [bind_assoc]
      congr 1
      funext filtered
      cases filtered with
      | null => exact ih value a places
      | _ => exact ih _ a places

/-- Two pipelines with a bar between them run one after the other, if the arguments of the second
one start where its segments start. -/
theorem filter_append (p q : String) (value : Value) (a b : List (List Value))
    (places : a.length = (Text.splitString '|' p).length) :
    filter host (p ++ "|" ++ q) value (a ++ b) = (do
      let between ← filter host p value a
      filter host q between b) := by
  have segments : Text.splitString '|' (p ++ "|" ++ q) =
      Text.splitString '|' p ++ Text.splitString '|' q := by
    simp [Text.splitString, Text.split_append_cons]
  rw [filter, segments]
  exact runStages_append host _ _ value a b places

/-! ## The calls of a pipeline -/

section
variable {host} {segment : String} {segments : List String} {args : List (List Value)}
  (call : FilterCall) {world after : σ}

theorem runStages_of_handed (named : Text.trimString segment ≠ "")
    (stage : call.stage = ⟨Text.trimString segment, args.headD []⟩)
    (answered : (host.filter call.stage.name call.value call.stage.args).eval world =
      (call.answer, after)) {next : Value} (on : call.handedOn = .ok next) :
    (runStages host call.value (segment :: segments) args).eval world =
      (runStages host next segments args.tail).eval after := by
  rw [stage] at answered
  simp only [runStages, if_neg named]
  rw [Run.eval_bind, answered]
  rw [FilterCall.handedOn] at on
  rcases answer : call.answer with error | value
  · rw [answer] at on
    cases on
  · rw [answer] at on
    cases value <;> cases on <;> rfl

theorem runStages_of_failed (named : Text.trimString segment ≠ "")
    (stage : call.stage = ⟨Text.trimString segment, args.headD []⟩)
    (answered : (host.filter call.stage.name call.value call.stage.args).eval world =
      (call.answer, after)) {error : Error} (fault : call.handedOn = .error error) :
    (runStages host call.value (segment :: segments) args).eval world = (.error error, after) := by
  rw [stage] at answered
  simp only [runStages, if_neg named]
  rw [Run.eval_bind, answered]
  rw [FilterCall.handedOn] at fault
  rcases answer : call.answer with error | value
  · rw [answer] at fault
    cases fault
    rfl
  · rw [answer] at fault
    cases value <;> cases fault

end

/-- The calls are those of the stages, and leave behind what they leave behind without the list. The
induction is on the segments that are left; `place` of them are done. -/
theorem runStages_piped (segments : List String) (args : List (List Value)) (place : Nat)
    (value : Value) (world : σ) (log : List FilterCall) :
    let ended := (runStages host value segments (args.drop place)).eval world
    ∃ calls, (runStages host.tracedFilters value segments (args.drop place)).eval (world, log) =
        (ended.1, ended.2, log ++ calls) ∧
      Piped ((segments.zipIdx place).filterMap (FilterStage.at? args)) value calls ended.1 := by
  induction segments generalizing place value world log with
  | nil => exact ⟨[], by simp [runStages], .done value⟩
  | cons segment segments ih =>
    rw [List.zipIdx_cons]
    by_cases blank : Text.trimString segment = ""
    · simp only [runStages, if_pos blank, List.tail_drop]
      rw [List.filterMap_cons_none (by simp [FilterStage.at?, blank])]
      exact ih (place + 1) value world log
    · let stage : FilterStage := ⟨Text.trimString segment, (args.drop place).headD []⟩
      have named : FilterStage.at? args (segment, place) = some stage := by
        simp [FilterStage.at?, blank, stage, List.headD_eq_head?_getD]
      rw [List.filterMap_cons_some named]
      cases answered : (host.filter stage.name value stage.args).eval world with
      | mk answer after =>
        let call : FilterCall := ⟨stage, value, answer⟩
        have traced : (host.tracedFilters.filter stage.name value stage.args).eval (world, log) =
            (call.answer, after, log ++ [call]) := by
          simp only [Host.tracedFilters, Run.eval_of, answered, call]
        cases on : call.handedOn with
        | ok next =>
          obtain ⟨calls, ran, piped⟩ := ih (place + 1) next after (log ++ [call])
          rw [runStages_of_handed call blank rfl answered on, List.tail_drop]
          refine ⟨call :: calls, ?_, piped.handed on⟩
          rw [runStages_of_handed call blank rfl traced on, List.tail_drop, ran, List.append_assoc]
          rfl
        | error error =>
          rw [runStages_of_failed call blank rfl answered on]
          refine ⟨[call], ?_, Piped.failed on⟩
          rw [runStages_of_failed call blank rfl traced on]

/-- Two pipelines in a row make the calls of both, one after the other. The calls of one pipeline
are those of its stages from left to right, each with what the one before it hands on. -/
theorem filter_in_stages :
    (∀ (p q : String) (value : Value) (a b : List (List Value)),
      a.length = (Text.splitString '|' p).length →
        filter host (p ++ "|" ++ q) value (a ++ b) =
          (do
            let between ← filter host p value a
            filter host q between b) ∧
        filter host.tracedFilters (p ++ "|" ++ q) value (a ++ b) =
          (do
            let between ← filter host.tracedFilters p value a
            filter host.tracedFilters q between b)) ∧
    ∀ (pipeline : String) (value : Value) (args : List (List Value)) (world : σ),
      let ended := (filter host pipeline value args).eval world
      ∃ calls, (filter host.tracedFilters pipeline value args).eval (world, []) =
          (ended.1, ended.2, calls) ∧
        Piped (pipelineStages pipeline args) value calls ended.1 := by
  refine ⟨fun p q value a b places => ⟨?_, ?_⟩, fun pipeline value args world => ?_⟩
  · exact filter_append host p q value a b places
  · exact filter_append host.tracedFilters p q value a b places
  · exact runStages_piped host _ args 0 value world []

/-- The first filter declines, the blank stage is left out, and the last filter has its own
arguments. -/
theorem filter_in_stages_declined :
    let host := Rehearsal.host { disk := default }
    let places : List (List Value) := [[.text "x"], []]
    places.length = (Text.splitString '|' "up| ").length ∧
    filter host ("up| " ++ "|" ++ "down") (.text "a") (places ++ [[.text "y"]]) = (do
      let between ← filter host "up| " (.text "a") places
      filter host "down" between [[.text "y"]]) ∧
    ((filter host ("up| " ++ "|" ++ "down") (.text "a") (places ++ [[.text "y"]])).eval
      { filterAnswers := [.null, .text "b"] }).1 = .ok (.text "b") := by
  intro host places
  have length : places.length = (Text.splitString '|' "up| ").length := by decide
  refine ⟨length, ?_, by cbv⟩
  exact ((filter_in_stages host).1 "up| " "down" (.text "a") places [[.text "y"]] length).1

end Page

end Folio
