import Folio.Proofs.Page.Lookup
import Mathlib

namespace Folio

inductive ArgKind where
  | text
  | context
  | stages
  deriving DecidableEq, Repr

namespace ArgKind

/-- Whether an argument is of the kind. A text has to be given; in place of an object or of a list
there may be null or nothing. -/
def accepts : ArgKind → Option Value → Bool
  | .text, some (.text _) => true
  | .context, none | .context, some .null | .context, some (.object _) => true
  | .stages, none | .stages, some .null | .stages, some (.list _) => true
  | _, _ => false

/-- What is wrong with an argument that is not of the kind; one that is not given counts as null. -/
def fault (kind : ArgKind) (position : Nat) (value : Value) : CallFault :=
  match kind, value with
  | .text, .null => .missing position
  | .text, value => .notText position value
  | .context, value => .notObject position value
  | .stages, value => .notStages position value

abbrev Read : ArgKind → Type
  | .text => String
  | .context => Fields
  | .stages => List (List Value)

def read : (kind : ArgKind) → Operation → List Value → Nat → Except Error kind.Read
  | .text => Page.textArg
  | .context => Page.contextArg
  | .stages => Page.stagesArg

theorem read_cases (kind : ArgKind) (operation : Operation) (args : List Value) (position : Nat) :
    if kind.accepts args[position]? then ∃ value, kind.read operation args position = .ok value
    else kind.read operation args position =
      .error (.invalidCall operation (kind.fault position (Page.argument args position))) := by
  have counts : Page.argument args position = args[position]?.getD .null := rfl
  cases given : args[position]? with
  | none =>
    rw [given] at counts
    cases kind <;>
      simp [read, Page.textArg, Page.contextArg, Page.stagesArg, counts, accepts, fault,
        Page.invalid]
  | some value =>
    rw [given] at counts
    cases kind <;> cases value <;>
      simp [read, Page.textArg, Page.contextArg, Page.stagesArg, counts, accepts, fault,
        Page.invalid]

end ArgKind

def CallFault.position : CallFault → Nat
  | .missing position | .notText position _ | .notObject position _ | .notStages position _ =>
    position

@[simp] theorem ArgKind.position_fault (kind : ArgKind) (position : Nat) (value : Value) :
    (kind.fault position value).position = position := by
  cases kind <;> cases value <;> rfl

/-- The text of a fault says which argument is at fault, counted from one. -/
theorem CallFault.message_position (fault : CallFault) :
    ∃ what, fault.message = "argument " ++ toString (fault.position + 1) ++ what := by
  cases fault with
  | missing position => exact ⟨_, rfl⟩
  | notText position value => exact ⟨_, String.append_assoc⟩
  | notObject position value => exact ⟨_, String.append_assoc⟩
  | notStages position value => exact ⟨_, String.append_assoc⟩

namespace Operation

/-- The arguments that have to be of a kind, by position. All others may be anything. -/
def takes : Operation → List (Nat × ArgKind)
  | .filter => [(0, .text), (2, .stages)]
  | .layout | .supply | .get => [(0, .text)]
  | .insert | .insertIf => [(0, .text), (1, .context)]
  | .lastBuffer | .data => []

theorem takes_sorted (operation : Operation) :
    operation.takes.Pairwise fun earlier later => earlier.1 < later.1 := by
  cases operation <;> simp [takes]

def check (operation : Operation) (args : List Value) : List (Nat × ArgKind) → Except Error Unit
  | [] => .ok ()
  | (position, kind) :: rest =>
    match kind.read operation args position with
    | .ok _ => check operation args rest
    | .error error => .error error

variable {operation : Operation} {args : List Value}

theorem check_of_accepts {taken : List (Nat × ArgKind)}
    (accepted : ∀ arg ∈ taken, arg.2.accepts args[arg.1]? = true) :
    operation.check args taken = .ok () := by
  induction taken with
  | nil => rfl
  | cons arg rest ih =>
    obtain ⟨position, kind⟩ := arg
    have read := kind.read_cases operation args position
    rw [if_pos (accepted _ List.mem_cons_self)] at read
    obtain ⟨value, read⟩ := read
    simp only [check, read]
    exact ih fun arg member => accepted arg (List.mem_cons_of_mem _ member)

/-- The argument at the position is refused, and all that the operation takes before it are
accepted. -/
structure RefusesFirst (taken : List (Nat × ArgKind)) (args : List Value) (position : Nat)
    (kind : ArgKind) : Prop where
  takes : (position, kind) ∈ taken
  refuses : kind.accepts args[position]? = false
  first : ∀ earlier ∈ taken, earlier.1 < position → earlier.2.accepts args[earlier.1]? = true

theorem exists_first {taken : List (Nat × ArgKind)}
    (sorted : taken.Pairwise fun earlier later => earlier.1 < later.1)
    (refused : ∃ arg ∈ taken, arg.2.accepts args[arg.1]? = false) :
    ∃ position kind, RefusesFirst taken args position kind := by
  induction taken with
  | nil => simp at refused
  | cons arg rest ih =>
    obtain ⟨before, sorted⟩ := List.pairwise_cons.mp sorted
    by_cases accepted : arg.2.accepts args[arg.1]? = true
    · obtain ⟨found, member, refuses⟩ := refused
      have later : found ∈ rest := by
        rcases List.mem_cons.mp member with rfl | later
        · simp [accepted] at refuses
        · exact later
      obtain ⟨position, kind, takes, refuses, first⟩ := ih sorted ⟨found, later, refuses⟩
      refine ⟨position, kind, List.mem_cons_of_mem _ takes, refuses, ?_⟩
      intro earlier member
      rcases List.mem_cons.mp member with rfl | member
      · exact fun _ => accepted
      · exact first earlier member
    · refine ⟨arg.1, arg.2, List.mem_cons_self, by simpa using accepted, ?_⟩
      intro earlier member sooner
      rcases List.mem_cons.mp member with rfl | member
      · omega
      · have later := before earlier member
        omega

/-- Of several arguments that are not of their kinds the first one is told of. The induction is on
the arguments that are still to be read. -/
theorem check_of_first {taken : List (Nat × ArgKind)} {position : Nat} {kind : ArgKind}
    (sorted : taken.Pairwise fun earlier later => earlier.1 < later.1)
    (refused : RefusesFirst taken args position kind) :
    operation.check args taken =
      .error (.invalidCall operation (kind.fault position (Page.argument args position))) := by
  obtain ⟨takes, refuses, first⟩ := refused
  induction taken with
  | nil => cases takes
  | cons arg rest ih =>
    obtain ⟨position', kind'⟩ := arg
    obtain ⟨before, sorted⟩ := List.pairwise_cons.mp sorted
    have read := kind'.read_cases operation args position'
    rcases List.mem_cons.mp takes with same | later
    · cases same
      rw [if_neg (by simp [refuses])] at read
      simp only [check, read]
    · rw [if_pos (first _ List.mem_cons_self (before _ later))] at read
      obtain ⟨value, read⟩ := read
      simp only [check, read]
      exact ih sorted later fun earlier member => first earlier (List.mem_cons_of_mem _ member)

end Operation

/-- The host has failed to render a page or to run a filter, with that error. -/
inductive Host.Fails {σ : Type} (host : Host σ) (error : Error) (world : σ) : Prop
  | render {name : String} {context : Fields} {before : σ} :
      (host.render name context).eval before = (.error error, world) → Fails host error world
  | filter {stage : String} {value : Value} {args : List Value} {before : σ} :
      (host.filter stage value args).eval before = (.error error, world) → Fails host error world

namespace Page

variable {σ : Type} {host : Host σ} {operation : Operation} {args : List Value}
  {session ended : Session σ} {error : Error}

/-! ## Arguments that are refused -/

section
variable {β : Type} {position : Nat} {rest : List (Nat × ArgKind)}

/-- If the check fails, so does a run that reads the same arguments. -/
theorem eval_read_of_error (kind : ArgKind) {next : kind.Read → Run (Session σ) β}
    (h : operation.check args ((position, kind) :: rest) = .error error)
    (later : ∀ value, operation.check args rest = .error error →
      (next value).eval session = (.error error, session)) :
    (Run.ofExcept (kind.read operation args position) >>= next).eval session =
      (.error error, session) := by
  rw [Operation.check] at h
  cases read : kind.read operation args position with
  | ok value =>
    rw [read] at h
    exact later value h
  | error found =>
    rw [read] at h
    cases h
    rfl

theorem exists_of_read (kind : ArgKind) {next : kind.Read → Run (Session σ) β}
    {result : Except Error β × Session σ}
    (h : operation.check args ((position, kind) :: rest) = .ok ())
    (ran : (Run.ofExcept (kind.read operation args position) >>= next).eval session = result) :
    ∃ value, operation.check args rest = .ok () ∧ (next value).eval session = result := by
  rw [Operation.check] at h
  cases read : kind.read operation args position with
  | ok value =>
    rw [read] at h ran
    exact ⟨value, h, ran⟩
  | error found =>
    rw [read] at h
    cases h

end

/-- Nothing is done before all arguments have been read. -/
theorem operate_of_check_error (h : operation.check args operation.takes = .error error) :
    (operate host operation args).eval session = (.error error, session) := by
  cases operation with
  | lastBuffer | data => cases h
  | layout | supply | get => exact eval_read_of_error .text h fun _ h => by cases h
  | insert | insertIf =>
    exact eval_read_of_error .text h fun _ h => eval_read_of_error .context h fun _ h => by cases h
  | filter =>
    exact eval_read_of_error .text h fun _ h => eval_read_of_error .stages h fun _ h => by cases h

/-! ## Arguments that are accepted -/

/-- A pipeline fails with one of its filters. The induction is on the stages. -/
theorem fails_of_runStages {stages : List String} {value : Value} {args : List (List Value)}
    {world after : σ} (failed : (runStages host value stages args).eval world =
      (.error error, after)) : host.Fails error after := by
  induction stages generalizing value args world with
  | nil => cases failed
  | cons stage stages ih =>
    rw [runStages] at failed
    by_cases blank : Text.trimString stage = ""
    · rw [if_pos blank] at failed
      exact ih failed
    · rw [if_neg blank] at failed
      rcases Run.cases_of_bind_error failed with called | ⟨filtered, between, -, failed⟩
      · exact .filter called
      · cases filtered <;> exact ih failed

theorem eval_find (name : String) : (Session.find host name).eval session =
    (.ok (host.find name session.world).1, ⟨session.page, (host.find name session.world).2⟩) :=
  rfl

theorem eval_of_outside {α : Type} {run : Run σ α}
    (failed : (Session.outside run).eval session = (.error error, ended)) :
    run.eval session.world = (.error error, ended.world) := by
  rw [Session.outside, Run.within_apply, Prod.mk.injEq] at failed
  obtain ⟨result, rfl⟩ := failed
  exact Prod.ext result rfl

/-- A run that only hands on what another one has answered fails with that. -/
theorem eval_of_handed_on {α β : Type} {run : Run (Session σ) α} {answer : α → β}
    (failed : (run >>= fun value => pure (answer value)).eval session = (.error error, ended)) :
    run.eval session = (.error error, ended) := by
  rcases Run.cases_of_bind_error failed with failed | ⟨_, _, -, handed⟩
  · exact failed
  · cases handed

theorem layoutNotFound_of_setLayout {name : String}
    (failed : (setLayout host name).eval session = (.error error, ended)) :
    error = .layoutNotFound name := by
  rw [setLayout, Run.bind_of_ok (eval_find name)] at failed
  cases found : (host.find name session.world).1 with
  | none =>
    rw [found] at failed
    cases failed
    rfl
  | some path =>
    rw [found] at failed
    cases failed

theorem fails_of_insert {name : String} {context : Fields}
    (failed : (insert host name context).eval session = (.error error, ended)) :
    host.Fails error ended.world := by
  have fired : (Session.fire host (.prepartial name context)).eval session =
      (.ok (), ⟨session.page, host.fire ⟨.prepartial name context, session.page⟩ session.world⟩) :=
    rfl
  rw [insert, Run.bind_of_ok fired] at failed
  rcases Run.cases_of_bind_error failed with rendered | ⟨_, _, -, handed⟩
  · exact .render (eval_of_outside rendered)
  · cases handed

theorem fails_of_insertIf {name : String} {context : Fields}
    (failed : (insertIf host name context).eval session = (.error error, ended)) :
    host.Fails error ended.world := by
  rw [insertIf, Run.bind_of_ok (eval_find name)] at failed
  cases found : (host.find name session.world).1 with
  | none =>
    rw [found] at failed
    cases failed
  | some path =>
    rw [found] at failed
    exact fails_of_insert failed

/-- With arguments that are accepted, an operation fails only because there is no such layout, or
with its host. -/
theorem fails_of_checked (h : operation.check args operation.takes = .ok ())
    (failed : (operate host operation args).eval session = (.error error, ended)) :
    (∃ name, error = .layoutNotFound name) ∨ host.Fails error ended.world := by
  cases operation with
  | lastBuffer | data => cases failed
  | supply | get =>
    obtain ⟨name, -, failed⟩ := exists_of_read .text h failed
    cases failed
  | layout =>
    obtain ⟨name, -, failed⟩ := exists_of_read .text h failed
    exact .inl ⟨name, layoutNotFound_of_setLayout (eval_of_handed_on failed)⟩
  | insert =>
    obtain ⟨name, h, failed⟩ := exists_of_read .text h failed
    obtain ⟨context, -, failed⟩ := exists_of_read .context h failed
    exact .inr (fails_of_insert (eval_of_handed_on failed))
  | insertIf =>
    obtain ⟨name, h, failed⟩ := exists_of_read .text h failed
    obtain ⟨context, -, failed⟩ := exists_of_read .context h failed
    exact .inr (fails_of_insertIf (eval_of_handed_on failed))
  | filter =>
    obtain ⟨pipeline, h, failed⟩ := exists_of_read .text h failed
    obtain ⟨stages, -, failed⟩ := exists_of_read .stages h failed
    exact .inr (fails_of_runStages (eval_of_outside failed))

/-! ## Calls -/

/-- A call of an operation with an argument that is refused does nothing at all, whatever the host
is: it fails, and the message names the operation and the first argument that is refused. If all
arguments are accepted, whatever else is given, the call of the operation is not found fault with:
only a page or a filter that the host runs may make such a call. -/
theorem checked_first (host : Host σ) (called : String) (operation : Operation) (args : List Value)
    (session : Session σ)
    (meant : Operation.ofName? (callName session.page called) = some operation) :
    ((∃ arg ∈ operation.takes, arg.2.accepts args[arg.1]? = false) →
      ∃ position kind, Operation.RefusesFirst operation.takes args position kind ∧
        let error := .invalidCall operation (kind.fault position (argument args position))
        (dispatch host called args).eval session = (.error error, session) ∧
          ∃ what, error.message = "INVALID_CALL: " ++ operation.name ++ ": " ++
            ("argument " ++ toString (position + 1) ++ what)) ∧
    ((∀ arg ∈ operation.takes, arg.2.accepts args[arg.1]? = true) →
      ∀ (other : Operation) (fault : CallFault) (ended : Session σ),
        (dispatch host called args).eval session = (.error (.invalidCall other fault), ended) →
          host.Fails (.invalidCall other fault) ended.world) := by
  rw [eval_dispatch_operation host meant]
  constructor
  · intro refused
    obtain ⟨position, kind, first⟩ := Operation.exists_first operation.takes_sorted refused
    refine ⟨position, kind, first, ?_, ?_⟩
    · exact operate_of_check_error (Operation.check_of_first operation.takes_sorted first)
    · obtain ⟨what, message⟩ := (kind.fault position (argument args position)).message_position
      rw [ArgKind.position_fault] at message
      exact ⟨what, congrArg ("INVALID_CALL: " ++ operation.name ++ ": " ++ ·) message⟩
  · intro accepted other fault ended failed
    rcases fails_of_checked (Operation.check_of_accepts accepted) failed with ⟨name, ⟨⟩⟩ | fails
    exact fails

/-- A partial with a flag in place of its context, and a pipeline without filters, with more
arguments than it takes. -/
theorem checked_first_itemPage :
    (dispatch bareHost "insert" [.text "part", .bool true]).eval itemPage =
      (.error (.invalidCall .insert (.notObject 1 (.bool true))), itemPage) ∧
    ∀ (other : Operation) (fault : CallFault) (ended : Session Unit),
      (dispatch bareHost "filter" [.text "", .null, .null, .null]).eval itemPage =
        (.error (.invalidCall other fault), ended) →
      bareHost.Fails (.invalidCall other fault) ended.world := by
  obtain ⟨refused, -⟩ := checked_first bareHost "insert" .insert [.text "part", .bool true] itemPage
    (by decide)
  obtain ⟨-, accepted⟩ := checked_first bareHost "filter" .filter [.text "", .null, .null, .null]
    itemPage (by decide)
  constructor
  · obtain ⟨position, kind, ⟨takes, refuses, -⟩, failed, -⟩ :=
      refused ⟨(1, .context), by decide, rfl⟩
    rcases List.mem_cons.mp takes with text | takes
    · cases text
      cases refuses
    · cases List.mem_singleton.mp takes
      exact failed
  · exact accepted (by decide)

end Page

end Folio
