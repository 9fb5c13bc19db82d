import InterfacePlan.Proofs.Agent.Retry
import InterfacePlan.Proofs.Ollama.Events

set_option autoImplicit false

namespace InterfacePlan

open Log (Context Event)

variable {σ : Type}

namespace SynthesisState

def all : List SynthesisState :=
  [.drafting, .awaitingOracle, .parsed, .retrying, .validated, .failed]

def ofName? (s : String) : Option SynthesisState :=
  all.find? fun state => state.name = s

theorem ofName?_name (state : SynthesisState) : ofName? state.name = some state := by
  cases state <;> decide

def isOfAttempt : SynthesisState → Bool
  | .awaitingOracle | .parsed => true
  | .drafting | .retrying | .validated | .failed => false

end SynthesisState

/-- The oracle logs no event of this name. -/
def Oracle.Omits (oracle : Oracle σ) (name : String) : Prop :=
  ∀ messages state, ∀ event ∈ (oracle.chat messages state).events, event.name ≠ name

theorem Ollama.Client.oracle_omits_synthesis_state {τ : Type} (platform : Platform)
    (transport : Transport τ) : (oracle platform transport).Omits "synthesis_state" := by
  have none : ∀ k ∈ kinds, k.1 ≠ "synthesis_state" := by decide
  intro messages client
  exact forall_events_of_kinds none platform transport messages client

theorem RunError.exists_ofFailure_iff {e : RunError} : (∃ failure, e = .ofFailure failure) ↔
    (∃ cause, e = .oracle cause) ∨ ∃ cause, e = .accident cause := by
  constructor
  · rintro ⟨failure, rfl⟩
    cases failure with
    | error cause => exact .inl ⟨cause, rfl⟩
    | accident cause => exact .inr ⟨cause, rfl⟩
  · rintro (⟨cause, rfl⟩ | ⟨cause, rfl⟩)
    · exact ⟨.error cause, rfl⟩
    · exact ⟨.accident cause, rfl⟩

namespace Answer

variable {repair : Bool} {answer : Answer σ}

/-- An attempt fails with the call, or with an object that cannot be read. -/
theorem attempted_eq_error {e : RunError} (failed : answer.attempted repair = .error e) :
    (∃ failure, answer.result = .error failure ∧ e = .ofFailure failure) ∨
      answer.IllFormed repair ∧ e = .illFormedReply := by
  unfold attempted at failed
  cases given : answer.result with
  | error failure =>
      rw [given] at failed
      cases failed
      exact .inl ⟨failure, rfl, rfl⟩
  | ok reply =>
      rw [given] at failed
      simp only at failed
      split at failed
      · cases failed
      · rename_i refused
        cases failed
        exact .inr ⟨⟨reply, given, refused⟩, rfl⟩
      · cases failed

/-- An answer holds an object if and only if its synthesis comes to a plan or to a refused one. -/
theorem Settles.holds_iff {result : Except RunError Plan} (settles : answer.Settles repair result) :
    (∃ members, answer.Holds repair members) ↔
      (∃ plan, result = .ok plan) ∨ ∃ cause, result = .error (.invalidPlan cause) := by
  constructor
  · rintro ⟨members, holds⟩
    have same := settles.unique (settles_of_holds holds)
    rcases validate_of_holds holds with ⟨plan, valid⟩ | ⟨v, valid⟩
    · rw [valid] at same
      exact .inl ⟨plan, same⟩
    · rw [valid] at same
      exact .inr ⟨_, same⟩
  · rintro (⟨plan, here⟩ | ⟨cause, here⟩)
    · obtain ⟨members, holds, -⟩ := (settles.plan plan).mp here
      exact ⟨members, holds⟩
    · obtain ⟨members, -, holds, -⟩ := (settles.invalid cause).mp here
      exact ⟨members, holds⟩

theorem Settles.failed_iff {result : Except RunError Plan} (settles : answer.Settles repair result) :
    (∃ failure, answer.result = .error failure) ↔ ∃ failure, result = .error (.ofFailure failure) := by
  constructor
  · rintro ⟨failure, failed⟩
    exact ⟨failure, settles.unique (settles_of_failure failed)⟩
  · rintro ⟨failure, here⟩
    cases failure with
    | error cause => exact ⟨_, (settles.oracle cause).mp here⟩
    | accident cause => exact ⟨_, (settles.accident cause).mp here⟩

end Answer

namespace Synthesis

/-- A state that was reached, with the number of the attempt if it is one of an attempt. -/
structure Step where
  state : SynthesisState
  attempt : Option Int := none
  deriving DecidableEq

def attemptOf? (fields : Context) : Option Int :=
  match fields.get? "attempt" with
  | some (.int n) => some n
  | _ => none

/-- The step that an event tells of, if it is an event of a synthesis. -/
def step? (event : Event) : Option Step :=
  if event.name = "synthesis_state" then
    match event.fields.get? "state" with
    | some (.text name) =>
      (SynthesisState.ofName? name).map fun state =>
        ⟨state, if state.isOfAttempt then attemptOf? event.fields else none⟩
    | _ => none
  else none

def steps (events : List Event) : List Step :=
  events.filterMap step?

/-- The steps that events tell of when they are logged inside a context. -/
def stepsWithin (context : Context) (events : List Event) : List Step :=
  steps (events.map fun e => e.within context)

/-- The path up to the last of so many calls. -/
def asking (calls : Nat) : List Step :=
  ⟨.drafting, none⟩ :: ⟨.awaitingOracle, some 1⟩ ::
    if calls = 2 then [⟨.retrying, none⟩, ⟨.awaitingOracle, some 2⟩] else []

/-- The path after the last of so many calls, by what the synthesis came to. -/
def concluding (calls : Nat) : Except RunError Plan → List Step
  | .ok _ => [⟨.parsed, some calls⟩, ⟨.validated, none⟩]
  | .error (.invalidPlan _) => [⟨.parsed, some calls⟩, ⟨.failed, none⟩]
  | .error (.noJson ..) => [⟨.failed, none⟩]
  | .error (.oracle _) | .error (.accident _) | .error .illFormedReply | .error (.unwritable _) => []

/-- The path of a synthesis that makes so many calls and comes to a result. -/
structure Lifecycle (repair : Bool) (last : Answer σ) (calls : Nat) (result : Except RunError Plan)
    (path : List Step) : Prop where
  path_eq : path = asking calls ++ concluding calls result
  parsed : (∃ step ∈ path, step.state = .parsed) ↔ ∃ members, last.Holds repair members
  validated : ⟨.validated, none⟩ ∈ path ↔ ∃ plan, result = .ok plan
  failed : ⟨.failed, none⟩ ∈ path ↔
    (∃ attempts e, result = .error (.noJson attempts e)) ∨
      ∃ cause, result = .error (.invalidPlan cause)
  /-- Nothing ends the path if the last call failed or its object cannot be read. -/
  unfinished : path = asking calls ↔
    (∃ failure, last.result = .error failure) ∨ last.IllFormed repair

variable {context : Context} {oracle : Oracle σ} {repair : Bool} {start : σ}

theorem steps_append (first second : List Event) :
    steps (first ++ second) = steps first ++ steps second :=
  List.filterMap_append

theorem stepsWithin_append (first second : List Event) :
    stepsWithin context (first ++ second) = stepsWithin context first ++ stepsWithin context second := by
  unfold stepsWithin
  rw [List.map_append, steps_append]

theorem stepsWithin_nil : stepsWithin context [] = [] := rfl

/-- What an event of a synthesis tells of inside any context. Its own fields come before those that are
bound, so that a scope cannot change the state. -/
theorem step?_reached (context : Context) (state : SynthesisState) {fields : Context}
    (apart : "state" ∉ fields.map (·.1)) :
    step? ((reached state fields).within context) = some ⟨state,
      if state.isOfAttempt then attemptOf? (context.setAll (("state", .text state.name) :: fields))
      else none⟩ := by
  have own : (context.setAll (("state", .text state.name) :: fields)).get? "state" =
      some (.text state.name) := by
    rw [Context.setAll_cons]
    apply Context.get?_setAll_of_agree
    · intro w given
      exact absurd (List.mem_map_of_mem given) apart
    · rw [Context.get?_set, if_pos rfl]
  have named : ((reached state fields).within context).name = "synthesis_state" := rfl
  have bound : ((reached state fields).within context).fields =
      context.setAll (("state", .text state.name) :: fields) := rfl
  unfold step?
  rw [if_pos named, bound, own]
  simp only [SynthesisState.ofName?_name, Option.map_some]

theorem stepsWithin_cons_other {event : Event} (other : event.name ≠ "synthesis_state")
    (rest : List Event) : stepsWithin context (event :: rest) = stepsWithin context rest := by
  have none : step? (event.within context) = none := if_neg other
  unfold stepsWithin steps
  rw [List.map_cons, List.filterMap_cons, none]

theorem stepsWithin_cons_state {state : SynthesisState} {fields : Context}
    (plain : state.isOfAttempt = false) (apart : "state" ∉ fields.map (·.1)) (rest : List Event) :
    stepsWithin context (reached state fields :: rest) =
      ⟨state, none⟩ :: stepsWithin context rest := by
  have told := step?_reached context state apart
  rw [plain] at told
  unfold stepsWithin steps
  rw [List.map_cons, List.filterMap_cons, told]
  rfl

theorem stepsWithin_cons_attempt {state : SynthesisState} (counted : state.isOfAttempt = true)
    (number : Nat) (rest : List Event) :
    stepsWithin context (reached state [("attempt", .int number)] :: rest) =
      ⟨state, some number⟩ :: stepsWithin context rest := by
  have apart : "state" ∉ ([("attempt", .int number)] : Context).map (·.1) := by simp
  have told := step?_reached context state apart
  have own : attemptOf? (context.setAll
      [("state", .text state.name), ("attempt", .int number)]) = some (number : Int) := by
    unfold attemptOf?
    rw [Context.setAll_cons, Context.setAll_cons, Context.setAll, List.foldl_nil, Context.get?_set,
      if_pos rfl]
  rw [counted, if_pos rfl, own] at told
  unfold stepsWithin steps
  rw [List.map_cons, List.filterMap_cons, told]

theorem stepsWithin_of_others {events : List Event}
    (others : ∀ event ∈ events, event.name ≠ "synthesis_state") :
    stepsWithin context events = [] := by
  induction events with
  | nil => rfl
  | cons event rest ih =>
      rw [stepsWithin_cons_other (others event List.mem_cons_self)]
      exact ih fun e inside => others e (List.mem_cons_of_mem event inside)

def parsing (repair : Bool) (number : Nat) (answer : Answer σ) : List Step :=
  match answer.attempted repair with
  | .ok (.ok _) => [⟨.parsed, some number⟩]
  | _ => []

theorem stepsWithin_attempt (omits : oracle.Omits "synthesis_state") (context : Context)
    (repair : Bool) (number : Nat) (prompt : List Text.Code) (start : σ) :
    stepsWithin context (attemptEvents repair number (answerTo oracle prompt start)) =
      ⟨.awaitingOracle, some number⟩ :: parsing repair number (answerTo oracle prompt start) := by
  have silent : stepsWithin context (answerTo oracle prompt start).events = [] :=
    stepsWithin_of_others (omits (Prompt.planner prompt) start)
  unfold attemptEvents parsing
  rw [stepsWithin_cons_attempt rfl, stepsWithin_append, silent, List.nil_append]
  cases same : (answerTo oracle prompt start).attempted repair with
  | error e => rfl
  | ok outcome =>
      cases outcome with
      | error e => rfl
      | ok members =>
          simp only
          rw [stepsWithin_cons_attempt rfl]
          rfl

/-- The path up to the answer that comes last. -/
theorem stepsWithin_object (omits : oracle.Omits "synthesis_state") {mode : String}
    {prompt : List Text.Code} {current : Option Plan} {last : Answer σ}
    {calls : List (List ChatMessage)}
    (isLast : LastAnswer oracle repair prompt start last calls) :
    stepsWithin context (drafting mode current :: objectEvents oracle repair prompt start) =
      asking calls.length ++ parsing repair calls.length last := by
  have first := stepsWithin_attempt omits context repair 1 prompt start
  unfold drafting objectEvents
  rw [stepsWithin_cons_state rfl (by simp), stepsWithin_append, first]
  rcases (answerTo oracle prompt start).attempted_cases repair with
    ⟨e, same, -, parsed⟩ | ⟨members, same, holds⟩ | ⟨e, same, unparsed⟩
  · cases isLast with
    | first _ =>
        rw [same]
        simp only [stepsWithin_nil, List.append_nil]
        rfl
    | second again => exact absurd again (parsed _)
  · cases isLast with
    | first _ =>
        rw [same]
        simp only [stepsWithin_nil, List.append_nil]
        rfl
    | second again => exact absurd again (Answer.not_unparsed_of_holds holds _)
  · cases isLast with
    | first parsed => exact absurd unparsed (parsed e)
    | second _ =>
        have nothing : parsing repair 1 (answerTo oracle prompt start) = [] := by
          unfold parsing
          rw [same]
        rw [same, nothing]
        simp only
        rw [stepsWithin_cons_state rfl (by simp), stepsWithin_attempt omits]
        rfl

theorem stepsWithin_conclusion {last : Answer σ} {result : Except RunError Plan}
    (settles : last.Settles repair result) (calls : Nat) :
    parsing repair calls last ++ stepsWithin context (conclusionEvents repair last) =
      concluding calls result := by
  unfold parsing conclusionEvents
  rcases last.attempted_cases repair with
    ⟨e, same, settled, parsed⟩ | ⟨members, same, holds⟩ | ⟨e, same, unparsed⟩
  · cases settles.unique settled
    rw [same]
    rcases Answer.attempted_eq_error same with ⟨failure, -, rfl⟩ | ⟨-, rfl⟩
    · cases failure <;> rfl
    · rfl
  · cases settles.unique (Answer.settles_of_holds holds)
    rw [same]
    unfold acceptEvents
    rcases Answer.validate_of_holds holds with ⟨plan, valid⟩ | ⟨v, valid⟩
    · have warned : stepsWithin context (if plan.root.duplicateIds ≠ [] then
          [⟨.warning, "duplicate_node_ids", [("ids", .list (plan.root.duplicateIds.map Value.text))]⟩]
          else []) = [] := by
        split
        · rw [stepsWithin_cons_other (by simp), stepsWithin_nil]
        · exact stepsWithin_nil
      simp only [valid]
      rw [stepsWithin_append, warned, stepsWithin_cons_state rfl (by simp)]
      rfl
    · simp only [valid]
      rw [stepsWithin_cons_state rfl (by simp)]
      rfl
  · cases settles.unique (Answer.settles_of_unparsed unparsed)
    rw [same]
    simp only
    rw [stepsWithin_cons_state rfl (by simp)]
    rfl

theorem asking_open (calls : Nat) : ∀ step ∈ asking calls,
    step.state ≠ .parsed ∧ step ≠ ⟨.validated, none⟩ ∧ step ≠ ⟨.failed, none⟩ := by
  unfold asking
  split <;> decide

theorem concluding_eq_nil_iff {last : Answer σ} {result : Except RunError Plan}
    (settles : last.Settles repair result) (calls : Nat) :
    concluding calls result = [] ↔
      (∃ failure, last.result = .error failure) ∨ last.IllFormed repair := by
  rw [settles.failed_iff, ← settles.illFormed]
  cases result with
  | ok plan => simp [concluding]
  | error e =>
      simp only [Except.error.injEq, RunError.exists_ofFailure_iff]
      cases e with
      | unwritable cause => exact absurd rfl (settles.written cause)
      | _ => simp [concluding]

theorem lifecycle_of_settles {last : Answer σ} {result : Except RunError Plan}
    (settles : last.Settles repair result) (calls : Nat) :
    Lifecycle repair last calls result (asking calls ++ concluding calls result) where
  path_eq := rfl
  parsed := by
    have late : (∃ step ∈ asking calls ++ concluding calls result, step.state = .parsed) ↔
        ∃ step ∈ concluding calls result, step.state = .parsed := by
      constructor
      · rintro ⟨step, inside, here⟩
        rcases List.mem_append.mp inside with early | late
        · exact absurd here (asking_open calls step early).1
        · exact ⟨step, late, here⟩
      · rintro ⟨step, inside, here⟩
        exact ⟨step, List.mem_append_right _ inside, here⟩
    rw [settles.holds_iff, late]
    cases result with
    | ok plan => simp [concluding]
    | error e => cases e <;> simp [concluding]
  validated := by
    rw [List.mem_append, or_iff_right fun early => (asking_open calls _ early).2.1 rfl]
    cases result with
    | ok plan => simp [concluding]
    | error e => cases e <;> simp [concluding]
  failed := by
    rw [List.mem_append, or_iff_right fun early => (asking_open calls _ early).2.2 rfl]
    cases result with
    | ok plan => simp [concluding]
    | error e => cases e <;> simp [concluding]
  unfinished := by
    rw [List.append_right_eq_self, concluding_eq_nil_iff settles]

/-- The steps that a synthesis logs are its lifecycle: one attempt or two, an object that is found in
the answer that comes last, and the end. -/
theorem synthesize_lifecycle (oracle : Oracle σ) (omits : oracle.Omits "synthesis_state")
    (repair : Bool) (mode : String) (message : List Text.Code) (current : Option Plan)
    (trusted : ∀ plan, current = some plan →
      ∃ raw : Value, raw.isJson .any ∧ Plan.validate raw = .ok plan) :
    ∃ prompt, Prompt.plannerUser message mode current = .ok prompt ∧
      ∀ journal : Journal σ, ∃ last calls result after path,
        LastAnswer oracle repair prompt journal.oracle last calls ∧ last.Settles repair result ∧
        synthesize oracle repair mode message current journal = (result, after) ∧
        steps after.events = steps journal.events ++ path ∧
        Lifecycle repair last calls.length result path := by
  obtain ⟨prompt, asked⟩ := Prompt.exists_plannerUser_of_read trusted message mode
  refine ⟨prompt, asked, ?_⟩
  intro journal
  obtain ⟨last, calls, isLast⟩ := exists_lastAnswer oracle repair prompt journal.oracle
  obtain ⟨result, settles, tells⟩ := synthesize_tells asked isLast
  have path : stepsWithin journal.context
      (events oracle repair mode current prompt journal.oracle last) =
        asking calls.length ++ concluding calls.length result := by
    unfold events
    rw [← List.cons_append, stepsWithin_append, stepsWithin_object omits isLast, List.append_assoc,
      stepsWithin_conclusion settles]
  refine ⟨last, calls, result, _, _, isLast, settles, tells journal rfl, ?_,
    lifecycle_of_settles settles calls.length⟩
  show steps (journal.events ++ _) = _
  rw [steps_append, ← path]
  rfl

/-- A journal with a state and an attempt bound, and a model that sends one text without an object. -/
def boundJournal : Journal (List (List Text.Code)) :=
  { oracle := [Text.codes "No."]
    context := [("state", .text "failed"), ("attempt", .int 9)] }

/-- When the second call fails, the path stops at it. -/
theorem synthesize_lifecycle_second_call_fails :
    ∃ plan after, Plan.validate rawCard = .ok plan ∧
      synthesize textOracle false "modify" (Text.codes "Go on.") (some plan) boundJournal =
        (.error (.oracle ⟨Text.codes "no text left", none, none⟩), after) ∧
      steps after.events = [⟨.drafting, none⟩, ⟨.awaitingOracle, some 1⟩, ⟨.retrying, none⟩,
        ⟨.awaitingOracle, some 2⟩] := by
  obtain ⟨plan, read⟩ : ∃ plan, Plan.validate rawCard = .ok plan := ⟨_, rfl⟩
  have omits : textOracle.Omits "synthesis_state" := by
    intro messages texts event inside
    cases texts <;> cases inside
  obtain ⟨prompt, -, runs⟩ := synthesize_lifecycle textOracle omits false "modify" (Text.codes "Go on.")
    (some plan) (by rintro other ⟨⟩; exact ⟨rawCard, by decide, read⟩)
  obtain ⟨last, calls, result, after, path, isLast, settles, ran, told, lifecycle⟩ :=
    runs boundJournal
  have noObject : (answerTo textOracle prompt boundJournal.oracle).Unparsed false .noObject :=
    ⟨by decide, Text.codes "No.", rfl, by decide⟩
  cases isLast with
  | first parsed => exact absurd noObject (parsed _)
  | second _ =>
      rw [(settles.oracle _).mpr rfl] at ran lifecycle
      rw [lifecycle.path_eq] at told
      exact ⟨plan, after, read, ran, told⟩

end Synthesis

end InterfacePlan
