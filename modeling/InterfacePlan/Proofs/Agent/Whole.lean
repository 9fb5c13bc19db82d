import InterfacePlan.Proofs.Agent.Ending
import InterfacePlan.Proofs.Ollama.Events

set_option autoImplicit false

namespace InterfacePlan

open Log (Event)

variable {σ : Type}

/-- The events of an oracle give no value to a name. -/
def Oracle.Leaves (oracle : Oracle σ) (name : String) : Prop :=
  ∀ messages state, ∀ event ∈ (oracle.chat messages state).events, name ∉ event.fields.map (·.1)

theorem Oracle.Leaves.agrees {oracle : Oracle σ} {name : String} (leaves : oracle.Leaves name)
    (messages : List ChatMessage) (state : σ) (v : Value) :
    ∀ event ∈ (oracle.chat messages state).events, event.Agrees name v :=
  fun event inside => Event.agrees_of_lacks (leaves messages state event inside) v

namespace Ollama

theorem Client.oracle_leaves_mode {τ : Type} (platform : Platform) (transport : Transport τ) :
    (oracle platform transport).Leaves "mode" := by
  have none : ∀ k ∈ kinds, "mode" ∉ k.2 := by decide
  intro messages client
  exact forall_events_of_kinds none platform transport messages client

end Ollama

namespace Synthesis

variable {oracle : Oracle σ} {repair : Bool} {mode : String}

theorem reached_agrees {state : SynthesisState} {fields : Log.Context} {v : Value}
    (agree : ∀ w, ("mode", w) ∈ fields → w = v) : (reached state fields).Agrees "mode" v := by
  intro w inside
  rcases List.mem_cons.mp inside with same | inside
  · exact absurd (congrArg Prod.fst same) (by simp)
  · exact agree w inside

theorem attemptEvents_agree (leaves : oracle.Leaves "mode") (number : Nat) (prompt : List Text.Code)
    (start : σ) (v : Value) :
    ∀ event ∈ attemptEvents repair number (answerTo oracle prompt start),
      event.Agrees "mode" v := by
  have answered := leaves.agrees (Prompt.planner prompt) start v
  refine List.forall_mem_cons.mpr ⟨reached_agrees (by simp), ?_⟩
  refine List.forall_mem_append.mpr ⟨answered, ?_⟩
  split
  · exact List.forall_mem_singleton.mpr (reached_agrees (by simp))
  · exact List.forall_mem_nil _

theorem objectEvents_agree (leaves : oracle.Leaves "mode") (prompt : List Text.Code) (start : σ)
    (v : Value) :
    ∀ event ∈ objectEvents oracle repair prompt start, event.Agrees "mode" v := by
  refine List.forall_mem_append.mpr ⟨attemptEvents_agree leaves 1 prompt start v, ?_⟩
  split
  · refine List.forall_mem_cons.mpr ⟨reached_agrees (by simp), ?_⟩
    exact attemptEvents_agree leaves 2 _ _ v
  · exact List.forall_mem_nil _

theorem acceptEvents_agree (members : Members) (v : Value) :
    ∀ event ∈ acceptEvents members, event.Agrees "mode" v := by
  unfold acceptEvents
  split
  · refine List.forall_mem_append.mpr ⟨?_, List.forall_mem_singleton.mpr (reached_agrees (by simp))⟩
    split
    · exact List.forall_mem_singleton.mpr (by simp [Event.Agrees])
    · exact List.forall_mem_nil _
  · exact List.forall_mem_singleton.mpr (reached_agrees (by simp))
  · exact List.forall_mem_nil _

theorem events_agree (leaves : oracle.Leaves "mode") (current : Option Plan) (prompt : List Text.Code)
    (start : σ) (last : Answer σ) :
    ∀ event ∈ events oracle repair mode current prompt start last,
      event.Agrees "mode" (.text mode) := by
  refine List.forall_mem_cons.mpr ⟨reached_agrees (by simp), ?_⟩
  refine List.forall_mem_append.mpr ⟨objectEvents_agree leaves prompt start _, ?_⟩
  unfold conclusionEvents
  split
  · exact acceptEvents_agree _ _
  · exact List.forall_mem_singleton.mpr (reached_agrees (by simp))
  · exact List.forall_mem_nil _

end Synthesis

namespace Agent

open Synthesis (LastAnswer)

theorem complete_agrees (code explanation : List Text.Code) (v : Value) :
    (complete code explanation).Agrees "mode" v := by
  have names : (complete code explanation).fields.map (·.1) =
      ["code_lines", "explanation_chars"] := rfl
  apply Event.agrees_of_lacks
  rw [names]
  decide

theorem closingEvents_agree {oracle : Oracle σ} (leaves : oracle.Leaves "mode")
    (seen : List Text.Code) (diff : String) (plan : Plan) (state : σ) (v : Value) :
    ∀ event ∈ closingEvents oracle seen diff plan state, event.Agrees "mode" v := by
  have answered := leaves.agrees (Prompt.explainer seen diff) state v
  refine List.forall_mem_append.mpr ⟨List.forall_mem_cons.mpr ⟨by simp [Event.Agrees], answered⟩, ?_⟩
  split
  · exact List.forall_mem_singleton.mpr (complete_agrees _ _ v)
  · exact List.forall_mem_nil _

/-- Events that agree with the mode carry it inside the scope of a run. -/
theorem carried_of_agree {context : Log.Context} {mode : String} {events : List Event}
    (agree : ∀ event ∈ events, event.Agrees "mode" (.text mode)) :
    ∀ event ∈ events.map (·.within (context.setAll [("mode", .text mode)])),
      event.fields.get? "mode" = some (.text mode) := by
  have bound : (context.setAll [("mode", .text mode)]).get? "mode" = some (.text mode) := by
    rw [Log.Context.setAll_cons, Log.Context.setAll, List.foldl_nil, Log.Context.get?_set, if_pos rfl]
  intro event inside
  obtain ⟨own, member, rfl⟩ := List.mem_map.mp inside
  exact Event.get?_within bound (agree own member)

/-- What a run comes to after the planner's last answer. Either the answer is no plan, and nothing more
is asked; or it is one, and the explainer is asked once, with the text of the instruction that the planner
has seen. -/
structure AllOrNothing (agent : Agent) (oracle : Oracle σ) (mode : String)
    (seen : List Text.Code) (current : Option Plan) (journal : Journal σ) (last : Answer σ)
    (planned : List (List ChatMessage)) (result : Except RunError AgentResult) (after : Journal σ) :
    Prop where
  settled : ∃ synthesized, last.Settles agent.repairJson synthesized
  unplanned : ∀ e, last.Settles agent.repairJson (.error e) →
    after.calls = journal.calls ++ planned
  explained : ∀ plan, last.Settles agent.repairJson (.ok plan) →
    after.calls = journal.calls ++ (planned ++
      [Prompt.explainer seen (Plan.diffSummary current plan)])
  few : after.calls.length ≤ journal.calls.length + 3
  gives : ∀ done, result = .ok done ↔ ∃ plan explanation,
    last.Settles agent.repairJson (.ok plan) ∧
    (Explanation.answerTo oracle seen (Plan.diffSummary current plan) last.state).result =
      .ok explanation ∧ done = ⟨plan, Source.code plan, explanation⟩
  fails : ∀ e, result = .error e ↔ last.Settles agent.repairJson (.error e) ∨
    ∃ plan failure, last.Settles agent.repairJson (.ok plan) ∧
      (Explanation.answerTo oracle seen (Plan.diffSummary current plan) last.state).result =
        .error failure ∧ e = .ofFailure failure
  reports : oracle.IsDirect → ∀ e, result = .error e →
    e.IsReported ∨ e = .illFormedReply ∧ last.IllFormed agent.repairJson
  marked : ∃ events, after.events = journal.events ++ events ∧ (oracle.Leaves "mode" →
    ∀ event ∈ events, event.fields.get? "mode" = some (.text mode))
  restored : after.context = journal.context

variable {agent : Agent} {oracle : Oracle σ} {mode : String} {seen prompt : List Text.Code}
  {current : Option Plan} {journal : Journal σ} {last : Answer σ} {planned : List (List ChatMessage)}

theorem allOrNothing_of_unplanned {start : σ}
    (isLast : LastAnswer oracle agent.repairJson prompt start last planned) {e : RunError}
    (settles : last.Settles agent.repairJson (.error e)) {events : List Event}
    (agree : oracle.Leaves "mode" → ∀ event ∈ events, event.Agrees "mode" (.text mode)) :
    AllOrNothing agent oracle mode seen current journal last planned (.error e)
      (journal.extend last.state planned
        (events.map (·.within (journal.context.setAll [("mode", .text mode)])))) where
  settled := ⟨_, settles⟩
  unplanned _ _ := rfl
  explained plan other := nomatch settles.unique other
  few := by
    have short := isLast.length_le
    simp only [Journal.extend, List.length_append]
    omega
  gives done := by
    constructor
    · intro given
      cases given
    · rintro ⟨plan, explanation, other, -⟩
      cases settles.unique other
  fails e' := by
    constructor
    · rintro ⟨⟩
      exact .inl settles
    · rintro (other | ⟨plan, failure, other, -⟩)
      · cases settles.unique other
        rfl
      · cases settles.unique other
  reports direct e' same := by
    cases same
    obtain ⟨messages, state, rfl⟩ := isLast.exists_chat
    exact settles.isReported_or_illFormed (direct messages state)
  marked := ⟨_, rfl, fun leaves => carried_of_agree (agree leaves)⟩
  restored := rfl

theorem allOrNothing_of_planned {start : σ}
    (isLast : LastAnswer oracle agent.repairJson prompt start last planned) {plan : Plan}
    (settles : last.Settles agent.repairJson (.ok plan)) {answer : Answer σ}
    (asked : answer =
      Explanation.answerTo oracle seen (Plan.diffSummary current plan) last.state)
    {events : List Event}
    (agree : oracle.Leaves "mode" → ∀ event ∈ events, event.Agrees "mode" (.text mode)) :
    AllOrNothing agent oracle mode seen current journal last planned
      ((answer.result.mapError RunError.ofFailure).map fun explanation =>
        ⟨plan, Source.code plan, explanation⟩)
      (journal.extend answer.state
        (planned ++ [Prompt.explainer seen (Plan.diffSummary current plan)])
        (events.map (·.within (journal.context.setAll [("mode", .text mode)])))) where
  settled := ⟨_, settles⟩
  unplanned e other := nomatch settles.unique other
  explained plan' other := by
    cases settles.unique other
    rfl
  few := by
    have short := isLast.length_le
    simp only [Journal.extend, List.length_append, List.length_singleton]
    omega
  gives done := by
    constructor
    · intro given
      obtain ⟨explanation, said, rfl⟩ := exists_of_map given
      rw [asked] at said
      exact ⟨plan, explanation, settles, ok_of_mapError said, rfl⟩
    · rintro ⟨plan', explanation, other, said, rfl⟩
      cases settles.unique other
      rw [asked, said]
      rfl
  fails e := by
    constructor
    · intro failed
      cases said : answer.result with
      | ok explanation =>
          rw [said] at failed
          cases failed
      | error failure =>
          rw [said] at failed
          cases failed
          rw [asked] at said
          exact .inr ⟨plan, failure, settles, said, rfl⟩
    · rintro (other | ⟨plan', failure, other, said, rfl⟩)
      · cases settles.unique other
      · cases settles.unique other
        rw [asked, said]
        rfl
  -- After a plan only the explainer can fail, and that is the oracle's own error.
  reports direct e failed := by
    cases said : answer.result with
    | ok explanation =>
        rw [said] at failed
        cases failed
    | error failure =>
        rw [said] at failed
        cases failed
        rw [asked] at said
        cases failure with
        | error cause => exact .inl (.oracle cause)
        | accident cause => exact absurd said (direct _ _ cause)
  marked := ⟨_, rfl, fun leaves => carried_of_agree (agree leaves)⟩
  restored := rfl

/-- A run makes the planner's one or two calls and then, if they end with a plan, one call of the
explainer; it gives plan, source and explanation if that is answered, and fails as the call that failed. -/
theorem run_all_or_nothing (agent : Agent) (oracle : Oracle σ) (mode : String) (message : List Text.Code)
    (current : Option Plan)
    (trusted : ∀ plan, current = some plan →
      ∃ raw : Value, raw.isJson .any ∧ Plan.validate raw = .ok plan) :
    ∃ seen prompt, seen = Instruction.sanitize agent.maxMessageLength message ∧
      Prompt.plannerUser seen mode current = .ok prompt ∧
      ∀ journal : Journal σ, ∃ last planned result after,
        LastAnswer oracle agent.repairJson prompt journal.oracle last planned ∧
        agent.run oracle mode message current journal = (result, after) ∧
        AllOrNothing agent oracle mode seen current journal last planned result after := by
  obtain ⟨prompt, asked⟩ := Prompt.exists_plannerUser_of_read trusted
    (Instruction.sanitize agent.maxMessageLength message) mode
  refine ⟨_, prompt, rfl, asked, ?_⟩
  intro journal
  obtain ⟨last, planned, isLast⟩ :=
    Synthesis.exists_lastAnswer oracle agent.repairJson prompt journal.oracle
  have synthesis := fun leaves => @Synthesis.events_agree _ oracle agent.repairJson mode leaves
    current prompt journal.oracle last
  rcases run_tells asked isLast rfl rfl with
    ⟨e, settles, ran⟩ | ⟨plan, seen, diff, answer, settles, rfl, rfl, same, ran⟩
  · exact ⟨last, planned, _, _, isLast, ran, allOrNothing_of_unplanned isLast settles synthesis⟩
  · refine ⟨last, planned, _, _, isLast, ran, allOrNothing_of_planned isLast settles same ?_⟩
    intro leaves
    exact List.forall_mem_append.mpr ⟨synthesis leaves, closingEvents_agree leaves _ _ _ _ _⟩

/-- A journal with a mode around it, and a model that sends no object and then half of a pair. -/
def halfPairJournal : Journal (List (List Text.Code)) :=
  { oracle := [Text.codes "No.", Synthesis.halfPair, Text.codes "unasked"]
    context := [("mode", .text "outer")] }

/-- The second reply ends such a run with a failure that is neither of the planner nor of the oracle. -/
theorem run_all_or_nothing_half_pair :
    ∃ plan prompt after, Plan.validate Synthesis.rawCard = .ok plan ∧
      Prompt.plannerUser (Text.codes "Go on.") "modify" (some plan) = .ok prompt ∧
      ({ } : Agent).run Synthesis.textOracle "modify" (Text.codes "Go on.") (some plan)
          halfPairJournal = (.error .illFormedReply, after) ∧
      after.calls = [Prompt.planner prompt, Prompt.planner (Prompt.plannerRetry prompt)] ∧
      (∀ event ∈ after.events, event.fields.get? "mode" = some (.text "modify")) ∧
      after.context = [("mode", .text "outer")] := by
  obtain ⟨plan, read⟩ : ∃ plan, Plan.validate Synthesis.rawCard = .ok plan := ⟨_, rfl⟩
  obtain ⟨seen, prompt, same, asked, runs⟩ := run_all_or_nothing { } Synthesis.textOracle "modify"
    (Text.codes "Go on.") (some plan) (by rintro other ⟨⟩; exact ⟨Synthesis.rawCard, by decide, read⟩)
  have untouched : Instruction.sanitize ({ } : Agent).maxMessageLength (Text.codes "Go on.") =
      Text.codes "Go on." := by
    decide
  rw [untouched] at same
  subst same
  obtain ⟨last, planned, result, after, isLast, ran, whole⟩ := runs halfPairJournal
  have noObject : (Synthesis.answerTo Synthesis.textOracle prompt halfPairJournal.oracle).Unparsed
      false .noObject := ⟨by decide, Text.codes "No.", rfl, by decide⟩
  cases isLast with
  | first parsed => exact absurd noObject (parsed _)
  | second _ =>
      have settles := Answer.settles_of_illFormed
        (⟨Synthesis.halfPair, rfl, by decide⟩ : (Synthesis.answerTo Synthesis.textOracle
          (Prompt.plannerRetry prompt) [Synthesis.halfPair, Text.codes "unasked"]).IllFormed false)
      rw [(whole.fails .illFormedReply).mpr (.inl settles)] at ran
      obtain ⟨events, logged, marked⟩ := whole.marked
      have leaves : Synthesis.textOracle.Leaves "mode" := by
        intro messages texts event inside
        cases texts <;> cases inside
      refine ⟨plan, prompt, after, read, asked, ran, whole.unplanned _ settles, ?_, whole.restored⟩
      rw [logged]
      exact marked leaves

end Agent

end InterfacePlan
