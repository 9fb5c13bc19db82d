import InterfacePlan.Proofs.Agent.Retry
import InterfacePlan.Proofs.Json.Extraction

set_option autoImplicit false

namespace InterfacePlan

variable {σ : Type}

/-- The failures that a run reports with a text of its own. -/
inductive RunError.IsReported : RunError → Prop
  | noJson (attempts : Nat) (last : Json.ReplyError) : IsReported (.noJson attempts last)
  | invalidPlan (v : Violation) : IsReported (.invalidPlan (.violation v))
  | oracle (cause : OracleError) : IsReported (.oracle cause)

/-- A result of a plan that was received, with the source of that plan. -/
structure AgentResult.Sound (result : AgentResult) : Prop where
  canonical : result.plan.Canonical .received
  sourced : result.code = Source.code result.plan

/-- An answer that is a text, or an error of the oracle that says why in a text. -/
def Answer.IsTextual (answer : Answer σ) : Prop :=
  (∃ reply, answer.result = .ok (Text.codes reply)) ∨
    ∃ cause, answer.result = .error (.error cause) ∧ Text.WellFormed cause.message

def Oracle.IsTextual (oracle : Oracle σ) : Prop :=
  ∀ messages state, (oracle.chat messages state).IsTextual

/-- An answer is a text, ill-formed or not, or an error of the oracle. -/
def Answer.IsDirect (answer : Answer σ) : Prop :=
  ∀ cause, answer.result ≠ .error (.accident cause)

def Oracle.IsDirect (oracle : Oracle σ) : Prop :=
  ∀ messages state, (oracle.chat messages state).IsDirect

theorem Answer.IsTextual.isDirect {answer : Answer σ} (textual : answer.IsTextual) :
    answer.IsDirect := by
  intro cause failed
  rcases textual with ⟨reply, given⟩ | ⟨error, given, -⟩ <;> rw [failed] at given <;> cases given

theorem Answer.IsTextual.not_illFormed {answer : Answer σ} (textual : answer.IsTextual)
    (repair : Bool) : ¬ answer.IllFormed repair := by
  rintro ⟨codes, given, refused⟩
  rcases textual with ⟨reply, text⟩ | ⟨error, text, -⟩
  · rw [given] at text
    cases text
    exact Json.extract_codes_ne_illFormed repair reply refused
  · rw [given] at text
    cases text

/-- A synthesis that fails reports why, unless the last reply is ill-formed where its object is. -/
theorem Answer.Settles.isReported_or_illFormed {repair : Bool} {answer : Answer σ} {e : RunError}
    (settles : answer.Settles repair (.error e)) (direct : answer.IsDirect) :
    e.IsReported ∨ e = .illFormedReply ∧ answer.IllFormed repair := by
  cases e with
  | noJson attempts last => exact .inl (.noJson attempts last)
  | invalidPlan cause =>
      obtain ⟨members, v, -, -, rfl⟩ := (settles.invalid cause).mp rfl
      exact .inl (.invalidPlan v)
  | oracle cause => exact .inl (.oracle cause)
  | accident cause => exact absurd ((settles.accident cause).mp rfl) (direct cause)
  | illFormedReply => exact .inr ⟨rfl, settles.illFormed.mp rfl⟩
  | unwritable cause => exact absurd rfl (settles.written cause)

theorem Answer.Settles.isReported {repair : Bool} {answer : Answer σ} {e : RunError}
    (settles : answer.Settles repair (.error e)) (textual : answer.IsTextual) : e.IsReported := by
  rcases settles.isReported_or_illFormed textual.isDirect with reported | ⟨-, illFormed⟩
  · exact reported
  · exact absurd illFormed (textual.not_illFormed repair)

theorem Answer.Settles.wellFormed_message {repair : Bool} {answer : Answer σ} {e : RunError}
    (settles : answer.Settles repair (.error e)) (textual : answer.IsTextual) :
    Text.WellFormed e.message := by
  cases e with
  | invalidPlan cause =>
      obtain ⟨members, v, ⟨reply, -, extracted⟩, refused, rfl⟩ := (settles.invalid cause).mp rfl
      exact Plan.wellFormed_message (Json.extract_isJson extracted) refused
  | oracle cause =>
      have failed := (settles.oracle cause).mp rfl
      rcases textual with ⟨reply, given⟩ | ⟨error, given, whole⟩
      · rw [failed] at given
        cases given
      · rw [failed] at given
        cases given
        exact whole
  | noJson attempts last => exact ⟨_, rfl⟩
  | accident cause => exact ⟨_, rfl⟩
  | illFormedReply => exact ⟨_, rfl⟩
  | unwritable cause => exact ⟨_, rfl⟩

theorem Synthesis.LastAnswer.exists_chat {oracle : Oracle σ} {repair : Bool} {prompt : List Text.Code}
    {start : σ} {last : Answer σ} {calls : List (List ChatMessage)}
    (isLast : LastAnswer oracle repair prompt start last calls) :
    ∃ messages state, last = oracle.chat messages state := by
  cases isLast with
  | first _ => exact ⟨_, _, rfl⟩
  | second _ => exact ⟨_, _, rfl⟩

namespace Explanation

def answerTo (oracle : Oracle σ) (message : List Text.Code) (diff : String) (state : σ) : Answer σ :=
  oracle.chat (Prompt.explainer message diff) state

def events (oracle : Oracle σ) (message : List Text.Code) (diff : String) (state : σ) : List Log.Event :=
  ⟨.info, "explain", [("diff", .text diff)]⟩ :: (answerTo oracle message diff state).events

theorem explain_tells (oracle : Oracle σ) (message : List Text.Code) (previous : Option Plan)
    (next : Plan) (state : σ) :
    (explain oracle message previous next).Tells state
      ((answerTo oracle message (Plan.diffSummary previous next) state).result.mapError
        RunError.ofFailure)
      [Prompt.explainer message (Plan.diffSummary previous next)]
      (answerTo oracle message (Plan.diffSummary previous next) state).state
      (events oracle message (Plan.diffSummary previous next) state) :=
  .after_log (Run.tells_ask oracle (Prompt.explainer message (Plan.diffSummary previous next)))

end Explanation

namespace Agent

open Synthesis (LastAnswer)

variable {agent : Agent} {oracle : Oracle σ} {mode : String} {message prompt : List Text.Code}
  {current : Option Plan} {journal : Journal σ}

def closingEvents (oracle : Oracle σ) (seen : List Text.Code) (diff : String) (plan : Plan)
    (state : σ) : List Log.Event :=
  Explanation.events oracle seen diff state ++
    match (Explanation.answerTo oracle seen diff state).result with
    | .ok explanation => [complete (Source.code plan) explanation]
    | .error _ => []

theorem mode_nodup (mode : String) : (([("mode", .text mode)] : Log.Context).map (·.1)).Nodup :=
  List.nodup_singleton _

theorem run_ends_unwritable {cause : Json.EncodeError}
    (unwritable : Prompt.plannerUser (Instruction.sanitize agent.maxMessageLength message) mode
      current = .error cause) :
    (agent.run oracle mode message current).Ends journal (.error (.unwritable cause)) []
      journal.oracle :=
  ⟨_, Run.Tells.within (Synthesis.synthesize_tells_unwritable unwritable).bind_error
    (mode_nodup mode) rfl⟩

/-- A run ends as the planner does, unless that has a plan; then one more call settles it. What it logs
stands inside a scope that binds the mode. -/
theorem run_tells
    (asked : Prompt.plannerUser (Instruction.sanitize agent.maxMessageLength message) mode current =
      .ok prompt)
    {last : Answer σ} {calls : List (List ChatMessage)}
    (isLast : LastAnswer oracle agent.repairJson prompt journal.oracle last calls)
    {planning : List Log.Event} (planned : planning =
      Synthesis.events oracle agent.repairJson mode current prompt journal.oracle last)
    {scope : Log.Context} (bound : scope = journal.context.setAll [("mode", .text mode)]) :
    (∃ e, last.Settles agent.repairJson (.error e) ∧
      agent.run oracle mode message current journal =
        (.error e, journal.extend last.state calls (planning.map (·.within scope)))) ∨
    ∃ plan seen diff answer, last.Settles agent.repairJson (.ok plan) ∧
      seen = Instruction.sanitize agent.maxMessageLength message ∧
      diff = Plan.diffSummary current plan ∧
      answer = Explanation.answerTo oracle seen diff last.state ∧
      agent.run oracle mode message current journal =
        ((answer.result.mapError RunError.ofFailure).map fun explanation =>
          ⟨plan, Source.code plan, explanation⟩,
        journal.extend answer.state (calls ++ [Prompt.explainer seen diff])
          ((planning ++ closingEvents oracle seen diff plan last.state).map (·.within scope))) := by
  subst planned bound
  obtain ⟨result, settles, synthesized⟩ := @Synthesis.synthesize_tells _ oracle agent.repairJson
    prompt journal.oracle mode (Instruction.sanitize agent.maxMessageLength message) current asked
    last calls isLast
  cases result with
  | error e =>
      exact .inl ⟨e, settles, Run.Tells.within synthesized.bind_error (mode_nodup mode) rfl⟩
  | ok plan =>
      refine .inr ⟨plan, _, _, _, settles, rfl, rfl, rfl, ?_⟩
      refine Run.Tells.within (synthesized.bind ?_) (mode_nodup mode) rfl
      have explained := Explanation.explain_tells oracle
        (Instruction.sanitize agent.maxMessageLength message) current plan last.state
      unfold closingEvents
      cases given : (Explanation.answerTo oracle (Instruction.sanitize agent.maxMessageLength message)
          (Plan.diffSummary current plan) last.state).result with
      | error failure =>
          rw [given] at explained
          rw [List.append_nil]
          exact explained.bind_error
      | ok reply =>
          rw [given] at explained
          exact explained.bind (.after_log (Run.tells_pure _))

theorem run_ends
    (asked : Prompt.plannerUser (Instruction.sanitize agent.maxMessageLength message) mode current =
      .ok prompt)
    {last : Answer σ} {calls : List (List ChatMessage)}
    (isLast : LastAnswer oracle agent.repairJson prompt journal.oracle last calls) :
    (∃ e, last.Settles agent.repairJson (.error e) ∧
      (agent.run oracle mode message current).Ends journal (.error e) calls last.state) ∨
    ∃ plan seen diff answer, last.Settles agent.repairJson (.ok plan) ∧
      seen = Instruction.sanitize agent.maxMessageLength message ∧
      diff = Plan.diffSummary current plan ∧
      answer = Explanation.answerTo oracle seen diff last.state ∧
      (agent.run oracle mode message current).Ends journal
        ((answer.result.mapError RunError.ofFailure).map fun explanation =>
          ⟨plan, Source.code plan, explanation⟩)
        (calls ++ [Prompt.explainer seen diff]) answer.state := by
  rcases run_tells asked isLast rfl rfl with
    ⟨e, settles, ran⟩ | ⟨plan, seen, diff, answer, settles, sameSeen, sameDiff, sameAnswer, ran⟩
  · exact .inl ⟨e, settles, _, ran⟩
  · exact .inr ⟨plan, seen, diff, answer, settles, sameSeen, sameDiff, sameAnswer, _, ran⟩

/-- A run on a plan and then an explanation makes one call for each. -/
theorem run_gives {agent : Agent} {mode diff : String} {message asked prompt : List Text.Code}
    {current : Option Plan} {plan : Plan} {members : Members} {oracle : Oracle σ}
    {journal : Journal σ} {planned explained : List Text.Code}
    (sanitized : Instruction.sanitize agent.maxMessageLength message = asked)
    (prompted : Prompt.plannerUser asked mode current = .ok prompt)
    (first : (oracle.chat (Prompt.planner prompt) journal.oracle).result = .ok planned)
    (extracted : Json.extract agent.repairJson planned = .ok members)
    (valid : Plan.validate (.object members) = .ok plan)
    (differ : Plan.diffSummary current plan = diff)
    (second : (oracle.chat (Prompt.explainer asked diff)
      (oracle.chat (Prompt.planner prompt) journal.oracle).state).result = .ok explained) :
    (agent.run oracle mode message current).Gives journal
      ⟨plan, Source.code plan, explained⟩
      [Prompt.planner prompt, Prompt.explainer asked diff]
      (oracle.chat (Prompt.explainer asked diff)
        (oracle.chat (Prompt.planner prompt) journal.oracle).state).state := by
  subst sanitized differ
  have holds : (Synthesis.answerTo oracle prompt journal.oracle).Holds agent.repairJson members :=
    ⟨planned, first, extracted⟩
  have isLast := LastAnswer.first (Answer.not_unparsed_of_holds holds)
  rcases run_ends prompted isLast with
    ⟨e, settles, -⟩ | ⟨found, seen, diff, answer, settles, rfl, rfl, rfl, ended⟩
  · cases (settles.plan plan).mpr ⟨members, holds, valid⟩
  · cases (settles.plan plan).mpr ⟨members, holds, valid⟩
    have said : (Explanation.answerTo oracle (Instruction.sanitize agent.maxMessageLength message)
        (Plan.diffSummary current plan)
        (Synthesis.answerTo oracle prompt journal.oracle).state).result = .ok explained := second
    rw [said] at ended
    exact ended

/-- Whatever the model replies, what a run gives is sound. -/
theorem sound_of_run {agent : Agent} {oracle : Oracle σ} {mode : String} {message : List Text.Code}
    {current : Option Plan} {journal after : Journal σ} {result : AgentResult}
    (ran : agent.run oracle mode message current journal = (.ok result, after)) :
    result.Sound := by
  cases asked : Prompt.plannerUser (Instruction.sanitize agent.maxMessageLength message) mode
      current with
  | error cause =>
      obtain ⟨events, failed⟩ := run_ends_unwritable asked
      rw [failed] at ran
      cases ran
  | ok prompt =>
      obtain ⟨last, calls, isLast⟩ :=
        Synthesis.exists_lastAnswer oracle agent.repairJson prompt journal.oracle
      rcases run_ends asked isLast with
        ⟨e, -, events, ended⟩ | ⟨plan, seen, diff, answer, settles, -, -, -, events, ended⟩
      · rw [ended] at ran
        cases ran
      · rw [ended, Prod.mk.injEq] at ran
        obtain ⟨explanation, -, rfl⟩ := exists_of_map ran.1
        exact ⟨settles.canonical, rfl⟩

/-- With an oracle that answers in texts, a run gives a result whose explanation is a text, or reports
in a text why it does not. -/
theorem run_reports (agent : Agent) (mode : String) (message : List Text.Code)
    (textual : oracle.IsTextual)
    (canonical : ∀ plan, current = some plan → plan.Canonical .any) (journal : Journal σ) :
    ∃ result after, agent.run oracle mode message current journal = (result, after) ∧
      ((∃ done text, result = .ok done ∧ done.explanation = Text.codes text) ∨
        ∃ e, result = .error e ∧ e.IsReported ∧ Text.WellFormed e.message) := by
  obtain ⟨prompt, asked⟩ := Prompt.exists_plannerUser canonical
    (Instruction.sanitize agent.maxMessageLength message) mode
  obtain ⟨last, calls, isLast⟩ :=
    Synthesis.exists_lastAnswer oracle agent.repairJson prompt journal.oracle
  rcases run_ends asked isLast with
    ⟨e, settles, events, ran⟩ | ⟨plan, seen, diff, answer, -, -, -, same, events, ran⟩
  · obtain ⟨messages, state, rfl⟩ := isLast.exists_chat
    exact ⟨_, _, ran, .inr ⟨e, rfl, settles.isReported (textual messages state),
      settles.wellFormed_message (textual messages state)⟩⟩
  · refine ⟨_, _, ran, ?_⟩
    rcases textual (Prompt.explainer seen diff) last.state with
      ⟨text, given⟩ | ⟨cause, failed, whole⟩
    · have said : answer.result = .ok (Text.codes text) := by
        rw [same]
        exact given
      rw [said]
      exact .inl ⟨_, text, rfl, rfl⟩
    · have said : answer.result = .error (.error cause) := by
        rw [same]
        exact failed
      rw [said]
      exact .inr ⟨_, rfl, .oracle cause, whole⟩

end Agent

end InterfacePlan
