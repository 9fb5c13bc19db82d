import InterfacePlan.Proofs.Agent.Journal
import InterfacePlan.Proofs.Json.Received
import InterfacePlan.Proofs.Prompt

set_option autoImplicit false

namespace InterfacePlan

variable {σ : Type}

namespace Answer

/-- The answer is a text with a JSON object. -/
def Holds (repair : Bool) (answer : Answer σ) (members : Members) : Prop :=
  ∃ reply, answer.result = .ok reply ∧ Json.extract repair reply = .ok members

/-- The answer is a text from which no JSON object can be read. -/
def Unparsed (repair : Bool) (answer : Answer σ) (e : Json.ReplyError) : Prop :=
  e ≠ .illFormed ∧ ∃ reply, answer.result = .ok reply ∧ Json.extract repair reply = .error e

/-- The answer is a text with a surrogate that stands alone where the JSON object should be. -/
def IllFormed (repair : Bool) (answer : Answer σ) : Prop :=
  ∃ reply, answer.result = .ok reply ∧ Json.extract repair reply = .error .illFormed

/-- The result of a synthesis that asks for nothing after this answer. -/
structure Settles (repair : Bool) (answer : Answer σ) (result : Except RunError Plan) : Prop where
  plan : ∀ plan, result = .ok plan ↔
    ∃ members, answer.Holds repair members ∧ Plan.validate (.object members) = .ok plan
  invalid : ∀ cause, result = .error (.invalidPlan cause) ↔
    ∃ members v, answer.Holds repair members ∧
      Plan.validate (.object members) = .error (.violation v) ∧ cause = .violation v
  noJson : ∀ attempts e, result = .error (.noJson attempts e) ↔
    attempts = 2 ∧ answer.Unparsed repair e
  oracle : ∀ cause, result = .error (.oracle cause) ↔ answer.result = .error (.error cause)
  accident : ∀ cause, result = .error (.accident cause) ↔ answer.result = .error (.accident cause)
  illFormed : result = .error .illFormedReply ↔ answer.IllFormed repair
  written : ∀ cause, result ≠ .error (.unwritable cause)

variable {repair : Bool} {answer : Answer σ}

section text

variable {reply : List Text.Code} (given : answer.result = .ok reply)
include given

theorem holds_iff {members : Members} :
    answer.Holds repair members ↔ Json.extract repair reply = .ok members := by
  simp only [Holds, given, Except.ok.injEq, exists_eq_left']

theorem unparsed_iff {e : Json.ReplyError} :
    answer.Unparsed repair e ↔ e ≠ .illFormed ∧ Json.extract repair reply = .error e := by
  simp only [Unparsed, given, Except.ok.injEq, exists_eq_left']

theorem illFormed_iff :
    answer.IllFormed repair ↔ Json.extract repair reply = .error .illFormed := by
  simp only [IllFormed, given, Except.ok.injEq, exists_eq_left']

end text

theorem not_unparsed_of_failure {failure : OracleFailure} (failed : answer.result = .error failure)
    (e : Json.ReplyError) : ¬ answer.Unparsed repair e := by
  rintro ⟨-, reply, given, -⟩
  rw [failed] at given
  cases given

theorem not_unparsed_of_illFormed (illFormed : answer.IllFormed repair) (e : Json.ReplyError) :
    ¬ answer.Unparsed repair e := by
  obtain ⟨reply, given, refused⟩ := illFormed
  rw [unparsed_iff given, refused]
  rintro ⟨sound, same⟩
  exact sound (Except.error.inj same).symm

theorem not_unparsed_of_holds {members : Members} (holds : answer.Holds repair members)
    (e : Json.ReplyError) : ¬ answer.Unparsed repair e := by
  obtain ⟨reply, given, extracted⟩ := holds
  rw [unparsed_iff given, extracted]
  rintro ⟨-, other⟩
  cases other

theorem settles_of_failure {failure : OracleFailure} (failed : answer.result = .error failure) :
    answer.Settles repair (.error (.ofFailure failure)) := by
  cases failure <;> constructor <;>
    simp [Holds, Unparsed, IllFormed, failed, RunError.ofFailure]

theorem settles_of_illFormed (illFormed : answer.IllFormed repair) :
    answer.Settles repair (.error .illFormedReply) := by
  have parsed := not_unparsed_of_illFormed illFormed
  obtain ⟨reply, given, refused⟩ := illFormed
  constructor <;> simp [holds_iff given, illFormed_iff given, parsed, given, refused]

theorem settles_of_unparsed {e : Json.ReplyError} (unparsed : answer.Unparsed repair e) :
    answer.Settles repair (.error (.noJson 2 e)) := by
  obtain ⟨sound, reply, given, refused⟩ := unparsed
  have only : ∀ other, answer.Unparsed repair other ↔ e = other := by
    intro other
    rw [unparsed_iff given, refused]
    constructor
    · rintro ⟨-, same⟩
      exact Except.error.inj same
    · rintro rfl
      exact ⟨sound, rfl⟩
  constructor <;>
    simp [holds_iff given, illFormed_iff given, only, given, refused, sound, eq_comm]

/-- What is extracted is JSON, so that it is a plan or violates the grammar of plans. -/
theorem validate_of_holds {members : Members} (holds : answer.Holds repair members) :
    (∃ plan, Plan.validate (.object members) = .ok plan) ∨
      ∃ v, Plan.validate (.object members) = .error (.violation v) := by
  obtain ⟨reply, -, extracted⟩ := holds
  exact Plan.validate_cases (Plan.kept_of_isJson (Json.extract_isJson extracted))

/-- A plan that is settled on was extracted from a reply, so that it is canonical. -/
theorem Settles.canonical {plan : Plan} (settles : answer.Settles repair (.ok plan)) :
    plan.Canonical .received := by
  obtain ⟨members, ⟨reply, -, extracted⟩, valid⟩ := (settles.plan plan).mp rfl
  exact Plan.canonical_of_validate (Json.extract_isJson extracted) valid

theorem settles_of_holds {members : Members} (holds : answer.Holds repair members) :
    answer.Settles repair ((Plan.validate (.object members)).mapError .invalidPlan) := by
  have validated := validate_of_holds holds
  obtain ⟨reply, given, extracted⟩ := holds
  rcases validated with ⟨plan, valid⟩ | ⟨v, valid⟩ <;> rw [valid] <;> constructor <;>
    simp [holds_iff given, unparsed_iff given, illFormed_iff given, given, extracted, valid,
      Except.mapError, eq_comm]

theorem Settles.unique {first second : Except RunError Plan}
    (settles : answer.Settles repair first) (again : answer.Settles repair second) :
    first = second := by
  cases first with
  | ok plan => exact ((again.plan plan).mpr ((settles.plan plan).mp rfl)).symm
  | error e =>
      cases e with
      | noJson attempts last =>
          exact ((again.noJson attempts last).mpr ((settles.noJson attempts last).mp rfl)).symm
      | invalidPlan cause =>
          exact ((again.invalid cause).mpr ((settles.invalid cause).mp rfl)).symm
      | oracle cause => exact ((again.oracle cause).mpr ((settles.oracle cause).mp rfl)).symm
      | accident cause =>
          exact ((again.accident cause).mpr ((settles.accident cause).mp rfl)).symm
      | illFormedReply => exact (again.illFormed.mpr (settles.illFormed.mp rfl)).symm
      | unwritable cause => exact absurd rfl (settles.written cause)

/-- What an attempt makes of an answer: a failure of the run, an object, or a reason to ask once
more. -/
def attempted (repair : Bool) (answer : Answer σ) :
    Except RunError (Except Json.ReplyError Members) :=
  match answer.result with
  | .error failure => .error (.ofFailure failure)
  | .ok reply =>
    match Json.extract repair reply with
    | .ok members => .ok (.ok members)
    | .error .illFormed => .error .illFormedReply
    | .error e => .ok (.error e)

theorem attempted_cases (repair : Bool) (answer : Answer σ) :
    (∃ e, answer.attempted repair = .error e ∧ answer.Settles repair (.error e) ∧
      ∀ e, ¬ answer.Unparsed repair e) ∨
    (∃ members, answer.attempted repair = .ok (.ok members) ∧ answer.Holds repair members) ∨
    ∃ e, answer.attempted repair = .ok (.error e) ∧ answer.Unparsed repair e := by
  unfold attempted
  cases given : answer.result with
  | error failure =>
      exact .inl ⟨_, rfl, settles_of_failure given, not_unparsed_of_failure given⟩
  | ok reply =>
      simp only
      split
      · rename_i members extracted
        exact .inr (.inl ⟨members, rfl, reply, given, extracted⟩)
      · rename_i refused
        have illFormed : answer.IllFormed repair := ⟨reply, given, refused⟩
        exact .inl ⟨_, rfl, settles_of_illFormed illFormed, not_unparsed_of_illFormed illFormed⟩
      · rename_i e sound refused
        exact .inr (.inr ⟨e, rfl, sound, reply, given, refused⟩)

end Answer

namespace Synthesis

variable {oracle : Oracle σ} {repair : Bool} {prompt : List Text.Code} {journal : Journal σ} {start : σ}

def answerTo (oracle : Oracle σ) (prompt : List Text.Code) (state : σ) : Answer σ :=
  oracle.chat (Prompt.planner prompt) state

/-- The answer that comes last, and the calls up to it. There is a second call if and only if the
answer to the first one is a text without a JSON object. -/
inductive LastAnswer (oracle : Oracle σ) (repair : Bool) (prompt : List Text.Code) (start : σ) :
    Answer σ → List (List ChatMessage) → Prop
  | first (parsed : ∀ e, ¬ (answerTo oracle prompt start).Unparsed repair e) :
      LastAnswer oracle repair prompt start (answerTo oracle prompt start) [Prompt.planner prompt]
  | second {e : Json.ReplyError} (unparsed : (answerTo oracle prompt start).Unparsed repair e) :
      LastAnswer oracle repair prompt start
        (answerTo oracle (Prompt.plannerRetry prompt) (answerTo oracle prompt start).state)
        [Prompt.planner prompt, Prompt.planner (Prompt.plannerRetry prompt)]

theorem exists_lastAnswer (oracle : Oracle σ) (repair : Bool) (prompt : List Text.Code) (start : σ) :
    ∃ last calls, LastAnswer oracle repair prompt start last calls := by
  by_cases unparsed : ∃ e, (answerTo oracle prompt start).Unparsed repair e
  · obtain ⟨e, unparsed⟩ := unparsed
    exact ⟨_, _, .second unparsed⟩
  · exact ⟨_, _, .first fun e here => unparsed ⟨e, here⟩⟩

theorem LastAnswer.length_le {last : Answer σ} {calls : List (List ChatMessage)}
    (isLast : LastAnswer oracle repair prompt start last calls) : calls.length ≤ 2 := by
  cases isLast with
  | first _ => exact Nat.le_succ 1
  | second _ => exact Nat.le_refl 2

def attemptEvents (repair : Bool) (number : Nat) (answer : Answer σ) : List Log.Event :=
  reached .awaitingOracle [("attempt", .int number)] :: (answer.events ++
    match answer.attempted repair with
    | .ok (.ok _) => [reached .parsed [("attempt", .int number)]]
    | _ => [])

def objectEvents (oracle : Oracle σ) (repair : Bool) (prompt : List Text.Code) (start : σ) :
    List Log.Event :=
  let first := answerTo oracle prompt start
  attemptEvents repair 1 first ++
    match first.attempted repair with
    | .ok (.error e) =>
      reached .retrying [("error", .text e.message)] ::
        attemptEvents repair 2 (answerTo oracle (Prompt.plannerRetry prompt) first.state)
    | _ => []

def acceptEvents (members : Members) : List Log.Event :=
  match Plan.validate (.object members) with
  | .ok plan =>
    (if plan.root.duplicateIds ≠ [] then
      [⟨.warning, "duplicate_node_ids", [("ids", .list (plan.root.duplicateIds.map Value.text))]⟩]
    else []) ++ [reached .validated [("nodes", .int plan.root.preorder.length)]]
  | .error (.violation v) =>
    [reached .failed
      [("reason", .text "invalid_plan"), ("path", .text v.path), ("error", .ofCodes v.message)]]
  | .error (.unreadable _) => []

def conclusionEvents (repair : Bool) (last : Answer σ) : List Log.Event :=
  match last.attempted repair with
  | .ok (.ok members) => acceptEvents members
  | .ok (.error e) =>
    [reached .failed [("reason", .text "invalid_json"), ("error", .text e.message)]]
  | .error _ => []

def events (oracle : Oracle σ) (repair : Bool) (mode : String) (current : Option Plan)
    (prompt : List Text.Code) (start : σ) (last : Answer σ) : List Log.Event :=
  drafting mode current ::
    (objectEvents oracle repair prompt start ++ conclusionEvents repair last)

theorem attempt_tells (oracle : Oracle σ) (repair : Bool) (number : Nat) (prompt : List Text.Code)
    (start : σ) :
    (attempt oracle repair number prompt).Tells start
      ((answerTo oracle prompt start).attempted repair) [Prompt.planner prompt]
      (answerTo oracle prompt start).state
      (attemptEvents repair number (answerTo oracle prompt start)) := by
  have asked : (Run.ask oracle (Prompt.planner prompt)).Tells start
      ((answerTo oracle prompt start).result.mapError RunError.ofFailure) [Prompt.planner prompt]
      (answerTo oracle prompt start).state (answerTo oracle prompt start).events :=
    Run.tells_ask oracle (Prompt.planner prompt)
  unfold attemptEvents Answer.attempted
  apply Run.Tells.after_log
  cases given : (answerTo oracle prompt start).result with
  | error failure =>
      rw [given] at asked
      rw [List.append_nil]
      exact asked.bind_error
  | ok reply =>
      rw [given] at asked
      refine asked.bind ?_
      simp only
      cases Json.extract repair reply with
      | ok members => exact .after_log (Run.tells_pure _)
      | error e =>
          cases e with
          | illFormed => exact Run.tells_fail _
          | _ => exact Run.tells_pure _

theorem object_tells {last : Answer σ} {calls : List (List ChatMessage)}
    (isLast : LastAnswer oracle repair prompt start last calls) :
    (object oracle repair prompt).Tells start (last.attempted repair) calls last.state
      (objectEvents oracle repair prompt start) := by
  have first := attempt_tells oracle repair 1 prompt start
  unfold objectEvents
  rcases (answerTo oracle prompt start).attempted_cases repair with
    ⟨e, same, -, parsed⟩ | ⟨members, same, holds⟩ | ⟨e, same, unparsed⟩
  · cases isLast with
    | first _ =>
        simp only [same, List.append_nil] at first ⊢
        exact first.bind_error
    | second again => exact absurd again (parsed _)
  · cases isLast with
    | first _ =>
        simp only [same] at first ⊢
        exact first.bind (Run.tells_pure _)
    | second again => exact absurd again (Answer.not_unparsed_of_holds holds _)
  · cases isLast with
    | first parsed => exact absurd unparsed (parsed e)
    | second _ =>
        simp only [same] at first ⊢
        exact first.bind (.after_log (attempt_tells oracle repair 2 _ _))

/-- An object that the oracle gave is validated without another call. -/
theorem accept_tells {answer : Answer σ} {members : Members} (holds : answer.Holds repair members) :
    (accept members).Tells start ((Plan.validate (.object members)).mapError .invalidPlan) []
      start (acceptEvents members) := by
  unfold accept acceptEvents
  rcases Answer.validate_of_holds holds with ⟨plan, valid⟩ | ⟨v, valid⟩ <;> rw [valid]
  · simp only
    split
    · exact .after_log (.after_log (Run.tells_pure _))
    · exact .after_log (Run.tells_pure _)
  · exact .after_log (Run.tells_fail _)

theorem synthesize_tells_unwritable {mode : String} {message : List Text.Code} {current : Option Plan}
    {cause : Json.EncodeError}
    (unwritable : Prompt.plannerUser message mode current = .error cause) :
    (synthesize oracle repair mode message current).Tells start (.error (.unwritable cause)) []
      start [drafting mode current] := by
  apply Run.Tells.after_log
  simp only [unwritable]
  exact Run.tells_fail _

/-- A synthesis ends as the last answer settles it, and its events tell it step by step. -/
theorem synthesize_tells {mode : String} {message : List Text.Code} {current : Option Plan}
    (asked : Prompt.plannerUser message mode current = .ok prompt) {last : Answer σ}
    {calls : List (List ChatMessage)} (isLast : LastAnswer oracle repair prompt start last calls) :
    ∃ result, last.Settles repair result ∧
      (synthesize oracle repair mode message current).Tells start result calls last.state
        (events oracle repair mode current prompt start last) := by
  have objects := object_tells isLast
  unfold events conclusionEvents
  rcases last.attempted_cases repair with
    ⟨e, same, settles, -⟩ | ⟨members, same, holds⟩ | ⟨e, same, unparsed⟩ <;> rw [same] at objects
  · refine ⟨_, settles, .after_log ?_⟩
    simp only [asked, same, List.append_nil]
    exact objects.bind_error
  · refine ⟨_, Answer.settles_of_holds holds, .after_log ?_⟩
    simp only [asked, same]
    rw [← List.append_nil calls]
    exact objects.bind (accept_tells holds)
  · refine ⟨_, Answer.settles_of_unparsed unparsed, .after_log ?_⟩
    simp only [asked, same]
    rw [← List.append_nil calls]
    exact objects.bind (.after_log (Run.tells_fail _))

theorem synthesize_ends {mode : String} {message : List Text.Code} {current : Option Plan}
    (asked : Prompt.plannerUser message mode current = .ok prompt) {last : Answer σ}
    {calls : List (List ChatMessage)} (isLast : LastAnswer oracle repair prompt start last calls)
    (here : journal.oracle = start) :
    ∃ result, last.Settles repair result ∧
      (synthesize oracle repair mode message current).Ends journal result calls last.state := by
  obtain ⟨result, settles, tells⟩ := synthesize_tells asked isLast
  exact ⟨result, settles, tells.ends here⟩

/-- A synthesis asks once, or twice if the first answer is a text without a JSON object, and ends as
the answer that comes last settles it. -/
theorem synthesize_retry (oracle : Oracle σ) (repair : Bool) (mode : String) (message : List Text.Code)
    (current : Option Plan)
    (trusted : ∀ plan, current = some plan →
      ∃ raw : Value, raw.isJson .any ∧ Plan.validate raw = .ok plan) :
    ∃ prompt, Prompt.plannerUser message mode current = .ok prompt ∧
      ∀ journal : Journal σ, ∃ last calls result,
        LastAnswer oracle repair prompt journal.oracle last calls ∧ last.Settles repair result ∧
        (synthesize oracle repair mode message current).Ends journal result calls last.state := by
  obtain ⟨prompt, asked⟩ := Prompt.exists_plannerUser_of_read trusted message mode
  refine ⟨prompt, asked, ?_⟩
  intro journal
  obtain ⟨last, calls, isLast⟩ := exists_lastAnswer oracle repair prompt journal.oracle
  obtain ⟨result, settles, ended⟩ := synthesize_ends asked isLast rfl
  exact ⟨last, calls, result, isLast, settles, ended⟩

def textOracle : Oracle (List (List Text.Code)) where
  chat _ texts :=
    match texts with
    | [] => ⟨.error (.error ⟨Text.codes "no text left", none, none⟩), [], []⟩
    | text :: rest => ⟨.ok text, [], rest⟩

def rawCard : Value :=
  .object
    [(.text "layout", .object [(.text "layoutStyle", .text "custom")]),
      (.text "root", .object [(.text "id", .text "c"), (.text "kind", .text "card")])]

/-- A reply whose object holds half of a surrogate pair. -/
def halfPair : List Text.Code :=
  Text.codes "\x7b\"a\":\"" ++ .surrogate 0xD83D :: Text.codes "\"\x7d"

/-- Such a reply ends a synthesis, though another one was to come. -/
theorem synthesize_retry_half_pair :
    ∃ plan prompt, Plan.validate rawCard = .ok plan ∧
      Prompt.plannerUser (Text.codes "Go on.") "modify" (some plan) = .ok prompt ∧
      (synthesize textOracle true "modify" (Text.codes "Go on.") (some plan)).Ends
        { oracle := [halfPair, Text.codes "\x7b\x7d"] } (.error .illFormedReply)
        [Prompt.planner prompt] [Text.codes "\x7b\x7d"] := by
  obtain ⟨plan, read⟩ : ∃ plan, Plan.validate rawCard = .ok plan := ⟨_, rfl⟩
  obtain ⟨prompt, asked, ran⟩ := synthesize_retry textOracle true "modify" (Text.codes "Go on.")
    (some plan) (by rintro other ⟨⟩; exact ⟨rawCard, by decide, read⟩)
  obtain ⟨last, calls, result, isLast, settles, ended⟩ :=
    ran { oracle := [halfPair, Text.codes "\x7b\x7d"] }
  have illFormed : (answerTo textOracle prompt [halfPair, Text.codes "\x7b\x7d"]).IllFormed true :=
    ⟨halfPair, rfl, by decide⟩
  cases isLast with
  | second unparsed => exact absurd unparsed (Answer.not_unparsed_of_illFormed illFormed _)
  | first _ =>
      rw [settles.illFormed.mpr illFormed] at ended
      exact ⟨plan, prompt, read, asked, ended⟩

end Synthesis

end InterfacePlan
