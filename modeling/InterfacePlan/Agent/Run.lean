import InterfacePlan.Json.Reply
import InterfacePlan.Oracle.Basic
import InterfacePlan.Plan.Validation

set_option autoImplicit false

namespace InterfacePlan

/-- Why a run gave no result. -/
inductive RunError where
  | noJson (attempts : Nat) (last : Json.ReplyError)
  | invalidPlan (cause : PlanError)
  | oracle (cause : OracleError)
  | accident (cause : Accident)
  /-- The object in a reply holds a surrogate that stands alone. -/
  | illFormedReply
  | unwritable (cause : Json.EncodeError)

def RunError.message : RunError → List Text.Code
  | .noJson .. => Text.codes "Planner failed to return valid JSON plan"
  | .invalidPlan (.violation v) => v.message
  | .invalidPlan (.unreadable _) => Text.codes "The plan has an unreadable node"
  | .oracle cause => cause.message
  | .accident cause => Text.codes cause.message
  | .illFormedReply => Text.codes Json.ReplyError.illFormed.message
  | .unwritable cause => Text.codes cause.message

def RunError.ofFailure : OracleFailure → RunError
  | .error cause => .oracle cause
  | .accident cause => .accident cause

/-- What happened so far. -/
structure Journal (σ : Type) where
  oracle : σ
  context : Log.Context := []
  events : List Log.Event := []
  calls : List (List ChatMessage) := []

def Run (σ α : Type) : Type :=
  Journal σ → Except RunError α × Journal σ

namespace Run

variable {σ α β : Type}

def pure (a : α) : Run σ α :=
  fun journal => (.ok a, journal)

def bind (first : Run σ α) (next : α → Run σ β) : Run σ β :=
  fun journal =>
    match first journal with
    | (.ok a, after) => next a after
    | (.error e, after) => (.error e, after)

instance : Monad (Run σ) where
  pure := pure
  bind := bind

theorem bind_of_ok {first : Run σ α} {next : α → Run σ β} {journal after : Journal σ} {a : α}
    (h : first journal = (.ok a, after)) : (first >>= next) journal = next a after := by
  simp only [Bind.bind, bind, h]

theorem bind_of_error {first : Run σ α} {next : α → Run σ β} {journal after : Journal σ}
    {e : RunError} (h : first journal = (.error e, after)) :
    (first >>= next) journal = (.error e, after) := by
  simp only [Bind.bind, bind, h]

def fail (e : RunError) : Run σ α :=
  fun journal => (.error e, journal)

def log (event : Log.Event) : Run σ Unit :=
  fun journal =>
    (.ok (), { journal with events := journal.events ++ [event.within journal.context] })

/-- Calls the oracle once. -/
def ask (oracle : Oracle σ) (messages : List ChatMessage) : Run σ (List Text.Code) :=
  fun journal =>
    let answer := oracle.chat messages journal.oracle
    (answer.result.mapError RunError.ofFailure,
      { journal with
        oracle := answer.state
        calls := journal.calls ++ [messages]
        events := journal.events ++ answer.events.map fun e => e.within journal.context })

/-- Binds fields to all events of a run. What was bound before is restored however the run ends. -/
def within (fields : Log.Context) (run : Run σ α) : Run σ α :=
  fun journal =>
    let scopes := Log.Scopes.enter ⟨journal.context, []⟩ fields
    match run { journal with context := scopes.context } with
    | (result, after) =>
      (result, { after with context := (Log.Scopes.leave ⟨after.context, scopes.saved⟩).context })

end Run

end InterfacePlan
