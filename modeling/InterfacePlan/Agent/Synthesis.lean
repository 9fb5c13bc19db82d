import InterfacePlan.Agent.Run
import InterfacePlan.Prompt

set_option autoImplicit false

namespace InterfacePlan

inductive SynthesisState where
  | drafting
  | awaitingOracle
  | parsed
  | retrying
  | validated
  | failed
  deriving DecidableEq

def SynthesisState.name : SynthesisState → String
  | .drafting => "drafting"
  | .awaitingOracle => "awaiting-oracle"
  | .parsed => "parsed"
  | .retrying => "retrying"
  | .validated => "validated"
  | .failed => "failed"

namespace Synthesis

variable {σ : Type}

def reached (state : SynthesisState) (fields : Log.Context) : Log.Event :=
  ⟨if state = .failed then .warning else .info, "synthesis_state",
    ("state", .text state.name) :: fields⟩

def maxAttempts : Nat := 2

/-- Asks once, and looks for a JSON object in the reply. An ill-formed one ends the run. -/
def attempt (oracle : Oracle σ) (repair : Bool) (number : Nat) (prompt : List Text.Code) :
    Run σ (Except Json.ReplyError Members) := do
  Run.log (reached .awaitingOracle [("attempt", .int number)])
  let reply ← Run.ask oracle [⟨.system, Prompt.plannerSystem⟩, ⟨.user, prompt⟩]
  match Json.extract repair reply with
  | .ok members =>
    Run.log (reached .parsed [("attempt", .int number)])
    return .ok members
  | .error .illFormed => Run.fail .illFormedReply
  | .error e => return .error e

/-- Asks, and on a reply without a JSON object asks once more. -/
def object (oracle : Oracle σ) (repair : Bool) (prompt : List Text.Code) :
    Run σ (Except Json.ReplyError Members) := do
  match ← attempt oracle repair 1 prompt with
  | .ok members => return .ok members
  | .error e =>
    Run.log (reached .retrying [("error", .text e.message)])
    attempt oracle repair 2 (Prompt.plannerRetry prompt)

def accept (members : Members) : Run σ Plan := do
  match Plan.validate (.object members) with
  | .ok plan =>
    let duplicates := plan.root.duplicateIds
    if duplicates ≠ [] then
      Run.log ⟨.warning, "duplicate_node_ids", [("ids", .list (duplicates.map Value.text))]⟩
    Run.log (reached .validated [("nodes", .int plan.root.preorder.length)])
    return plan
  | .error (.violation v) =>
    Run.log (reached .failed
      [("reason", .text "invalid_plan"), ("path", .text v.path), ("error", .ofCodes v.message)])
    Run.fail (.invalidPlan (.violation v))
  | .error (.unreadable issues) => Run.fail (.invalidPlan (.unreadable issues))

def drafting (mode : String) (current : Option Plan) : Log.Event :=
  reached .drafting [("mode", .text mode), ("has_current", .bool current.isSome)]

/-- The plan that the model draws up for an instruction. -/
def synthesize (oracle : Oracle σ) (repair : Bool) (mode : String) (message : List Text.Code)
    (current : Option Plan) : Run σ Plan := do
  Run.log (drafting mode current)
  match Prompt.plannerUser message mode current with
  | .error e => Run.fail (.unwritable e)
  | .ok prompt =>
    match ← object oracle repair prompt with
    | .ok members => accept members
    | .error e =>
      Run.log (reached .failed
        [("reason", .text "invalid_json"), ("error", .text e.message)])
      Run.fail (.noJson maxAttempts e)

end Synthesis

end InterfacePlan
