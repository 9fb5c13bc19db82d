import InterfacePlan.Agent.Synthesis
import InterfacePlan.Instruction
import InterfacePlan.Plan.Diff
import InterfacePlan.Source.Component

set_option autoImplicit false

namespace InterfacePlan

variable {σ : Type}

namespace Explanation

/-- Asks the model to explain how a plan differs from the one before it. -/
def explain (oracle : Oracle σ) (message : List Text.Code) (previous : Option Plan) (next : Plan) :
    Run σ (List Text.Code) := do
  let diff := Plan.diffSummary previous next
  Run.log ⟨.info, "explain", [("diff", .text diff)]⟩
  Run.ask oracle
    [⟨.system, Prompt.explainerSystem⟩, ⟨.user, Prompt.explainerUser message diff⟩]

end Explanation

structure AgentResult where
  plan : Plan
  code : List Text.Code
  explanation : List Text.Code

def AgentResult.toWire (result : AgentResult) : Value :=
  .object
    [(.text "plan", result.plan.toWire), (.text "code", .ofCodes result.code),
      (.text "explanation", .ofCodes result.explanation)]

structure Agent where
  repairJson : Bool := false
  maxMessageLength : Int := 4000
  deriving DecidableEq

namespace Agent

def complete (code explanation : List Text.Code) : Log.Event :=
  ⟨.info, "agent_complete",
    [("code_lines", .int (code.count (.char '\n'))), ("explanation_chars", .int explanation.length)]⟩

def run (agent : Agent) (oracle : Oracle σ) (mode : String) (message : List Text.Code)
    (current : Option Plan) : Run σ AgentResult :=
  Run.within [("mode", .text mode)] do
    let message := Instruction.sanitize agent.maxMessageLength message
    let plan ← Synthesis.synthesize oracle agent.repairJson mode message current
    let code := Source.code plan
    let explanation ← Explanation.explain oracle message current plan
    Run.log (complete code explanation)
    return ⟨plan, code, explanation⟩

end Agent

end InterfacePlan
