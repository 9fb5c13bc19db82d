import InterfacePlan.Agent.Basic

set_option autoImplicit false

namespace InterfacePlan

/-- The oracle of a session and its plans, the newest first. -/
structure Session (σ : Type) where
  oracle : σ
  plans : List Plan := []

namespace Session

variable {σ : Type}

def current (session : Session σ) : Option Plan :=
  session.plans.head?

/-- Runs the agent on the newest plan; the journal tells what happened. -/
def run (agent : Agent) (oracle : Oracle σ) (mode : String) (message : List Text.Code)
    (session : Session σ) : Except RunError AgentResult × Journal σ × Session σ :=
  match agent.run oracle mode message session.current { oracle := session.oracle } with
  | (.ok result, after) => (.ok result, after, ⟨after.oracle, result.plan :: session.plans⟩)
  | (.error e, after) => (.error e, after, ⟨after.oracle, session.plans⟩)

def rollback (count : Nat) (session : Session σ) : Session σ :=
  { session with plans := session.plans.drop count }

end Session

end InterfacePlan
