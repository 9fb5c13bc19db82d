import InterfacePlan.Agent.Basic
import InterfacePlan.Service.Gate

set_option autoImplicit false

namespace InterfacePlan.Service

/-- Why a request ended without an answer from its handler. -/
inductive Crash where
  | refusal (cause : Refusal)
  | run (cause : RunError)
  | body (cause : Json.EncodeError)

structure Response where
  status : Nat
  body : String
  crash : Option Crash := none

namespace Response

def crashed (crash : Crash) : Response :=
  ⟨500, "Internal Server Error", some crash⟩

/-- The response with a value as its body. One that has no body ends the handler. -/
def ofValue (status : Nat) (v : Value) : Response :=
  match Json.encodeBody v with
  | .ok text => ⟨status, text, none⟩
  | .error e => crashed (.body e)

def ofTexts (status : Nat) (members : List (String × List Text.Code)) : Response :=
  ofValue status (.object (members.map fun m => (.text m.1, .ofCodes m.2)))

def ofError (status : Nat) (message : List Text.Code) (detail? : Option (List Text.Code)) : Response :=
  ofTexts status (("error", message) :: (detail?.map fun detail => ("detail", detail)).toList)

def refused (refusal : Refusal) : Response :=
  if refusal.isAnswer then ofError 400 refusal.message refusal.detail?
  else crashed (.refusal refusal)

def failed (error : RunError) : Response :=
  ofError 500 (Text.codes "Agent failed to generate UI.") (some error.message)

def ofResult (result : AgentResult) : Response :=
  ofValue 200 result.toWire

end Response

/-- The name under which the failure of a run is logged, if the service has an answer for it. -/
def failureName? : RunError → Option String
  | .noJson .. => some "PlannerError"
  | .invalidPlan (.violation _) => some "PlanValidationError"
  | .oracle _ => some "OracleError"
  | .invalidPlan (.unreadable _) | .accident _ | .illFormedReply | .unwritable _ => none

variable {σ : Type}

/-- Runs the agent and turns what comes of it into a response. -/
def run (agent : Agent) (oracle : Oracle σ) (order : Order) : Journal σ → Response × Journal σ :=
  fun journal =>
    match agent.run oracle order.mode.name (Text.codes order.message) order.currentPlan journal with
    | (.ok result, after) => (.ofResult result, after)
    | (.error e, after) =>
      match failureName? e with
      | none => (.crashed (.run e), after)
      | some name =>
        (.failed e,
          (Run.log ⟨.error, "agent_failed",
            [("error", .ofCodes e.message), ("error_type", .text name)]⟩ after).2)

def requested (order : Order) : Log.Event :=
  ⟨.info, "agent_request",
    [("mode", .text order.mode.name), ("message", .text (String.ofList (order.message.toList.take 50)))]⟩

def answer (platform : Platform) (agent : Agent) (oracle : Oracle σ) (body : List UInt8) :
    Journal σ → Response × Journal σ :=
  fun journal =>
    match gate platform body with
    | .error refusal =>
      if refusal.isAboutPlan then
        (.refused refusal,
          (Run.log ⟨.warning, "invalid_current_plan", [("error", .ofCodes refusal.message)]⟩ journal).2)
      else (.refused refusal, journal)
    | .ok order => run agent oracle order (Run.log (requested order) journal).2

structure HttpRequest where
  method : String := "POST"
  path : String := "/api/agent"
  body : List UInt8 := []

inductive Endpoint where
  | health
  | agent
  deriving DecidableEq

namespace Endpoint

def all : List Endpoint :=
  [.health, .agent]

def path : Endpoint → String
  | .health => "/health"
  | .agent => "/api/agent"

def method : Endpoint → String
  | .health => "GET"
  | .agent => "POST"

/-- The endpoint that a path names; a line break at its end does not count. -/
def ofPath? (path : String) : Option Endpoint :=
  all.find? fun e => path = e.path || path = e.path ++ "\n"

end Endpoint

/-- The path with slashes at its end taken away, or one added if it has none. -/
def otherPath (path : String) : String :=
  let reversed := path.toList.reverse
  String.ofList
    (if reversed.head? = some '/' then (reversed.dropWhile (· = '/')).reverse
    else path.toList ++ ['/'])

/-- The response to a path that no endpoint has: a redirection if only slashes at its end keep it from
being one. -/
def unknownPath (path : String) : Response :=
  if path ≠ "/" ∧ (Endpoint.ofPath? (otherPath path)).isSome then ⟨307, "", none⟩
  else .ofTexts 404 [("detail", Text.codes "Not Found")]

def handle (platform : Platform) (agent : Agent) (oracle : Oracle σ) (request : HttpRequest) :
    Journal σ → Response × Journal σ :=
  fun journal =>
    match Endpoint.ofPath? request.path with
    | none => (unknownPath request.path, journal)
    | some endpoint =>
      if request.method ≠ endpoint.method then
        (.ofTexts 405 [("detail", Text.codes "Method Not Allowed")], journal)
      else
        match endpoint with
        | .health => (.ofTexts 200 [("status", Text.codes "ok")], journal)
        | .agent => answer platform agent oracle request.body journal

end InterfacePlan.Service
