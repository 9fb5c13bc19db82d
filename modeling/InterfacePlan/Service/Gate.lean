import InterfacePlan.Json.Body
import InterfacePlan.Plan.Validation
import InterfacePlan.Platform
import InterfacePlan.Request

set_option autoImplicit false

namespace InterfacePlan.Service

structure Order where
  mode : Mode
  message : String
  currentPlan : Option Plan
  deriving DecidableEq

/-- Why a request is refused. The last three have no answer of their own. -/
inductive Refusal where
  | notJson
  | notObject
  | modeOrMessage
  | request (detail : String)
  | payload (cause : Json.LimitError)
  | plan (cause : Violation)
  | exhausted
  | unencodable (cause : Json.EncodeError)
  | unreadable (issues : List Schema.Issue)
  deriving DecidableEq

namespace Refusal

def message : Refusal → List Text.Code
  | .notJson => Text.codes "Request body must be JSON"
  | .notObject => Text.codes "Request body must be a JSON object"
  | .modeOrMessage => Text.codes "Missing mode or message"
  | .request _ => Text.codes "Invalid request"
  | .payload cause => Text.codes cause.message
  | .plan cause => cause.message
  | .exhausted | .unencodable _ | .unreadable _ => Text.codes "Internal Server Error"

def detail? : Refusal → Option (List Text.Code)
  | .request detail => some (Text.codes detail)
  | _ => none

def isAboutPlan : Refusal → Bool
  | .payload _ | .plan _ => true
  | _ => false

/-- Whether a refusal is an answer to the client, and not a failure of the service. -/
def isAnswer : Refusal → Bool
  | .exhausted | .unencodable _ | .unreadable _ => false
  | _ => true

end Refusal

def isAboutModeOrMessage (issue : Schema.Issue) : Bool :=
  match issue.location with
  | .name "mode" :: _ | .name "message" :: _ => true
  | _ => false

/-- The plan that a payload is, once it keeps the bounds. -/
def readCurrentPlan (members : Members) : Except Refusal Plan :=
  match Payload.check members with
  | .error (.unencodable e) => .error (.unencodable e)
  | .error (.limit e) => .error (.payload e)
  | .ok () =>
    match Plan.validate (.object members) with
    | .error (.violation v) => .error (.plan v)
    | .error (.unreadable issues) => .error (.unreadable issues)
    | .ok plan => .ok plan

def order (request : Request) : Except Refusal Order :=
  match request.currentPlan with
  | none => .ok ⟨request.mode, request.message, none⟩
  | some members =>
    match readCurrentPlan members with
    | .error e => .error e
    | .ok plan => .ok ⟨request.mode, request.message, some plan⟩

/-- The order that the body of a request is. -/
def gate (platform : Platform) (body : List UInt8) : Except Refusal Order :=
  match Json.decodeBody platform.room body with
  | .error .exhausted => .error .exhausted
  | .error _ => .error .notJson
  | .ok v =>
    if v.isObject then
      match Request.ofRecord v with
      | .error issues =>
        if issues.any isAboutModeOrMessage then .error .modeOrMessage
        else .error (.request (platform.prose v issues))
      | .ok request => order request
    else .error .notObject

end InterfacePlan.Service
