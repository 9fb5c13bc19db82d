import InterfacePlan.Json.Encode
import InterfacePlan.Json.Limits
import InterfacePlan.Schema.Issue

set_option autoImplicit false

namespace InterfacePlan

open Schema

inductive Mode where
  | initial
  | modify
  | regenerate
  deriving DecidableEq

namespace Mode

def all : List Mode :=
  [.initial, .modify, .regenerate]

def name : Mode → String
  | .initial => "initial"
  | .modify => "modify"
  | .regenerate => "regenerate"

def ofName? (s : String) : Option Mode :=
  all.find? fun m => m.name = s

end Mode

structure Request where
  mode : Mode
  message : String
  currentPlan : Option Members

namespace Request

def readMode : Value → Checked Mode
  | .text s =>
    match Mode.ofName? s with
    | some mode => .ok mode
    | none => .fail .literal
  | _ => .fail .literal

/-- The request that a value is. Nothing is converted, and unknown names are passed over. -/
def ofRecord : Value → Checked Request :=
  model fun members =>
    ((Checked.ap (.ok Request.mk) (required members ["mode"] readMode)).ap
      (required members ["message"] nonEmptyString)).ap
      (optional none members ["currentPlan", "current_plan"] (nullable record))

end Request

/-- Why the payload of a plan is refused. -/
inductive PayloadError where
  | unencodable (cause : Json.EncodeError)
  | limit (cause : Json.LimitError)
  deriving DecidableEq

namespace Payload

/-- The most UTF-8 bytes that the encoded payload may have. -/
def maxSize : Int := 512 * 1024

def maxDepth : Int := 64

/-- Refuses a payload whose encoding is too large, and then one that nests too deep. -/
def check (members : Members) : Except PayloadError Unit :=
  match Json.encode none (.object members) with
  | .error e => .error (.unencodable e)
  | .ok codes =>
    match Json.toBytes codes with
    | .error e => .error (.unencodable e)
    | .ok text =>
      match Json.checkSize "currentPlan" maxSize text with
      | .error e => .error (.limit e)
      | .ok () => (Json.checkDepth maxDepth (.object members)).mapError .limit

end Payload

end InterfacePlan
