import InterfacePlan.Log.Basic
import InterfacePlan.Text.Code

set_option autoImplicit false

namespace InterfacePlan

inductive Role where
  | user
  | assistant
  | system
  deriving DecidableEq

namespace Role

def all : List Role :=
  [.user, .assistant, .system]

def name : Role → String
  | .user => "user"
  | .assistant => "assistant"
  | .system => "system"

def ofName? (s : String) : Option Role :=
  all.find? fun r => r.name = s

end Role

structure ChatMessage where
  role : Role
  content : List Text.Code
  deriving DecidableEq

/-- Why an oracle gave no text: a message, and the status and body of the response if there was one. -/
structure OracleError where
  message : List Text.Code
  status : Option Nat := none
  body : Option (List Text.Code) := none
  deriving DecidableEq

inductive AccidentKind where
  | url
  | value
  | overflow
  | encoding
  | recursion
  deriving DecidableEq

/-- What kept a call from being made or an answer from being read, without the oracle saying so. -/
structure Accident where
  kind : AccidentKind
  message : String
  deriving DecidableEq

inductive OracleFailure where
  | error (cause : OracleError)
  | accident (cause : Accident)
  deriving DecidableEq

/-- What one call of an oracle comes to. The text of a reply may be ill-formed. -/
structure Answer (σ : Type) where
  result : Except OracleFailure (List Text.Code)
  events : List Log.Event
  state : σ

structure Oracle (σ : Type) where
  chat : List ChatMessage → σ → Answer σ

namespace Oracle

/-- The oracle that gives prepared answers one after the other, and fails when none is left. -/
def scripted : Oracle (List (Except OracleError String)) where
  chat _ answers :=
    match answers with
    | [] => ⟨.error (.error ⟨Text.codes "script exhausted", none, none⟩), [], []⟩
    | .ok reply :: rest => ⟨.ok (Text.codes reply), [], rest⟩
    | .error e :: rest => ⟨.error (.error e), [], rest⟩

end Oracle

end InterfacePlan
