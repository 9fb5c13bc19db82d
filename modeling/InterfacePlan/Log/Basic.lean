import InterfacePlan.Value

set_option autoImplicit false

namespace InterfacePlan.Log

inductive Level where
  | debug
  | info
  | warning
  | error
  | critical
  deriving DecidableEq

namespace Level

def all : List Level :=
  [.debug, .info, .warning, .error, .critical]

def name : Level → String
  | .debug => "debug"
  | .info => "info"
  | .warning => "warning"
  | .error => "error"
  | .critical => "critical"

def number : Level → Nat
  | .debug => 10
  | .info => 20
  | .warning => 30
  | .error => 40
  | .critical => 50

end Level

/-- Named values. No name occurs twice in a context. -/
abbrev Context := List (String × Value)

namespace Context

def get? (context : Context) (name : String) : Option Value :=
  (context.find? fun f => f.1 = name).map (·.2)

/-- Gives a name a value; a name that is bound keeps its place. -/
def set : Context → String → Value → Context
  | [], name, v => [(name, v)]
  | (n, w) :: rest, name, v => if n = name then (n, v) :: rest else (n, w) :: set rest name v

def erase (context : Context) (name : String) : Context :=
  context.filter fun f => f.1 ≠ name

def setAll (context fields : Context) : Context :=
  fields.foldl (fun c f => c.set f.1 f.2) context

def saved (context : Context) (names : List String) : List (String × Option Value) :=
  names.map fun name => (name, context.get? name)

def restore (context : Context) (saved : List (String × Option Value)) : Context :=
  saved.foldl
    (fun c s =>
      match s.2 with
      | some v => c.set s.1 v
      | none => c.erase s.1)
    context

end Context

structure Event where
  level : Level
  name : String
  fields : Context := []
  deriving DecidableEq

/-- The event with the context around it; its own fields win. -/
def Event.within (event : Event) (context : Context) : Event :=
  { event with fields := context.setAll event.fields }

/-- A context together with what the open scopes will restore, the innermost first. -/
structure Scopes where
  context : Context := []
  saved : List (List (String × Option Value)) := []

namespace Scopes

def enter (scopes : Scopes) (fields : Context) : Scopes :=
  ⟨scopes.context.setAll fields, scopes.context.saved (fields.map (·.1)) :: scopes.saved⟩

def leave (scopes : Scopes) : Scopes :=
  match scopes.saved with
  | [] => scopes
  | saved :: rest => ⟨scopes.context.restore saved, rest⟩

end Scopes

end InterfacePlan.Log
