import InterfacePlan.Json.Dense
import InterfacePlan.Json.Plain

set_option autoImplicit false

namespace InterfacePlan.Json

def Layout.ofIndent : Option Int → Layout
  | none => .spaced
  | some indent => .lines indent

def encodePlain (indent : Option Int) (v : Value) : Except EncodeError (List Text.Code) :=
  Plain.write { layout := .ofIndent indent } 0 v

/-- The text of a value. Without an indent, and with an indent of two, the dense writer is asked
first; what it refuses, and every other indent, goes to the plain writer. -/
def encode (indent : Option Int) (v : Value) : Except EncodeError (List Text.Code) :=
  if indent = none ∨ indent = some 2 then
    match Dense.write (indent = some 2) 0 v with
    | some text => .ok (text.map .char)
    | none => encodePlain indent v
  else encodePlain indent v

/-- Code points as the characters that bytes can be made of. -/
def toBytes (codes : List Text.Code) : Except EncodeError String :=
  match Text.wellFormed? codes with
  | some text => .ok text
  | none => .error .illFormed

/-- A body of the wire: compact, without numbers that JSON does not know, and of well-formed text. -/
def encodeBody (v : Value) : Except EncodeError String :=
  match Plain.write { layout := .compact, nonFinite := false } 0 v with
  | .error e => .error e
  | .ok codes => toBytes codes

end InterfacePlan.Json
