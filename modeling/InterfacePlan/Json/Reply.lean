import InterfacePlan.Json.Body
import InterfacePlan.Json.Strict
import InterfacePlan.Json.Tolerant.Reader
import InterfacePlan.Json.Encode
import InterfacePlan.Text.Blank

set_option autoImplicit false

namespace InterfacePlan.Json

/-- The text from the first opening brace to the last closing brace after it. -/
def objectSpan? (text : List Text.Code) : Option (List Text.Code) :=
  let span :=
    ((text.dropWhile (· ≠ .char '{')).reverse.dropWhile (· ≠ .char '\x7d')).reverse
  if span = [] then none else some span

inductive ReplyError where
  | noObject
  /-- A surrogate stands alone in the text of the object. -/
  | illFormed
  | malformed (cause : StrictError)
  | unrepairable
  | repairMalformed (cause : StrictError)
  | notObject (kind : String)
  deriving DecidableEq

namespace ReplyError

def message : ReplyError → String
  | .noObject => "No JSON object found in text"
  | .illFormed => "surrogates not allowed"
  | .malformed cause => "Invalid JSON: " ++ cause.message
  | .unrepairable => "Invalid JSON: repair produced nothing"
  | .repairMalformed cause => "JSON repair failed: " ++ cause.message
  | .notObject kind => "Expected dict, got " ++ kind

/-- Whether a refusal of the strict reader is behind the error. -/
def hasCause : ReplyError → Bool
  | .malformed _ | .repairMalformed _ => true
  | _ => false

end ReplyError

/-- A text put into JSON: as the body reader takes it, or if that refuses it for whatever reason, as the
tolerant reader does. -/
def repair? (text : List Char) : Option (List Char) :=
  let value :=
    match Body.ofCodes text.length (text.map Text.Code.char) with
    | .ok v => some v
    | .error _ => Tolerant.read text
  value.bind fun v =>
    ((Plain.write { layout := .spaced, ascii := true } 0 v).toOption.bind Text.wellFormed?).map
      String.toList

def decodeSpan (repair : Bool) (span : List Char) : Except ReplyError Value :=
  match decode span with
  | .ok v => .ok v
  | .error cause =>
    if repair then
      match repair? span with
      | none => .error .unrepairable
      | some text => (decode text).mapError .repairMalformed
    else .error (.malformed cause)

/-- The members of the JSON object that a reply holds, whatever prose stands around its braces. With
repair, a text that the strict reader refuses is put into JSON and read strictly again. -/
def extract (repair : Bool) (text : List Text.Code) : Except ReplyError Members :=
  match objectSpan? (Text.trim text) with
  | none => .error .noObject
  | some span =>
    match Text.wellFormed? span with
    | none => .error .illFormed
    | some span =>
      match decodeSpan repair span.toList with
      | .error e => .error e
      | .ok (.object members) => .ok members
      | .ok v => .error (.notObject v.kindName)

end InterfacePlan.Json
