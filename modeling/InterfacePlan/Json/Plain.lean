import InterfacePlan.Display

set_option autoImplicit false

namespace InterfacePlan.Json

inductive EncodeError where
  | noForm (kind : String)
  | noKey (kind : String)
  | notFinite
  | illFormed
  deriving DecidableEq

def EncodeError.message : EncodeError → String
  | .noForm kind => "Object of type " ++ kind ++ " is not JSON serializable"
  | .noKey kind => "keys must be str, int, float, bool or None, not " ++ kind
  | .notFinite => "Out of range float values are not JSON compliant"
  | .illFormed => "surrogates not allowed"

inductive Layout where
  /-- No white space. -/
  | compact
  /-- One line, a space after each comma and colon. -/
  | spaced
  /-- A line for each item, `indent` spaces a level; a negative indent counts as none. -/
  | lines (indent : Int)
  deriving DecidableEq

namespace Plain

/-- Where spaces and line breaks go, whether everything that is not ASCII is escaped, and whether `NaN`
and the infinities may be written. -/
structure Style where
  layout : Layout
  ascii : Bool := false
  nonFinite : Bool := true

def floats : FloatStyle :=
  ⟨-4, 16, 2, "NaN", "Infinity", "-Infinity"⟩

def breakLine (layout : Layout) (level : Nat) : List Char :=
  match layout with
  | .lines indent => '\n' :: List.replicate (indent.toNat * level) ' '
  | _ => []

def separator (layout : Layout) (level : Nat) : List Char :=
  match layout with
  | .compact => [',']
  | .spaced => [',', ' ']
  | .lines _ => ',' :: breakLine layout level

def colon : Layout → List Char
  | .compact => [':']
  | _ => [':', ' ']

open Text (Code)

def enclose (layout : Layout) (level : Nat) (left right : Char) : List (List Code) → List Code
  | [] => [.char left, .char right]
  | parts =>
    (left :: breakLine layout (level + 1)).map .char
      ++ Text.join ((separator layout (level + 1)).map .char) parts
      ++ (breakLine layout level ++ [right]).map .char

/-- Ill-formed text stays so unless everything that is not ASCII is escaped. -/
def quote (style : Style) (s : List Code) : List Code :=
  if style.ascii then (Text.quoteAscii s).map .char else Text.quoteCodes s

def writeFloat (style : Style) (x : Double) : Except EncodeError (List Char) :=
  match x with
  | .finite .. => .ok (floats.write x)
  | _ => if style.nonFinite then .ok (floats.write x) else .error .notFinite

def boolText (b : Bool) : List Char :=
  if b then ['t', 'r', 'u', 'e'] else ['f', 'a', 'l', 's', 'e']

/-- The text of a key: numbers, booleans and null are written as values and then quoted. -/
def writeKey (style : Style) : Key → Except EncodeError (List Code)
  | .text s => .ok (quote style (Text.codes s))
  | .illFormed codes => .ok (quote style codes)
  | .null => .ok (quote style (Text.codes "null"))
  | .bool b => .ok (quote style ((boolText b).map .char))
  | .int n => .ok (quote style ((Decimal.intText n).map .char))
  | .float x => (writeFloat style x).map fun text => quote style (text.map .char)
  | .tuple _ => .error (.noKey "tuple")

mutual

/-- The text of a value inside `level` containers. -/
def write (style : Style) (level : Nat) : Value → Except EncodeError (List Code)
  | .null => .ok (Text.codes "null")
  | .bool b => .ok ((boolText b).map .char)
  | .int n => .ok ((Decimal.intText n).map .char)
  | .float x => (writeFloat style x).map (List.map .char)
  | .text s => .ok (quote style (Text.codes s))
  | .illFormed codes => .ok (quote style codes)
  | .list items | .tuple items =>
    (writeItems style (level + 1) items).map (enclose style.layout level '[' ']')
  | .object members =>
    (writeMembers style (level + 1) members).map (enclose style.layout level '\x7b' '\x7d')
  | .foreign => .error (.noForm (Value.kindName .foreign))

def writeItems (style : Style) (level : Nat) :
    List Value → Except EncodeError (List (List Code))
  | [] => .ok []
  | v :: rest =>
    match write style level v with
    | .error e => .error e
    | .ok part => (writeItems style level rest).map (part :: ·)

def writeMembers (style : Style) (level : Nat) :
    Members → Except EncodeError (List (List Code))
  | [] => .ok []
  | (key, v) :: rest =>
    match writeKey style key with
    | .error e => .error e
    | .ok key =>
      match write style level v with
      | .error e => .error e
      | .ok part =>
        (writeMembers style level rest).map ((key ++ (colon style.layout).map .char ++ part) :: ·)

end

end Plain

end InterfacePlan.Json
