import InterfacePlan.Value
import InterfacePlan.Decimal
import InterfacePlan.Text.Quoted
import InterfacePlan.Text.Join

set_option autoImplicit false

namespace InterfacePlan.Json.Dense

def floats : FloatStyle :=
  ⟨-5, 16, 1, "null", "null", "null"⟩

/-- Whether a list or an object inside `level` containers is too deep. The writer counts levels in one
byte and has room for no list or object at the last level but one, so a count that tuples have carried
past that level starts anew. -/
def tooDeep (level : Nat) : Bool :=
  level % 256 = 254

def fits (n : Int) : Bool :=
  -Nat.pow 2 63 ≤ n && n < Nat.pow 2 64

def breakLine (lines : Bool) (level : Nat) : List Char :=
  if lines then '\n' :: List.replicate (2 * level) ' ' else []

def enclose (lines : Bool) (level : Nat) (left right : Char) : List (List Char) → List Char
  | [] => [left, right]
  | parts =>
    left :: breakLine lines (level + 1)
      ++ Text.join (',' :: breakLine lines (level + 1)) parts
      ++ breakLine lines level ++ [right]

mutual

/-- The text of a value inside `level` containers. The writer refuses a value as a whole if it holds an
integer beyond 64 bits, a key that is not text, ill-formed text, a foreign object, or a container that is
too deep; numbers that are not finite become `null`. -/
def write (lines : Bool) (level : Nat) : Value → Option (List Char)
  | .null => some ['n', 'u', 'l', 'l']
  | .bool true => some ['t', 'r', 'u', 'e']
  | .bool false => some ['f', 'a', 'l', 's', 'e']
  | .int n => if fits n then some (Decimal.intText n) else none
  | .float x => some (floats.write x)
  | .text s => some (Text.quote s.toList)
  | .list items =>
    if tooDeep level then none
    else (writeItems lines (level + 1) items).map (enclose lines level '[' ']')
  | .tuple items => (writeItems lines (level + 1) items).map (enclose lines level '[' ']')
  | .object members =>
    if tooDeep level then none
    else (writeMembers lines (level + 1) members).map (enclose lines level '\x7b' '\x7d')
  | .illFormed _ | .foreign => none

def writeItems (lines : Bool) (level : Nat) : List Value → Option (List (List Char))
  | [] => some []
  | v :: rest =>
    match write lines level v, writeItems lines level rest with
    | some part, some parts => some (part :: parts)
    | _, _ => none

def writeMembers (lines : Bool) (level : Nat) : Members → Option (List (List Char))
  | [] => some []
  | (.text key, v) :: rest =>
    match write lines level v, writeMembers lines level rest with
    | some part, some parts =>
      some ((Text.quote key.toList ++ ':' :: ((if lines then [' '] else []) ++ part)) :: parts)
    | _, _ => none
  | _ :: _ => none

end

end InterfacePlan.Json.Dense
