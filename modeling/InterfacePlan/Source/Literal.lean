import InterfacePlan.Display
import InterfacePlan.Text.Quoted

set_option autoImplicit false

namespace InterfacePlan.Source

open Text (Code)

def boolLiteral (b : Bool) : List Char :=
  if b then ['t', 'r', 'u', 'e'] else ['f', 'a', 'l', 's', 'e']

/-- Below this magnitude a number without a fraction is written in full, like an integer. -/
def wholeLimit : Nat := Nat.pow 10 21

def floatLiteral (x : Double) : List Char :=
  match x with
  | .nan => ['N', 'a', 'N']
  | .infinity negative => if negative then '-' :: "Infinity".toList else "Infinity".toList
  | .finite .. =>
    match x.toInt? with
    | some n => if n.natAbs < wholeLimit then Decimal.intText n else FloatStyle.display.write x
    | none => FloatStyle.display.write x

/-- Parts between brackets, a comma and a space between each two. -/
def brackets (left right : List Char) (parts : List (List Code)) : List Code :=
  left.map .char ++ Text.join [.char ',', .char ' '] parts ++ right.map .char

/-- What stands inside a container for a value that has no literal. -/
def nullLiteral : List Char := ['n', 'u', 'l', 'l']

mutual

/-- The literal of a value as it stands in the source, if it has one, by what the text of each key is. -/
def literalBy (shown : Key → List Code) : Value → Option (List Code)
  | .null | .foreign => none
  | .bool b => some ((boolLiteral b).map .char)
  | .int n => some ((Decimal.intText n).map .char)
  | .float x => some ((floatLiteral x).map .char)
  | .text s => some (Text.quoteCodes (Text.codes s))
  | .illFormed codes => some (Text.quoteCodes codes)
  | .list items | .tuple items => some (brackets ['['] [']'] (itemsBy shown items))
  | .object members => some (brackets ['\x7b', ' '] [' ', '\x7d'] (membersBy shown members))

def itemsBy (shown : Key → List Code) : List Value → List (List Code)
  | [] => []
  | v :: rest => (literalBy shown v).getD (nullLiteral.map .char) :: itemsBy shown rest

def membersBy (shown : Key → List Code) : Members → List (List Code)
  | [] => []
  | (key, v) :: rest =>
    (Text.quoteCodes (shown key) ++ .char ':' :: .char ' '
      :: (literalBy shown v).getD (nullLiteral.map .char)) :: membersBy shown rest

end

/-- The literal of a value. -/
def literal? (v : Value) : Option (List Code) :=
  literalBy Key.plain v

end InterfacePlan.Source
