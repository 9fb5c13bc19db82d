import InterfacePlan.Value
import InterfacePlan.Decimal
import InterfacePlan.Text.Display
import InterfacePlan.Text.Join

set_option autoImplicit false

namespace InterfacePlan

/-- Parts in round brackets; a single part keeps its comma. -/
def roundBrackets (parts : List (List Char)) : List Char :=
  match parts with
  | [part] => '(' :: part ++ [',', ')']
  | _ => '(' :: Text.join [',', ' '] parts ++ [')']

def boolDisplay (b : Bool) : List Char :=
  if b then "True".toList else "False".toList

/-- Ill-formed text is shown like text, each lone surrogate as an escape. -/
def illFormedDisplay (codes : List Text.Code) : List Char :=
  let quote := Text.displayQuote (codes.filterMap Text.Code.char?)
  quote :: codes.flatMap (fun
    | .char c => Text.displayEscape quote c
    | .surrogate unit => Text.unitEscape unit) ++ [quote]

namespace Key

mutual

def display : Key → List Char
  | .text s => Text.display s.toList
  | .illFormed codes => illFormedDisplay codes
  | .null => "None".toList
  | .bool b => boolDisplay b
  | .int n => Decimal.intText n
  | .float x => FloatStyle.display.write x
  | .tuple parts => roundBrackets (displayParts parts)

def displayParts : List Key → List (List Char)
  | [] => []
  | k :: ks => display k :: displayParts ks

end

def plain : Key → List Text.Code
  | .text s => Text.codes s
  | .illFormed codes => codes
  | k => k.display.map .char

end Key

namespace Value

mutual

def display : Value → List Char
  | .null => "None".toList
  | .bool b => boolDisplay b
  | .int n => Decimal.intText n
  | .float x => FloatStyle.display.write x
  | .text s => Text.display s.toList
  | .illFormed codes => illFormedDisplay codes
  | .list items => '[' :: Text.join [',', ' '] (displayItems items) ++ [']']
  | .tuple items => roundBrackets (displayItems items)
  | .object members => '{' :: Text.join [',', ' '] (displayMembers members) ++ ['}']
  | .foreign => "<object>".toList

def displayItems : List Value → List (List Char)
  | [] => []
  | v :: vs => display v :: displayItems vs

def displayMembers : Members → List (List Char)
  | [] => []
  | (k, v) :: ms => (k.display ++ ':' :: ' ' :: display v) :: displayMembers ms

end

def plain : Value → List Text.Code
  | .text s => Text.codes s
  | .illFormed codes => codes
  | v => v.display.map .char

def kindName : Value → String
  | .null => "NoneType"
  | .bool _ => "bool"
  | .int _ => "int"
  | .float _ => "float"
  | .text _ | .illFormed _ => "str"
  | .list _ => "list"
  | .tuple _ => "tuple"
  | .object _ => "dict"
  | .foreign => "Opaque"

end Value

end InterfacePlan
