import InterfacePlan.Schema.Issue
import InterfacePlan.Json.Number
import InterfacePlan.Text.Blank

set_option autoImplicit false

namespace InterfacePlan.Schema

open Json.Strict (isDigit digitsValue)

/-- White space around the text of a number. The information separators do not count. -/
def isSpace (c : Char) : Bool :=
  Text.isBlank c && !(28 ≤ c.toNat && c.toNat ≤ 31)

def trimSpace (s : List Char) : List Char :=
  ((s.dropWhile isSpace).reverse.dropWhile isSpace).reverse

def withoutZeroFraction (s : List Char) : List Char :=
  match s.span (· ≠ '.') with
  | (whole, '.' :: zero :: zeros) => if (zero :: zeros).all (· = '0') then whole else s
  | _ => s

/-- The text without its leading zeros, and without underscores after the first of them. Of a text of
nothing else the last character stays. -/
def withoutLeadingZeros (s : List Char) : List Char :=
  match s with
  | '0' :: rest =>
    match rest.dropWhile fun c => c = '0' || c = '_' with
    | [] => [rest.getLastD '0']
    | tail => tail
  | s => s

/-- The integer that a text stands for: a sign, grouped digits and a fraction of zeros. What is left of
it without leading zeros may not be too long. -/
def readInt (s : String) : Except Problem Int :=
  let (negative, body) := Json.Strict.readSign (trimSpace s.toList)
  let digits := withoutLeadingZeros (withoutZeroFraction body)
  let most := if negative then Decimal.maxIntegerLength - 1 else Decimal.maxIntegerLength
  if most < (digits.takeWhile isDigit).length then .error .intParsingSize
  else
    match Json.groupedDigits? digits with
    | none => .error .intParsing
    | some ds =>
      if most < ds.length then .error .intParsingSize
      else .ok (if negative then -(digitsValue ds : Int) else (digitsValue ds : Int))

/-- A number, an infinity or `nan`, in any case. -/
def numberOfText? (s : List Char) : Option Double :=
  let (negative, body) := Json.Strict.readSign s
  match String.ofList (body.map Char.toLower) with
  | "inf" | "infinity" => some (.infinity negative)
  | "nan" => some .nan
  | _ => Json.decimalOfText? s

/-- The text without its underscores, which must stand single and inside. -/
def withoutUnderscores? (s : List Char) : Option (List Char) :=
  let groups := s.splitOn '_'
  if groups.length = 1 ∨ groups.any (·.isEmpty) then none else some groups.flatten

def doubleOfText? (s : String) : Option Double :=
  match numberOfText? (trimSpace s.toList) with
  | some x => some x
  | none => (withoutUnderscores? s.toList).bind numberOfText?

def boolOfText? (s : String) : Option Bool :=
  let lower := String.ofList (s.toList.map Char.toLower)
  if ["0", "off", "f", "false", "n", "no"].contains lower then some false
  else if ["1", "on", "t", "true", "y", "yes"].contains lower then some true
  else none

def ofOption {α : Type} (problem : Problem) : Option α → Checked α
  | some a => .ok a
  | none => .fail problem

/-- Whether a number without a fraction is held in a word of 64 bits, with room on both sides. -/
def isWord (n : Int) : Bool :=
  -Nat.pow 2 63 < n && n < Nat.pow 2 63

def laxInt : Value → Checked Int
  | .int n => .ok n
  | .bool b => .ok (if b then 1 else 0)
  | .text s =>
    match readInt s with
    | .ok n => .ok n
    | .error problem => .fail problem
  | .illFormed _ => .fail .intParsing
  | .float x =>
    match x with
    | .finite .. =>
      match x.toInt? with
      | some n => if isWord n then .ok n else .fail .intParsingSize
      | none => .fail .intFromFloat
    | _ => .fail .finiteNumber
  | _ => .fail .intType

def laxFloat : Value → Checked Double
  | .float x => .ok x
  | .int n =>
    match Double.ofInt n with
    | .infinity _ => .fail .floatType
    | x => .ok x
  | .bool b => .ok (Double.ofInt (if b then 1 else 0))
  | .text s => ofOption .floatParsing (doubleOfText? s)
  | .illFormed _ => .fail .floatParsing
  | _ => .fail .floatType

/-- Zero and one are booleans; no other integer of a word is one. -/
def boolOfInt (n : Int) : Checked Bool :=
  if n = 0 then .ok false else if n = 1 then .ok true else .fail .boolParsing

def laxBool : Value → Checked Bool
  | .bool b => .ok b
  | .text s => ofOption .boolParsing (boolOfText? s)
  | .illFormed _ => .fail .boolParsing
  | .int n => if -Nat.pow 2 63 ≤ n ∧ n < Nat.pow 2 63 then boolOfInt n else .fail .boolType
  | .float x =>
    match x.toInt? with
    | some n => if isWord n then boolOfInt n else .fail .boolType
    | none => .fail .boolType
  | _ => .fail .boolType

def guard {α : Type} (problem : Problem) (holds : α → Bool) (a : Checked α) : Checked α :=
  match a with
  | .ok x => if holds x then .ok x else .fail problem
  | .error e => .error e

def laxList : Value → Checked (List Value)
  | .list items | .tuple items => .ok items
  | _ => .fail .listType

end InterfacePlan.Schema
