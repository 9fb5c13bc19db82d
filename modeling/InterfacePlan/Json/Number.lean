import InterfacePlan.Json.Strict

set_option autoImplicit false

namespace InterfacePlan.Json

open Strict (isDigit digitsValue)

/-- Digits of which each two may have one underscore between them. -/
def groupedDigits? (s : List Char) : Option (List Char) :=
  let groups := s.splitOn '_'
  if groups.all fun g => g ≠ [] && g.all isDigit then some groups.flatten else none

/-- A decimal number: digits around an optional point, and an optional power of ten. -/
def decimalOfText? (s : List Char) : Option Double :=
  let (negative, body) := Strict.readSign s
  let whole := body.takeWhile isDigit
  let rest := body.dropWhile isDigit
  let (places, rest) :=
    match rest with
    | '.' :: rest => (rest.takeWhile isDigit, rest.dropWhile isDigit)
    | rest => ([], rest)
  if whole = [] ∧ places = [] then none
  else
    match Strict.readExponent rest with
    | .ok (power, []) =>
      some (Double.ofDecimal negative (digitsValue (whole ++ places))
        (power.getD 0 - places.length))
    | _ => none

end InterfacePlan.Json
