import InterfacePlan.Text.Code

set_option autoImplicit false

namespace InterfacePlan.Instruction

open Text (Code)

/-- Whether a character is the letter `p` of the phrase in some case. Two letters of the phrase have
forms outside ASCII that fold to them. -/
def foldsTo (p c : Char) : Bool :=
  c = p || c = p.toUpper || (p = 'i' && (c = 'İ' || c = 'ı')) || (p = 's' && c = 'ſ')

def afterWord? : List Char → List Code → Option (List Code)
  | [], s => some s
  | p :: word, .char c :: s => if foldsTo p c then afterWord? word s else none
  | _ :: _, _ => none

def phraseStart : List Char := "ignore ".toList

def phraseOption : List Char := "all ".toList

def phraseEnd : List Char := "previous instructions".toList

/-- The length of the phrase if the text begins with it. -/
def phraseLength? (s : List Code) : Option Nat :=
  match afterWord? phraseStart s with
  | none => none
  | some s =>
    match (afterWord? phraseOption s).bind (afterWord? phraseEnd) with
    | some _ => some (phraseStart.length + phraseOption.length + phraseEnd.length)
    | none => (afterWord? phraseEnd s).map fun _ => phraseStart.length + phraseEnd.length

/-- Takes every occurrence of the phrase out of a text, `skip` being how much of the last one is still
ahead and `kept` what was kept, last code point first. -/
def strip (skip : Nat) (kept : List Code) : List Code → List Code
  | [] => kept.reverse
  | c :: rest =>
    match skip with
    | n + 1 => strip n kept rest
    | 0 =>
      match phraseLength? (c :: rest) with
      | some length => strip (length - 1) kept rest
      | none => strip 0 (c :: kept) rest

/-- The first `limit` code points; a negative limit counts from the end. -/
def cut (limit : Int) (s : List Code) : List Code :=
  if 0 ≤ limit then s.take limit.toNat else s.take (s.length - limit.natAbs)

def sanitize (limit : Int) (message : List Code) : List Code :=
  cut limit (strip 0 [] message)

end InterfacePlan.Instruction
