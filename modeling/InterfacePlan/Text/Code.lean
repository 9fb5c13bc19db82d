set_option autoImplicit false

namespace InterfacePlan.Text

inductive Code where
  | char (c : Char)
  | surrogate (unit : Nat)
  deriving DecidableEq

namespace Code

def char? : Code → Option Char
  | .char c => some c
  | .surrogate _ => none

def isChar : Code → Bool
  | .char _ => true
  | .surrogate _ => false

def isControl : Code → Bool
  | .char c => c.toNat < 32
  | .surrogate _ => false

def ofNat (n : Nat) : Code :=
  if 0xD800 ≤ n ∧ n < 0xE000 then .surrogate n else .char (Char.ofNat n)

end Code

def codes (s : String) : List Code :=
  s.toList.map .char

/-- The text that code points make, unless a surrogate stands alone among them. -/
def wellFormed? (codes : List Code) : Option String :=
  if codes.all Code.isChar then some (String.ofList (codes.filterMap Code.char?)) else none

end InterfacePlan.Text
