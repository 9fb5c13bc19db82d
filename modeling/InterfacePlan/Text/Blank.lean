import InterfacePlan.Text.Code

set_option autoImplicit false

namespace InterfacePlan.Text

def isBlank (c : Char) : Bool :=
  let n := c.toNat
  (9 ≤ n && n ≤ 13) || (28 ≤ n && n ≤ 32) || n = 0x85 || n = 0xA0 || n = 0x1680
    || (0x2000 ≤ n && n ≤ 0x200A) || n = 0x2028 || n = 0x2029 || n = 0x202F || n = 0x205F
    || n = 0x3000

def isBlankCode : Code → Bool
  | .char c => isBlank c
  | .surrogate _ => false

/-- What is between the elements of a kind that stand at the two ends. -/
def between {α : Type} (outer : α → Bool) (s : List α) : List α :=
  ((s.dropWhile outer).reverse.dropWhile outer).reverse

def trimChars (s : List Char) : List Char :=
  between isBlank s

/-- The text without the blanks at its two ends. -/
def trim (s : List Code) : List Code :=
  between isBlankCode s

end InterfacePlan.Text
