import InterfacePlan.Double

set_option autoImplicit false

namespace InterfacePlan

namespace Decimal

/-- The most characters, or digits, that an integer may have where it is read from text. -/
def maxIntegerLength : Nat := 4300

def natText (n : Nat) : List Char :=
  Nat.toDigits 10 n

def intText (n : Int) : List Char :=
  if n < 0 then '-' :: natText n.natAbs else natText n.natAbs

/-- The exponent of the leading digit: `10 ^ e ≤ num / den < 10 ^ (e + 1)` for positive arguments. -/
def leadingExponent (num den : Nat) : Int :=
  if den ≤ num then (natText (num / den)).length - 1
  else
    let places := (natText (den / num)).length
    if den ≤ num * Nat.pow 10 (places - 1) then 1 - (places : Int) else -(places : Int)

/-- The two neighbours of `num / den` on the grid of step `10 ^ exponent`, the nearer one first. -/
def neighbours (num den : Nat) (exponent : Int) : List Nat :=
  let (n, d) :=
    if exponent < 0 then (num * Nat.pow 10 exponent.natAbs, den)
    else (num, den * Nat.pow 10 exponent.natAbs)
  let near := roundDiv n d
  let low := n / d
  [near, if near = low then low + 1 else low]

/-- Drops trailing zeros of the digits, at most `fuel` of them. -/
def trimZeros : Nat → Nat → Int → Nat × Int
  | 0, digits, exponent => (digits, exponent)
  | fuel + 1, digits, exponent =>
    if digits ≠ 0 ∧ digits % 10 = 0 then trimZeros fuel (digits / 10) (exponent + 1)
    else (digits, exponent)

def exact (m : Nat) (q : Int) : Nat × Int :=
  if q < 0 then (m * Nat.pow 5 q.natAbs, q) else (m * Nat.pow 2 q.natAbs, 0)

/-- Digits and exponent of the shortest decimal that reads back as `m · 2 ^ q`. -/
def shortest (m : Nat) (q : Int) (onGrid : OnGrid m q) : Nat × Int :=
  let (num, den) := if q < 0 then (m, Nat.pow 2 q.natAbs) else (m * Nat.pow 2 q.natAbs, 1)
  let lead := leadingExponent num den
  let found := (List.range 17).findSome? fun (places : Nat) =>
    let exponent := lead - (places : Int)
    ((neighbours num den exponent).find? fun digits =>
      Double.ofDecimal false digits exponent = .finite false m q onGrid).map (·, exponent)
  let (digits, exponent) := found.getD (exact m q)
  trimZeros 17 digits exponent

end Decimal

/-- How a number is laid out as text: which leading exponents are written without an exponent, how
many digits an exponent has at least, and what stands for values that are not finite. -/
structure FloatStyle where
  leastPositional : Int
  beyondPositional : Int
  exponentWidth : Nat
  nan : String
  infinity : String
  negativeInfinity : String

namespace FloatStyle

/-- `digits · 10 ^ exponent` without an exponent, always with a point and a digit after it. -/
def positional (digits : List Char) (exponent : Int) : List Char :=
  let whole : Int := digits.length + exponent
  if 0 ≤ exponent then digits ++ List.replicate exponent.toNat '0' ++ ['.', '0']
  else if 0 < whole then digits.take whole.toNat ++ '.' :: digits.drop whole.toNat
  else '0' :: '.' :: (List.replicate whole.natAbs '0' ++ digits)

def scientific (style : FloatStyle) (digits : List Char) (exponent : Int) : List Char :=
  let lead : Int := digits.length + exponent - 1
  let tail := digits.drop 1
  let power := Decimal.natText lead.natAbs
  digits.take 1 ++ (if tail = [] then [] else '.' :: tail)
    ++ 'e' :: (if lead < 0 then '-' else '+')
    :: (List.replicate (style.exponentWidth - power.length) '0' ++ power)

def magnitude (style : FloatStyle) (m : Nat) (q : Int) (onGrid : OnGrid m q) : List Char :=
  if m = 0 then ['0', '.', '0']
  else
    let (digits, exponent) := Decimal.shortest m q onGrid
    let text := Decimal.natText digits
    let lead : Int := text.length + exponent - 1
    if style.leastPositional ≤ lead ∧ lead < style.beyondPositional then positional text exponent
    else style.scientific text exponent

def write (style : FloatStyle) : Double → List Char
  | .nan => style.nan.toList
  | .infinity negative => if negative then style.negativeInfinity.toList else style.infinity.toList
  | .finite negative m q onGrid =>
    if negative then '-' :: style.magnitude m q onGrid else style.magnitude m q onGrid

/-- Display of a number: an exponent below `1e-4` and from `1e16` on, of two digits at least. -/
def display : FloatStyle :=
  ⟨-4, 16, 2, "nan", "inf", "-inf"⟩

end FloatStyle

end InterfacePlan
