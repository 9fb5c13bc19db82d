set_option autoImplicit false

namespace InterfacePlan

/-- The pairs `(m, q)` that stand for a binary64 magnitude `m · 2 ^ q`, each magnitude once. -/
def OnGrid (m : Nat) (q : Int) : Prop :=
  m < Nat.pow 2 53 ∧ -1074 ≤ q ∧ q ≤ 971 ∧ (Nat.pow 2 52 ≤ m ∨ q = -1074)

instance (m : Nat) (q : Int) : Decidable (OnGrid m q) :=
  inferInstanceAs (Decidable (_ ∧ _ ∧ _ ∧ (_ ∨ _)))

/-- Binary64 numbers, held exactly. Each finite one is on the grid in one way, so that equality is
structural. -/
inductive Double where
  | nan
  | infinity (negative : Bool)
  | finite (negative : Bool) (m : Nat) (q : Int) (onGrid : OnGrid m q)
  deriving DecidableEq

/-- The quotient to the nearest integer, a half to the even neighbour. -/
def roundDiv (num den : Nat) : Nat :=
  let low := num / den
  let rest := num % den
  if 2 * rest < den ∨ (2 * rest = den ∧ low % 2 = 0) then low else low + 1

namespace Double

def zero (negative : Bool) : Double :=
  .finite negative 0 (-1074) (by decide)

/-- `num / (den · 2 ^ q)` as a fraction of natural numbers. -/
def scaled (num den : Nat) (q : Int) : Nat × Nat :=
  if q < 0 then (num * Nat.pow 2 q.natAbs, den) else (num, den * Nat.pow 2 q.natAbs)

/-- The exponent of the grid that holds `num / den`: the least one, not below that of the least
positive number, for which the magnitude has at most 53 bits before the point. -/
def gridExponent (num den : Nat) : Int :=
  let guess := max (-1074) ((num.log2 : Int) - (den.log2 : Int) - 53)
  let (n, d) := scaled num den guess
  if n < Nat.pow 2 53 * d then guess else guess + 1

/-- The magnitude `m · 2 ^ q` if it is on the grid; a mantissa that rounding carried to 54 bits is
renormalised, and what is past the grid is infinite. -/
def ofParts (negative : Bool) (m : Nat) (q : Int) : Double :=
  if h : OnGrid m q then .finite negative m q h
  else if h : m = Nat.pow 2 53 ∧ OnGrid (Nat.pow 2 52) (q + 1) then
    .finite negative (Nat.pow 2 52) (q + 1) h.2
  else .infinity negative

/-- The number nearest to `±num / den`, ties to the even mantissa. -/
def ofRatio (negative : Bool) (num den : Nat) : Double :=
  let q := gridExponent num den
  let (n, d) := scaled num den q
  ofParts negative (roundDiv n d) q

/-- The number nearest to `±digits · 10 ^ exponent`. Magnitudes far outside the grid are settled by
their size alone, so that no power of ten grows with the exponent. -/
def ofDecimal (negative : Bool) (digits : Nat) (exponent : Int) : Double :=
  if digits = 0 then zero negative
  else if 310 < exponent then .infinity negative
  else if exponent + digits.log2 < -330 then zero negative
  else if exponent < 0 then ofRatio negative digits (Nat.pow 10 exponent.natAbs)
  else ofRatio negative (digits * Nat.pow 10 exponent.natAbs) 1

def ofInt (n : Int) : Double :=
  ofDecimal (n < 0) n.natAbs 0

/-- A finite number counted in units of `2 ^ -1074`. -/
def units? : Double → Option Int
  | .finite negative m q _ =>
    let magnitude : Int := m * Nat.pow 2 (q + 1074).toNat
    some (if negative then -magnitude else magnitude)
  | _ => none

def one : Int := Nat.pow 2 1074

/-- The order of numbers; nothing is ordered with `nan`. -/
def lt : Double → Double → Bool
  | .nan, _ | _, .nan => false
  | .infinity negative, .infinity negative' => negative && !negative'
  | .infinity negative, .finite .. => negative
  | .finite .., .infinity negative => !negative
  | x@(.finite ..), y@(.finite ..) => x.units?.getD 0 < y.units?.getD 0

def eqInt (x : Double) (n : Int) : Bool :=
  match x.units? with
  | some u => u = n * one
  | none => false

/-- Equality of numbers: zeros are equal and `nan` equals nothing. -/
def numEq : Double → Double → Bool
  | .infinity negative, .infinity negative' => negative = negative'
  | x@(.finite ..), y@(.finite ..) => x.units? = y.units?
  | _, _ => false

def toInt? (x : Double) : Option Int :=
  match x.units? with
  | some u => if u % one = 0 then some (u / one) else none
  | none => none

end Double

end InterfacePlan
