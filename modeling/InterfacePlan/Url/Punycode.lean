set_option autoImplicit false

namespace InterfacePlan.Url.Punycode

def digitChar (d : Nat) : Char :=
  if d < 26 then Char.ofNat (97 + d) else Char.ofNat (22 + d)

/-- The least value of the digit at weight `k` after which another follows. -/
def threshold (k bias : Nat) : Nat :=
  min 26 (max 1 (k - bias))

/-- Divides by 35 until little is left, and counts 36 for each division. -/
def shrink (delta k : Nat) : Nat × Nat :=
  if 455 < delta then shrink (delta / 35) (k + 36) else (delta, k)
termination_by delta
decreasing_by exact Nat.div_lt_self (by omega) (by omega)

/-- The bias for the next number, after `delta` was written as the one of `count` characters. -/
def adapt (delta count : Nat) (first : Bool) : Nat :=
  let delta := if first then delta / 700 else delta / 2
  let (delta, k) := shrink (delta + delta / count) 0
  k + 36 * delta / (delta + 38)

/-- A number in digits, the first of which has weight `k`. The fuel bounds the digits. -/
def digits (bias : Nat) : Nat → Nat → Nat → List Char
  | 0, _, _ => []
  | fuel + 1, k, q =>
    let t := threshold k bias
    if q < t then [digitChar q]
    else digitChar (t + (q - t) % (36 - t)) :: digits bias fuel (k + 36) ((q - t) / (36 - t))

/-- Where the encoder is: what it wrote, last part first, the steps since the last character, the bias
and how many characters are written. -/
structure Progress where
  written : List (List Char) := []
  delta : Nat := 0
  bias : Nat := 72
  count : Nat

/-- Passes a character of the label while the code point `point` is written. -/
def pass (basics point : Nat) (progress : Progress) (c : Char) : Progress :=
  if c.toNat < point then { progress with delta := progress.delta + 1 }
  else if c.toNat = point then
    { written :=
        digits progress.bias (progress.delta + 1) 36 progress.delta :: progress.written
      delta := 0
      bias := adapt progress.delta (progress.count + 1) (progress.count = basics)
      count := progress.count + 1 }
  else progress

/-- Writes the code points `points`, in ascending order; those below `next` are written. -/
def writePoints (label : List Char) (basics : Nat) :
    List Nat → Nat → Progress → Progress
  | [], _, progress => progress
  | point :: points, next, progress =>
    let progress :=
      { progress with delta := progress.delta + (point - next) * (progress.count + 1) }
    let progress := label.foldl (pass basics point) progress
    writePoints label basics points (point + 1) { progress with delta := progress.delta + 1 }

/-- A label in ASCII, without a mark that says so. -/
def encode (label : List Char) : List Char :=
  let basic := label.filter fun c => c.toNat < 0x80
  let points := ((label.filter fun c => 0x80 ≤ c.toNat).map Char.toNat).mergeSort.eraseDups
  let progress := writePoints label basic.length points 0x80 { count := basic.length }
  (if basic = [] then [] else basic ++ ['-']) ++ progress.written.reverse.flatten

end InterfacePlan.Url.Punycode
