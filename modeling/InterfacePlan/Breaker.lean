set_option autoImplicit false

namespace InterfacePlan

inductive BreakerState where
  | closed
  | halfOpen
  /-- Nothing is let through; `since` is when it opened. -/
  | opened (since : Nat)
  deriving DecidableEq

namespace BreakerState

def name : BreakerState → String
  | .closed => "closed"
  | .halfOpen => "half-open"
  | .opened _ => "open"

def logName : BreakerState → String
  | .closed => "CircuitClosedState"
  | .halfOpen => "CircuitHalfOpenState"
  | .opened _ => "CircuitOpenState"

end BreakerState

structure Breaker where
  state : BreakerState := .closed
  failures : Nat := 0
  deriving DecidableEq

namespace Breaker

/-- When a breaker opens, and how long it then rests; an infinite rest has no length. -/
structure Policy where
  failMax : Nat
  resetAfter : Option Nat
  deriving DecidableEq

inductive RestError where
  | infinite
  /-- The rest has more days than an integer of 32 bits. -/
  | manyDays
  /-- The rest has more days than a span of time may have. -/
  | days (n : Nat)
  | date
  deriving DecidableEq

def dayLength : Nat := 24 * 60 * 60 * 1000000

def maxDays : Nat := 999999999

/-- Days from the start of the clock, which is that of the year 2024, to the end of the year 9999. -/
def calendarDays : Nat := 2913174

def RestError.message : RestError → String
  | .infinite => "cannot convert float infinity to integer"
  | .manyDays => "Python int too large to convert to C int"
  | .days n => "days=" ++ toString n ++ "; must have magnitude <= " ++ toString maxDays
  | .date => "date value out of range"

/-- When a rest that began at `since` ends. -/
def Policy.restEnd (policy : Policy) (since : Nat) : Except RestError Nat :=
  match policy.resetAfter with
  | none => .error .infinite
  | some time =>
    let days := time / dayLength
    if Nat.pow 2 31 ≤ days then .error .manyDays
    else if maxDays < days then .error (.days days)
    else if calendarDays * dayLength ≤ since + time then .error .date
    else .ok (since + time)

inductive Refusal where
  | resting
  | restUnknown (cause : RestError)
  deriving DecidableEq

/-- Whether a call may be made now, and in which state the breaker makes it. -/
def pass (policy : Policy) (now : Nat) (breaker : Breaker) : Except Refusal Breaker :=
  match breaker.state with
  | .opened since =>
    match policy.restEnd since with
    | .error e => .error (.restUnknown e)
    | .ok ends =>
      if now < ends then .error .resting else .ok { breaker with state := .halfOpen }
  | _ => .ok breaker

def succeed (_ : Breaker) : Breaker :=
  ⟨.closed, 0⟩

/-- One more failure. It opens a breaker that was on trial, and a closed one at the limit. -/
def fail (policy : Policy) (now : Nat) (breaker : Breaker) : Breaker :=
  let failures := breaker.failures + 1
  if breaker.state = .closed ∧ failures < policy.failMax then ⟨.closed, failures⟩
  else ⟨.opened now, failures⟩

end Breaker

end InterfacePlan
