import InterfacePlan.Breaker

set_option autoImplicit false

namespace InterfacePlan.Breaker

/-- A call that was let through: when it was made, and whether it succeeded. -/
structure Trial where
  time : Nat
  succeeded : Bool
  deriving DecidableEq

/-- How many calls have failed since one succeeded. The latest call comes first. -/
def streak (history : List Trial) : Nat :=
  (history.takeWhile fun trial => !trial.succeeded).length

/-- The breaker that is closed until `failMax` calls in a row have failed, and open since the last of
them from then on. -/
def after (policy : Policy) : List Trial → Breaker
  | [] => {}
  | last :: earlier =>
    if streak (last :: earlier) < policy.failMax then ⟨.closed, streak (last :: earlier)⟩
    else ⟨.opened last.time, streak (last :: earlier)⟩

/-- A rest that begins at `since` ends at `ends`, which a calendar holds. -/
def Policy.RestsUntil (policy : Policy) (since ends : Nat) : Prop :=
  ∃ rest, policy.resetAfter = some rest ∧ ends = since + rest ∧ ends < calendarDays * dayLength

/-- Whether a history lets the next call through at a time: fewer than `failMax` calls in a row have
failed, or the rest since the last of them is over. -/
def Admits (policy : Policy) (history : List Trial) (now : Nat) : Prop :=
  streak history < policy.failMax ∨
    ∃ last earlier ends, history = last :: earlier ∧ policy.RestsUntil last.time ends ∧ ends ≤ now

variable {policy : Policy} {history earlier : List Trial} {last : Trial} {now : Nat}

@[simp] theorem streak_success : streak (⟨now, true⟩ :: history) = 0 := rfl

@[simp] theorem streak_failure : streak (⟨now, false⟩ :: history) = streak history + 1 := rfl

theorem after_of_streak_lt (few : streak history < policy.failMax) :
    after policy history = ⟨.closed, streak history⟩ := by
  cases history with
  | nil => rfl
  | cons last earlier => rw [after, if_pos few]

theorem after_of_le_streak (many : policy.failMax ≤ streak (last :: earlier)) :
    after policy (last :: earlier) = ⟨.opened last.time, streak (last :: earlier)⟩ := by
  rw [after, if_neg (by omega)]

theorem Policy.restEnd_eq_ok_iff {since ends : Nat} :
    policy.restEnd since = .ok ends ↔ policy.RestsUntil since ends := by
  unfold Policy.restEnd Policy.RestsUntil
  cases policy.resetAfter with
  | none => simp only [reduceCtorEq, false_and, exists_false]
  | some rest =>
      have short : since + rest < calendarDays * dayLength → rest / dayLength < calendarDays := by
        intro onCalendar
        exact Nat.div_lt_of_lt_mul (by rw [Nat.mul_comm]; omega)
      have fits : calendarDays < Nat.pow 2 31 ∧ calendarDays < maxDays := by decide
      simp only [Option.some.injEq, exists_eq_left']
      constructor
      · intro told
        split at told
        · cases told
        · split at told
          · cases told
          · split at told
            · cases told
            · cases told
              exact ⟨rfl, by omega⟩
      · rintro ⟨rfl, onCalendar⟩
        have days := short onCalendar
        rw [if_neg (by omega), if_neg (by omega), if_neg (by omega)]

/-- What the next call is told: it is let through, it has to wait, or nobody can say for how long. -/
inductive Verdict (policy : Policy) (now : Nat) : List Trial → Except Refusal Breaker → Prop
  | admitted {history : List Trial} {breaker : Breaker} (admits : Admits policy history now)
      (failures : breaker.failures = streak history)
      (closed : breaker.state = .closed ↔ streak history < policy.failMax) :
      Verdict policy now history (.ok breaker)
  | resting {last : Trial} {earlier : List Trial} {ends : Nat}
      (tripped : policy.failMax ≤ streak (last :: earlier))
      (rests : policy.RestsUntil last.time ends) (early : now < ends) :
      Verdict policy now (last :: earlier) (.error .resting)
  | endless {last : Trial} {earlier : List Trial} {cause : RestError}
      (tripped : policy.failMax ≤ streak (last :: earlier))
      (untold : policy.restEnd last.time = .error cause) :
      Verdict policy now (last :: earlier) (.error (.restUnknown cause))

theorem pass_after (positive : 0 < policy.failMax) (history : List Trial) (now : Nat) :
    Verdict policy now history ((after policy history).pass policy now) := by
  by_cases few : streak history < policy.failMax
  · rw [after_of_streak_lt few]
    exact .admitted (.inl few) rfl (iff_of_true rfl few)
  · cases history with
    | nil => exact absurd positive few
    | cons last earlier =>
        have many : policy.failMax ≤ streak (last :: earlier) := by omega
        rw [after_of_le_streak many, pass]
        cases told : policy.restEnd last.time with
        | error cause =>
            simp only [told]
            exact .endless many told
        | ok ends =>
            have rests := Policy.restEnd_eq_ok_iff.mp told
            simp only [told]
            by_cases early : now < ends
            · rw [if_pos early]
              exact .resting many rests early
            · rw [if_neg early]
              have admits : Admits policy (last :: earlier) now :=
                .inr ⟨last, earlier, ends, rfl, rests, by omega⟩
              exact .admitted admits rfl (iff_of_false BreakerState.noConfusion few)

theorem succeed_after (positive : 0 < policy.failMax) (breaker : Breaker) :
    breaker.succeed = after policy (⟨now, true⟩ :: history) := by
  rw [after_of_streak_lt (by rw [streak_success]; exact positive)]
  rfl

theorem fail_after {admitted : Breaker} (failures : admitted.failures = streak history)
    (closed : admitted.state = .closed ↔ streak history < policy.failMax) :
    admitted.fail policy now = after policy (⟨now, false⟩ :: history) := by
  by_cases few : streak history + 1 < policy.failMax
  · have closes : streak (⟨now, false⟩ :: history) < policy.failMax := few
    rw [after_of_streak_lt closes, fail, failures, streak_failure]
    exact if_pos ⟨closed.mpr (by omega), few⟩
  · have many : policy.failMax ≤ streak (⟨now, false⟩ :: history) := by
      rw [streak_failure]
      omega
    rw [after_of_le_streak many, fail, failures, streak_failure]
    exact if_neg fun both => few both.2

end InterfacePlan.Breaker
