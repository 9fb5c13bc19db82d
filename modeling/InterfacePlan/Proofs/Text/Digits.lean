import InterfacePlan.Decimal

set_option autoImplicit false

namespace InterfacePlan.Decimal

theorem natText_ne_nil (n : Nat) : natText n ≠ [] :=
  Nat.toDigits_ne_nil

theorem isDigit_of_mem_natText {n : Nat} {c : Char} (inside : c ∈ natText n) : c.isDigit :=
  Nat.isDigit_of_mem_toDigits (by decide) (by decide) inside

theorem natText_step {n : Nat} (large : 10 ≤ n) :
    natText n = natText (n / 10) ++ [(n % 10).digitChar] :=
  Nat.toDigits_of_base_le (by decide) large

theorem digitChar_ne_zero {n : Nat} (positive : 0 < n) (small : n < 10) : n.digitChar ≠ '0' := by
  have each : ∀ m : Nat, m < 10 → 0 < m → m.digitChar ≠ '0' := by decide
  exact each n small positive

theorem head_natText_ne_zero {n : Nat} (positive : 0 < n) :
    ∃ c tail, natText n = c :: tail ∧ c ≠ '0' := by
  induction n using Nat.strongRecOn with
  | ind n ih =>
      by_cases small : n < 10
      · exact ⟨n.digitChar, [], Nat.toDigits_of_lt_base small, digitChar_ne_zero positive small⟩
      · obtain ⟨c, tail, same, nonzero⟩ := ih (n / 10) (by omega) (by omega)
        refine ⟨c, tail ++ [(n % 10).digitChar], ?_, nonzero⟩
        rw [natText_step (by omega), same, List.cons_append]

theorem natText_zero : natText 0 = ['0'] := rfl

theorem intText_cases (n : Int) :
    (n < 0 ∧ intText n = '-' :: natText n.natAbs) ∨ (0 ≤ n ∧ intText n = natText n.natAbs) := by
  by_cases negative : n < 0
  · exact .inl ⟨negative, by rw [intText, if_pos negative]⟩
  · exact .inr ⟨by omega, by rw [intText, if_neg negative]⟩

theorem intText_chars {n : Int} {c : Char} (inside : c ∈ intText n) : c = '-' ∨ c.isDigit := by
  rcases intText_cases n with ⟨-, same⟩ | ⟨-, same⟩
  · rw [same, List.mem_cons] at inside
    exact inside.imp_right isDigit_of_mem_natText
  · rw [same] at inside
    exact .inr (isDigit_of_mem_natText inside)

theorem length_natText_le {n k : Nat} (positive : 0 < k) (small : n < Nat.pow 10 k) :
    (natText n).length ≤ k :=
  (Nat.length_toDigits_le_iff (by decide) positive).mpr small

/-- A sign, a one and so many zeros. -/
def negativePower (k : Nat) : Int :=
  -(Nat.pow 10 k : Nat)

theorem lt_length_negativePower (k : Nat) : k + 1 < (intText (negativePower k)).length := by
  have positive : 0 < Nat.pow 10 k := Nat.pow_pos (by decide)
  have digits : k < (natText (Nat.pow 10 k)).length := by
    rcases Nat.eq_zero_or_pos k with rfl | some
    · decide
    · apply Nat.lt_of_not_le
      intro short
      have small := (Nat.length_toDigits_le_iff (by decide) some).mp short
      exact Nat.lt_irrefl _ small
  rw [negativePower]
  rcases intText_cases (-(Nat.pow 10 k : Nat)) with ⟨-, same⟩ | ⟨nonnegative, -⟩
  · rw [same, List.length_cons, Int.natAbs_neg, Int.natAbs_natCast]
    omega
  · omega

end InterfacePlan.Decimal
