import InterfacePlan.Decimal
import InterfacePlan.Proofs.Double

set_option autoImplicit false

namespace InterfacePlan.Decimal

variable {m : Nat} {q : Int}

/-- Digits and a power of ten that are read as `m · 2 ^ q`, under either sign. -/
structure ReadsBack (m : Nat) (q : Int) (onGrid : OnGrid m q) (decimal : Nat × Int) : Prop where
  some : 0 < decimal.1
  reads : ∀ negative, Double.ofDecimal negative decimal.1 decimal.2 = .finite negative m q onGrid

theorem ReadsBack.trimZeros {onGrid : OnGrid m q} (fuel : Nat) :
    ∀ {digits : Nat} {exponent : Int}, ReadsBack m q onGrid (digits, exponent) →
      ReadsBack m q onGrid (trimZeros fuel digits exponent) := by
  induction fuel with
  | zero => exact fun readsBack => readsBack
  | succ fuel ih =>
      intro digits exponent readsBack
      unfold Decimal.trimZeros
      by_cases trailing : digits ≠ 0 ∧ digits % 10 = 0
      · rw [if_pos trailing]
        have whole : digits = digits / 10 * 10 := by omega
        have shorter : 0 < digits / 10 := by omega
        apply ih
        refine ⟨shorter, ?_⟩
        intro negative
        rw [← readsBack.reads negative]
        apply Double.ofDecimal_congr shorter readsBack.some
        have lifted : (digits : ℚ) = (digits / 10 : Nat) * 10 := by exact_mod_cast whole
        rw [lifted, zpow_add₀ (by norm_num), zpow_one]
        ring
      · rw [if_neg trailing]
        exact readsBack

theorem exact_readsBack (onGrid : OnGrid m q) (some : 0 < m) :
    ReadsBack m q onGrid (exact m q) := by
  have positive : ∀ {b k : Nat}, 0 < b → 0 < m * Nat.pow b k := fun base =>
    Nat.mul_pos some (Nat.pow_pos base)
  unfold exact
  by_cases small : q < 0
  · rw [if_pos small]
    refine ⟨positive (by decide), fun negative => ?_⟩
    apply Double.ofDecimal_onGrid onGrid (positive (by decide))
    have ten : (10 : ℚ) ^ q = 2 ^ q * 5 ^ q := by
      rw [← mul_zpow]
      norm_num
    rw [Nat.cast_mul, natPow_natAbs_of_neg 5 small, Nat.cast_ofNat, ten, zpow_neg]
    field_simp
  · rw [if_neg small]
    refine ⟨positive (by decide), fun negative => ?_⟩
    apply Double.ofDecimal_onGrid onGrid (positive (by decide))
    rw [Nat.cast_mul, natPow_natAbs 2 (by omega), Nat.cast_ofNat, zpow_zero, mul_one]

theorem readsBack_of_found {onGrid : OnGrid m q} (some : 0 < m) {digits : Nat} {exponent : Int}
    (found : Double.ofDecimal false digits exponent = .finite false m q onGrid) :
    ReadsBack m q onGrid (digits, exponent) := by
  have positive : 0 < digits := by
    apply Nat.pos_of_ne_zero
    intro none
    rw [Double.ofDecimal, if_pos none, Double.zero, Double.finite.injEq] at found
    omega
  exact ⟨positive, Double.ofDecimal_finite positive found⟩

theorem shortest_readsBack (onGrid : OnGrid m q) (some : 0 < m) :
    ReadsBack m q onGrid (shortest m q onGrid) := by
  unfold shortest
  simp only
  apply ReadsBack.trimZeros
  generalize searched : List.findSome? _ _ = found
  cases found with
  | none => exact exact_readsBack onGrid some
  | some decimal =>
      obtain ⟨places, -, hit⟩ := List.exists_of_findSome?_eq_some searched
      obtain ⟨digits, near, rfl⟩ := Option.map_eq_some_iff.mp hit
      have read := List.find?_some near
      exact readsBack_of_found some (of_decide_eq_true read)

end InterfacePlan.Decimal
