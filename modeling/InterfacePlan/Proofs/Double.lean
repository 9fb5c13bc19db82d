import InterfacePlan.Double
import Mathlib.Algebra.Order.Field.Power
import Mathlib.Tactic.FieldSimp
import Mathlib.Tactic.Linarith
import Mathlib.Tactic.NormNum
import Mathlib.Tactic.Positivity
import Mathlib.Tactic.Ring

set_option autoImplicit false

namespace InterfacePlan

theorem natPow_natAbs (b : Nat) {k : Int} (nonnegative : 0 ≤ k) :
    ((Nat.pow b k.natAbs : Nat) : ℚ) = (b : ℚ) ^ k := by
  obtain ⟨n, rfl⟩ := Int.eq_ofNat_of_zero_le nonnegative
  rw [Nat.pow_eq, Nat.cast_pow, Int.natAbs_natCast, zpow_natCast]

theorem natPow_natAbs_of_neg (b : Nat) {k : Int} (negative : k < 0) :
    ((Nat.pow b k.natAbs : Nat) : ℚ) = (b : ℚ) ^ (-k) := by
  rw [← natPow_natAbs b (by omega), Int.natAbs_neg]

theorem roundDiv_mul_right (num den : Nat) {k : Nat} (positive : 0 < k) :
    roundDiv (num * k) (den * k) = roundDiv num den := by
  have low : num * k / (den * k) = num / den := Nat.mul_div_mul_right num den positive
  have rest : num * k % (den * k) = num % den * k := Nat.mul_mod_mul_right k num den
  have less : 2 * (num % den * k) < den * k ↔ 2 * (num % den) < den := by
    rw [← Nat.mul_assoc]
    exact Nat.mul_lt_mul_right positive
  have half : 2 * (num % den * k) = den * k ↔ 2 * (num % den) = den := by
    rw [← Nat.mul_assoc]
    exact Nat.mul_left_inj positive.ne'
  simp only [roundDiv, low, rest, less, half]

theorem roundDiv_congr {num den num' den' : Nat} (positive : 0 < den) (positive' : 0 < den')
    (same : num * den' = num' * den) : roundDiv num den = roundDiv num' den' := by
  calc roundDiv num den = roundDiv (num * den') (den * den') :=
        (roundDiv_mul_right num den positive').symm
    _ = roundDiv (num' * den) (den' * den) := by rw [same, Nat.mul_comm den den']
    _ = roundDiv num' den' := roundDiv_mul_right num' den' positive

theorem roundDiv_mul (m : Nat) {den : Nat} (positive : 0 < den) : roundDiv (m * den) den = m := by
  have low : m * den / den = m := Nat.mul_div_cancel m positive
  have rest : m * den % den = 0 := Nat.mul_mod_left m den
  unfold roundDiv
  simp only [low, rest]
  rw [if_pos (.inl (by omega))]

theorem roundDiv_of_lt_half {num den : Nat} (small : 2 * num < den) : roundDiv num den = 0 := by
  have low : num / den = 0 := Nat.div_eq_of_lt (by omega)
  have rest : num % den = num := Nat.mod_eq_of_lt (by omega)
  unfold roundDiv
  simp only [low, rest]
  rw [if_pos (.inl small)]

namespace Double

/-- The grid of exponent `q` is the one that holds a magnitude. -/
structure FitsGrid (x : ℚ) (q : Int) : Prop where
  least : -1074 ≤ q
  below : x < 2 ^ (q + 53)
  tight : q = -1074 ∨ 2 ^ (q + 52) ≤ x

theorem FitsGrid.le {x : ℚ} {p q : Int} (fits : FitsGrid x p) (other : FitsGrid x q) : p ≤ q := by
  rcases fits.tight with least | tight
  · have := other.least
    omega
  · have between : (2 : ℚ) ^ (p + 52) < 2 ^ (q + 53) := lt_of_le_of_lt tight other.below
    have := (zpow_lt_zpow_iff_right₀ (by norm_num)).mp between
    omega

theorem FitsGrid.unique {x : ℚ} {p q : Int} (fits : FitsGrid x p) (other : FitsGrid x q) : p = q :=
  le_antisymm (fits.le other) (other.le fits)

theorem scaled_pos (num : Nat) {den : Nat} (positive : 0 < den) (q : Int) :
    0 < (scaled num den q).2 := by
  unfold scaled
  split
  · exact positive
  · exact Nat.mul_pos positive (Nat.pow_pos (by decide))

theorem scaled_value (num : Nat) {den : Nat} (positive : 0 < den) (q : Int) :
    ((scaled num den q).1 : ℚ) = num / den * 2 ^ (-q) * (scaled num den q).2 := by
  have nonzero : (den : ℚ) ≠ 0 := by positivity
  unfold scaled
  split
  · rename_i negative
    rw [Nat.cast_mul, natPow_natAbs_of_neg 2 negative, Nat.cast_ofNat]
    field_simp
  · rename_i nonnegative
    rw [Nat.cast_mul, natPow_natAbs 2 (by omega), Nat.cast_ofNat, zpow_neg]
    field_simp

theorem scaled_lt_iff (num : Nat) {den : Nat} (positive : 0 < den) (q : Int) (k : Nat) :
    (scaled num den q).1 < Nat.pow 2 k * (scaled num den q).2 ↔ (num / den : ℚ) < 2 ^ (q + k) := by
  have bound : (0 : ℚ) < (scaled num den q).2 := by
    exact_mod_cast scaled_pos num positive q
  have unit : (0 : ℚ) < 2 ^ q := by positivity
  rw [← @Nat.cast_lt ℚ, Nat.cast_mul, scaled_value num positive q, mul_lt_mul_iff_left₀ bound,
    zpow_neg, ← div_eq_mul_inv, div_lt_iff₀ unit, zpow_add₀ (by norm_num), zpow_natCast,
    mul_comm ((2 : ℚ) ^ q)]
  simp only [Nat.pow_eq, Nat.cast_pow, Nat.cast_ofNat]

theorem log2_bounds {n : Nat} (positive : 0 < n) :
    (2 : ℚ) ^ (n.log2 : Int) ≤ n ∧ (n : ℚ) < 2 ^ ((n.log2 : Int) + 1) := by
  have low : 2 ^ n.log2 ≤ n := Nat.log2_self_le positive.ne'
  have high : n < 2 ^ (n.log2 + 1) := Nat.lt_log2_self
  constructor
  · rw [zpow_natCast]
    exact_mod_cast low
  · have lifted : (n : ℚ) < 2 ^ (n.log2 + 1) := by exact_mod_cast high
    rw [← zpow_natCast] at lifted
    exact_mod_cast lifted

/-- The lengths of numerator and denominator tell a quotient up to a factor of four. -/
theorem quotient_bounds {num den : Nat} (above : 0 < num) (positive : 0 < den) :
    (2 : ℚ) ^ ((num.log2 : Int) - den.log2 - 1) ≤ num / den ∧
      (num / den : ℚ) < 2 ^ ((num.log2 : Int) - den.log2 + 1) := by
  obtain ⟨numLow, numHigh⟩ := log2_bounds above
  obtain ⟨denLow, denHigh⟩ := log2_bounds positive
  have bottom : (0 : ℚ) < den := by exact_mod_cast positive
  constructor
  · rw [le_div_iff₀ bottom]
    calc (2 : ℚ) ^ ((num.log2 : Int) - den.log2 - 1) * den
        ≤ 2 ^ ((num.log2 : Int) - den.log2 - 1) * 2 ^ ((den.log2 : Int) + 1) := by gcongr
      _ = 2 ^ (num.log2 : Int) := by
          rw [← zpow_add₀ (by norm_num)]
          congr 1
          omega
      _ ≤ num := numLow
  · rw [div_lt_iff₀ bottom]
    calc (num : ℚ) < 2 ^ ((num.log2 : Int) + 1) := numHigh
      _ = 2 ^ ((num.log2 : Int) - den.log2 + 1) * 2 ^ (den.log2 : Int) := by
          rw [← zpow_add₀ (by norm_num)]
          congr 1
          omega
      _ ≤ 2 ^ ((num.log2 : Int) - den.log2 + 1) * den := by gcongr

theorem gridExponent_fits {num den : Nat} (above : 0 < num) (positive : 0 < den) :
    FitsGrid (num / den) (gridExponent num den) := by
  obtain ⟨low, high⟩ := quotient_bounds above positive
  have mono : ∀ {a b : Int}, a ≤ b → (2 : ℚ) ^ a ≤ 2 ^ b := fun le =>
    zpow_le_zpow_right₀ (by norm_num) le
  unfold gridExponent
  simp only
  generalize guessed : max (-1074) ((num.log2 : Int) - den.log2 - 53) = guess
  have shorter := scaled_lt_iff num positive guess 53
  split
  · rename_i fits
    refine ⟨by omega, shorter.mp fits, ?_⟩
    by_cases least : guess = -1074
    · exact .inl least
    · exact .inr ((mono (by omega)).trans low)
  · rename_i carried
    have above : (2 : ℚ) ^ (guess + 53) ≤ num / den := not_lt.mp fun less => carried (shorter.mpr less)
    refine ⟨by omega, lt_of_lt_of_le high (mono (by omega)), .inr ?_⟩
    rw [show guess + 1 + 52 = guess + 53 by omega]
    exact above

variable {num den num' den' : Nat} {negative : Bool}

theorem ofRatio_congr (above : 0 < num) (positive : 0 < den) (above' : 0 < num')
    (positive' : 0 < den') (same : (num / den : ℚ) = num' / den') :
    ofRatio negative num den = ofRatio negative num' den' := by
  have fits := gridExponent_fits above positive
  rw [same] at fits
  have exponent := fits.unique (gridExponent_fits above' positive')
  unfold ofRatio
  simp only [exponent]
  generalize gridExponent num' den' = q
  have first := scaled_value num positive q
  have second := scaled_value num' positive' q
  have cross : (scaled num den q).1 * (scaled num' den' q).2 =
      (scaled num' den' q).1 * (scaled num den q).2 := by
    have lifted : ((scaled num den q).1 : ℚ) * (scaled num' den' q).2 =
        (scaled num' den' q).1 * (scaled num den q).2 := by
      rw [first, second, same]
      ring
    exact_mod_cast lifted
  rw [roundDiv_congr (scaled_pos num positive q) (scaled_pos num' positive' q) cross]

theorem ofRatio_onGrid {m : Nat} {q : Int} (onGrid : OnGrid m q) (above : 0 < num) (positive : 0 < den)
    (value : (num / den : ℚ) = m * 2 ^ q) :
    ofRatio negative num den = .finite negative m q onGrid := by
  obtain ⟨short, least, -, normal⟩ := onGrid
  have unit : (0 : ℚ) < 2 ^ q := by positivity
  have below : (m : ℚ) < 2 ^ 53 := by exact_mod_cast short
  have fits : FitsGrid (num / den) q := by
    rw [value]
    refine ⟨least, ?_, ?_⟩
    · rw [zpow_add₀ (by norm_num), mul_comm]
      exact mul_lt_mul_of_pos_left below unit
    · rcases normal with large | denormal
      · have tall : (2 : ℚ) ^ 52 ≤ m := by exact_mod_cast large
        rw [zpow_add₀ (by norm_num), mul_comm (m : ℚ)]
        exact .inr (mul_le_mul_of_nonneg_left tall unit.le)
      · exact .inl denormal
  have exponent := (gridExponent_fits above positive).unique fits
  have whole : (scaled num den q).1 = m * (scaled num den q).2 := by
    have lifted := scaled_value num positive q
    rw [value, mul_assoc (m : ℚ), ← zpow_add₀ (by norm_num), add_neg_cancel, zpow_zero,
      mul_one] at lifted
    exact_mod_cast lifted
  unfold ofRatio
  simp only [exponent, whole, roundDiv_mul m (scaled_pos num positive q)]
  exact dif_pos _

theorem ofRatio_of_large (above : 0 < num) (positive : 0 < den)
    (large : (2 : ℚ) ^ (1024 : Int) ≤ num / den) : ofRatio negative num den = .infinity negative := by
  have fits := gridExponent_fits above positive
  have beyond := (zpow_lt_zpow_iff_right₀ (by norm_num)).mp (lt_of_le_of_lt large fits.below)
  unfold ofRatio ofParts
  generalize gridExponent num den = q at beyond
  simp only
  rw [dif_neg, dif_neg]
  · rintro ⟨-, onGrid⟩
    have := onGrid.2.2.1
    omega
  · intro onGrid
    have := onGrid.2.2.1
    omega

theorem ofRatio_of_small (above : 0 < num) (positive : 0 < den)
    (small : (num / den : ℚ) < 2 ^ (-1075 : Int)) : ofRatio negative num den = zero negative := by
  have fits := gridExponent_fits above positive
  have least : gridExponent num den = -1074 := by
    rcases fits.tight with least | tight
    · exact least
    · have between := (zpow_lt_zpow_iff_right₀ (by norm_num)).mp (lt_of_le_of_lt tight small)
      have := fits.least
      omega
  have bound : (0 : ℚ) < (scaled num den (-1074)).2 := by
    exact_mod_cast scaled_pos num positive (-1074)
  have half : 2 * (scaled num den (-1074)).1 < (scaled num den (-1074)).2 := by
    have lifted : (2 : ℚ) * (scaled num den (-1074)).1 < (scaled num den (-1074)).2 := by
      have scale : (2 : ℚ) ^ (-1075 : Int) * 2 ^ (1074 : Int) = 1 / 2 := by
        rw [← zpow_add₀ (by norm_num)]
        norm_num
      have less := mul_lt_mul_of_pos_right small (by positivity : (0 : ℚ) < 2 ^ (1074 : Int))
      rw [scale] at less
      have scaled := mul_lt_mul_of_pos_right less bound
      rw [scaled_value num positive, neg_neg]
      linarith
    exact_mod_cast lifted
  unfold ofRatio
  simp only [least, roundDiv_of_lt_half half]
  rfl

/-- The fraction that a decimal is. -/
def decimalRatio (digits : Nat) (exponent : Int) : Nat × Nat :=
  if exponent < 0 then (digits, Nat.pow 10 exponent.natAbs)
  else (digits * Nat.pow 10 exponent.natAbs, 1)

variable {digits digits' : Nat} {exponent exponent' : Int}

theorem decimalRatio_pos (some : 0 < digits) (exponent : Int) :
    0 < (decimalRatio digits exponent).1 ∧ 0 < (decimalRatio digits exponent).2 := by
  have power : 0 < Nat.pow 10 exponent.natAbs := Nat.pow_pos (by decide)
  unfold decimalRatio
  split
  · exact ⟨some, power⟩
  · exact ⟨Nat.mul_pos some power, Nat.one_pos⟩

theorem decimalRatio_value (digits : Nat) (exponent : Int) :
    ((decimalRatio digits exponent).1 / (decimalRatio digits exponent).2 : ℚ) =
      digits * 10 ^ exponent := by
  unfold decimalRatio
  split
  · rename_i small
    rw [natPow_natAbs_of_neg 10 small, Nat.cast_ofNat, zpow_neg, div_inv_eq_mul]
  · rename_i large
    rw [Nat.cast_mul, natPow_natAbs 10 (by omega), Nat.cast_ofNat, Nat.cast_one, div_one]

theorem two_zpow_le_ten_zpow {k n : Nat} (le : Nat.pow 2 k ≤ Nat.pow 10 n) :
    (2 : ℚ) ^ (k : Int) ≤ 10 ^ (n : Int) := by
  rw [zpow_natCast, zpow_natCast]
  exact_mod_cast le

theorem le_decimal_of_large (some : 0 < digits) (large : 310 < exponent) :
    (2 : ℚ) ^ (1024 : Int) ≤ digits * 10 ^ exponent := by
  have one_le : (1 : ℚ) ≤ digits := by exact_mod_cast some
  calc (2 : ℚ) ^ (1024 : Int) ≤ 10 ^ (311 : Int) := two_zpow_le_ten_zpow (by decide +kernel)
    _ ≤ 10 ^ exponent := zpow_le_zpow_right₀ (by norm_num) (by omega)
    _ ≤ digits * 10 ^ exponent := le_mul_of_one_le_left (by positivity) one_le

theorem decimal_lt_of_small (some : 0 < digits) (small : exponent + digits.log2 < -330) :
    (digits * 10 ^ exponent : ℚ) < 2 ^ (-1075 : Int) := by
  have short := (log2_bounds some).2
  have powers : (2 : ℚ) ^ ((digits.log2 : Int) + 1) ≤ 10 ^ ((digits.log2 : Int) + 1) :=
    zpow_le_zpow_left₀ (by omega) (by norm_num) (by norm_num)
  have least : (2 : ℚ) ^ (1075 : Int) ≤ 10 ^ (330 : Int) := two_zpow_le_ten_zpow (by decide +kernel)
  calc (digits : ℚ) * 10 ^ exponent < 2 ^ ((digits.log2 : Int) + 1) * 10 ^ exponent := by gcongr
    _ ≤ 10 ^ ((digits.log2 : Int) + 1) * 10 ^ exponent := by gcongr
    _ = 10 ^ ((digits.log2 : Int) + 1 + exponent) := (zpow_add₀ (by norm_num) _ _).symm
    _ ≤ 10 ^ (-330 : Int) := zpow_le_zpow_right₀ (by norm_num) (by omega)
    _ ≤ 2 ^ (-1075 : Int) := by
        rw [zpow_neg, zpow_neg]
        exact inv_anti₀ (by positivity) least

/-- A decimal is read as the fraction that it is; settling it by its size makes no difference. -/
theorem ofDecimal_eq_ofRatio (some : 0 < digits) (exponent : Int) :
    ofDecimal negative digits exponent =
      ofRatio negative (decimalRatio digits exponent).1 (decimalRatio digits exponent).2 := by
  obtain ⟨above, positive⟩ := decimalRatio_pos some exponent
  have value := decimalRatio_value digits exponent
  unfold ofDecimal
  rw [if_neg (by omega)]
  split
  · rename_i large
    exact (ofRatio_of_large above positive (value ▸ le_decimal_of_large some large)).symm
  split
  · rename_i small
    exact (ofRatio_of_small above positive (value ▸ decimal_lt_of_small some small)).symm
  · unfold decimalRatio
    split <;> rfl

theorem ofDecimal_congr (some : 0 < digits) (some' : 0 < digits')
    (same : (digits * 10 ^ exponent : ℚ) = digits' * 10 ^ exponent') :
    ofDecimal negative digits exponent = ofDecimal negative digits' exponent' := by
  obtain ⟨above, positive⟩ := decimalRatio_pos some exponent
  obtain ⟨above', positive'⟩ := decimalRatio_pos some' exponent'
  rw [ofDecimal_eq_ofRatio some, ofDecimal_eq_ofRatio some']
  apply ofRatio_congr above positive above' positive'
  rw [decimalRatio_value, decimalRatio_value, same]

/-- A decimal that is a number on the grid is read as that number. -/
theorem ofDecimal_onGrid {m : Nat} {q : Int} (onGrid : OnGrid m q) (some : 0 < digits)
    (value : (digits * 10 ^ exponent : ℚ) = m * 2 ^ q) :
    ofDecimal negative digits exponent = .finite negative m q onGrid := by
  obtain ⟨above, positive⟩ := decimalRatio_pos some exponent
  rw [ofDecimal_eq_ofRatio some]
  apply ofRatio_onGrid onGrid above positive
  rw [decimalRatio_value, value]

theorem ofParts_finite {m n : Nat} {p q : Int} {onGrid : OnGrid m q}
    (read : ofParts false n p = .finite false m q onGrid) (negative : Bool) :
    ofParts negative n p = .finite negative m q onGrid := by
  unfold ofParts at read ⊢
  by_cases inside : OnGrid n p
  · rw [dif_pos inside] at read ⊢
    cases read
    rfl
  · rw [dif_neg inside] at read ⊢
    by_cases carried : n = Nat.pow 2 53 ∧ OnGrid (Nat.pow 2 52) (p + 1)
    · rw [dif_pos carried] at read ⊢
      cases read
      rfl
    · rw [dif_neg carried] at read
      cases read

/-- The sign of a decimal is the sign of the number that it is read as. -/
theorem ofDecimal_finite {m : Nat} {q : Int} {onGrid : OnGrid m q} (some : 0 < digits)
    (read : ofDecimal false digits exponent = .finite false m q onGrid) (negative : Bool) :
    ofDecimal negative digits exponent = .finite negative m q onGrid := by
  rw [ofDecimal_eq_ofRatio some] at read ⊢
  unfold ofRatio at read ⊢
  exact ofParts_finite read negative

end Double

end InterfacePlan
