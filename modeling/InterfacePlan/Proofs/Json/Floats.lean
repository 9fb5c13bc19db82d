import InterfacePlan.Proofs.Decimal
import InterfacePlan.Proofs.Json.Denotes

set_option autoImplicit false

namespace InterfacePlan

namespace Json.Strict

theorem digitsValue_append_zeros (digits : List Char) (n : Nat) :
    digitsValue (digits ++ List.replicate n '0') = digitsValue digits * 10 ^ n := by
  induction n with
  | zero => rw [List.replicate_zero, List.append_nil, Nat.pow_zero, Nat.mul_one]
  | succ n ih =>
      rw [List.replicate_succ', ← List.append_assoc, digitsValue_append_singleton, ih, Nat.pow_succ,
        Nat.mul_assoc]
      rfl

theorem digitsValue_zeros_append (n : Nat) (digits : List Char) :
    digitsValue (List.replicate n '0' ++ digits) = digitsValue digits := by
  induction n with
  | zero => rfl
  | succ n ih => exact ih

theorem isDigit_of_mem_zeros {n : Nat} {c : Char} (inside : c ∈ List.replicate n '0') : isDigit c := by
  rw [List.eq_of_mem_replicate inside]
  rfl

theorem isDigit_of_mem_padded {k n : Nat} {c : Char}
    (inside : c ∈ List.replicate k '0' ++ Decimal.natText n) : isDigit c := by
  rcases List.mem_append.mp inside with zero | digit
  · exact isDigit_of_mem_zeros zero
  · exact isDigit_of_mem_natText digit

theorem padded_ne_nil (k n : Nat) : List.replicate k '0' ++ Decimal.natText n ≠ [] :=
  List.append_ne_nil_of_right_ne_nil _ (Decimal.natText_ne_nil n)

theorem digitsValue_padded (k n : Nat) :
    digitsValue (List.replicate k '0' ++ Decimal.natText n) = n := by
  rw [digitsValue_zeros_append, digitsValue_natText]

theorem readFraction_point {places : List Char} (present : places ≠ [])
    (all : ∀ c ∈ places, isDigit c) {rest : List Char} (ends : NoDigit rest) :
    readFraction ('.' :: (places ++ rest)) = .ok (some places, rest) := by
  unfold readFraction
  simp only [takeWhile_digits all ends, dropWhile_digits all ends, present, ↓reduceIte]

/-- A power of ten with its sign, padded by zeros. -/
def powerText (power : Int) (zeros : Nat) : List Char :=
  'e' :: (if power < 0 then '-' else '+') ::
    (List.replicate zeros '0' ++ Decimal.natText power.natAbs)

theorem readExponent_powerText (power : Int) (zeros : Nat) {rest : List Char} (stops : Stops rest) :
    readExponent (powerText power zeros ++ rest) = .ok (some power, rest) := by
  have all : ∀ c ∈ List.replicate zeros '0' ++ Decimal.natText power.natAbs, isDigit c :=
    fun c => isDigit_of_mem_padded
  have present := padded_ne_nil zeros power.natAbs
  have value := digitsValue_padded zeros power.natAbs
  unfold powerText readExponent
  by_cases negative : power < 0
  · simp only [negative, ↓reduceIte, List.cons_append, readSign, true_or,
      takeWhile_digits all stops.noDigit, dropWhile_digits all stops.noDigit, present, value]
    congr 3
    omega
  · simp only [negative, ↓reduceIte, List.cons_append, readSign, true_or,
      takeWhile_digits all stops.noDigit, dropWhile_digits all stops.noDigit, present, value]
    simp only [Bool.false_eq_true, ↓reduceIte]
    congr 3
    omega

theorem noDigit_powerText (power : Int) (zeros : Nat) (rest : List Char) :
    NoDigit (powerText power zeros ++ rest) :=
  .cons (by decide)

variable {m : Nat} {q : Int} {onGrid : OnGrid m q}

/-- Without its sign, a text is read as a number of this magnitude. -/
structure ReadsAs (text : List Char) (m : Nat) (q : Int) (onGrid : OnGrid m q) : Prop where
  begins : ∃ c tail, text = c :: tail ∧ isDigit c
  reads : ∀ (path : List PathStep) (negative : Bool) (rest : List Char), Stops rest →
    readNumber path negative (text ++ rest) = .ok (.float (.finite negative m q onGrid), rest)

theorem Whole.begins {digits : List Char} (whole : Whole digits) (rest : List Char) :
    ∃ c tail, digits ++ rest = c :: tail ∧ isDigit c := by
  rcases whole.leading with rfl | ⟨c, tail, rfl, -⟩
  · exact ⟨'0', rest, rfl, rfl⟩
  · exact ⟨c, tail ++ rest, rfl, whole.all c List.mem_cons_self⟩

theorem readTail_of_parts {digits rest after last : List Char} {fraction : Option (List Char)}
    {power : Option Int} (point : readFraction rest = .ok (fraction, after))
    (exponent : readExponent after = .ok (power, last))
    (float : (fraction.isNone && power.isNone) = false) {negative : Bool}
    (value : Double.ofDecimal negative (digitsValue (digits ++ fraction.getD []))
      (power.getD 0 - (fraction.getD []).length) = .finite negative m q onGrid)
    (path : List PathStep) :
    readTail path negative digits rest = .ok (.float (.finite negative m q onGrid), last) := by
  unfold readTail
  simp only [point, exponent, float, Bool.false_eq_true, ↓reduceIte, value]

theorem readsAs_point {digits places : List Char} (whole : Whole digits) (present : places ≠ [])
    (all : ∀ c ∈ places, isDigit c)
    (value : ∀ negative, Double.ofDecimal negative (digitsValue (digits ++ places))
      (-(places.length : Int)) = .finite negative m q onGrid) :
    ReadsAs (digits ++ '.' :: places) m q onGrid := by
  refine ⟨whole.begins _, ?_⟩
  intro path negative rest stops
  have point := readFraction_point present all stops.noDigit
  rw [List.append_assoc, List.cons_append,
    readNumber_whole whole path negative (.cons (by decide))]
  apply readTail_of_parts point (readExponent_of_stops stops) rfl
  rw [Option.getD_none, Option.getD_some, Int.zero_sub]
  exact value negative

theorem readsAs_point_power {digits places : List Char} (whole : Whole digits) (present : places ≠ [])
    (all : ∀ c ∈ places, isDigit c) (power : Int) (zeros : Nat)
    (value : ∀ negative, Double.ofDecimal negative (digitsValue (digits ++ places))
      (power - places.length) = .finite negative m q onGrid) :
    ReadsAs (digits ++ '.' :: places ++ powerText power zeros) m q onGrid := by
  refine ⟨by rw [List.append_assoc]; exact whole.begins _, ?_⟩
  intro path negative rest stops
  have point := readFraction_point present all (noDigit_powerText power zeros rest)
  have exponent := readExponent_powerText power zeros stops
  rw [List.append_assoc, List.append_assoc, List.cons_append,
    readNumber_whole whole path negative (.cons (by decide))]
  exact readTail_of_parts point exponent rfl (value negative) path

theorem readsAs_power {digits : List Char} (whole : Whole digits) (power : Int) (zeros : Nat)
    (value : ∀ negative, Double.ofDecimal negative (digitsValue digits) power =
      .finite negative m q onGrid) :
    ReadsAs (digits ++ powerText power zeros) m q onGrid := by
  refine ⟨whole.begins _, ?_⟩
  intro path negative rest stops
  have exponent := readExponent_powerText power zeros stops
  have point : readFraction (powerText power zeros ++ rest) =
      .ok (none, powerText power zeros ++ rest) := rfl
  rw [List.append_assoc, readNumber_whole whole path negative (noDigit_powerText power zeros rest)]
  apply readTail_of_parts point exponent rfl
  rw [Option.getD_none, Option.getD_some, List.append_nil, List.length_nil, Int.natCast_zero,
    Int.sub_zero]
  exact value negative

open Decimal (ReadsBack natText)

theorem whole_natText_append {n : Nat} (positive : 0 < n) {more : List Char}
    (all : ∀ c ∈ more, isDigit c) : Whole (natText n ++ more) := by
  obtain ⟨c, tail, same, nonzero⟩ := Decimal.head_natText_ne_zero positive
  refine ⟨?_, .inr ⟨c, tail ++ more, by rw [same, List.cons_append], nonzero⟩⟩
  intro d inside
  rcases List.mem_append.mp inside with own | other
  · exact isDigit_of_mem_natText own
  · exact all d other

theorem whole_take_natText {n : Nat} (positive : 0 < n) {k : Nat} (some : 0 < k) :
    Whole ((natText n).take k) := by
  obtain ⟨c, tail, same, nonzero⟩ := Decimal.head_natText_ne_zero positive
  refine ⟨fun d inside => isDigit_of_mem_natText (List.mem_of_mem_take inside), ?_⟩
  obtain ⟨j, rfl⟩ : ∃ j, k = j + 1 := ⟨k - 1, by omega⟩
  exact .inr ⟨c, tail.take j, by rw [same, List.take_succ_cons], nonzero⟩

theorem readsAs_positional {digits : Nat} {exponent : Int}
    (readsBack : ReadsBack m q onGrid (digits, exponent)) :
    ReadsAs (FloatStyle.positional (natText digits) exponent) m q onGrid := by
  have whole := whole_natText digits
  unfold FloatStyle.positional
  simp only
  by_cases integral : 0 ≤ exponent
  · -- The zeros before the point and the one after it make the digits longer, not their value.
    rw [if_pos integral]
    have zeros : natText digits ++ List.replicate exponent.toNat '0' ++ ['0'] =
        natText digits ++ List.replicate (exponent.toNat + 1) '0' := by
      rw [List.append_assoc, List.replicate_succ']
    refine @readsAs_point m q onGrid _ ['0'] ?_ (by simp) whole_zero.all ?_
    · exact whole_natText_append readsBack.some fun c => isDigit_of_mem_zeros
    · intro negative
      rw [zeros, digitsValue_append_zeros, digitsValue_natText, ← readsBack.reads negative]
      apply Double.ofDecimal_congr (Nat.mul_pos readsBack.some (by positivity)) readsBack.some
      obtain ⟨k, rfl⟩ := Int.eq_ofNat_of_zero_le integral
      simp only [Int.toNat_natCast, Nat.cast_mul, Nat.cast_pow, Nat.cast_ofNat, List.length_singleton,
        Nat.cast_one, zpow_neg_one, zpow_natCast, pow_succ]
      field_simp
  · rw [if_neg integral]
    by_cases inner : 0 < (natText digits).length + exponent
    · rw [if_pos inner]
      generalize cut : ((natText digits).length + exponent).toNat = k
      have short : k < (natText digits).length := by omega
      apply readsAs_point (whole_take_natText readsBack.some (by omega))
      · rw [ne_eq, List.drop_eq_nil_iff]
        omega
      · intro c inside
        exact whole.all c (List.mem_of_mem_drop inside)
      · intro negative
        rw [List.take_append_drop, digitsValue_natText, ← readsBack.reads negative]
        congr 1
        rw [List.length_drop]
        omega
    · rw [if_neg inner]
      apply readsAs_point whole_zero (padded_ne_nil _ _) fun c => isDigit_of_mem_padded
      intro negative
      rw [← readsBack.reads negative]
      have value : digitsValue (['0'] ++ (List.replicate
          ((natText digits).length + exponent).natAbs '0' ++ natText digits)) = digits := by
        rw [List.singleton_append, ← List.cons_append, ← List.replicate_succ, digitsValue_padded]
      rw [value]
      congr 1
      rw [List.length_append, List.length_replicate]
      omega

theorem readsAs_scientific (style : FloatStyle) {digits : Nat} {exponent : Int}
    (readsBack : ReadsBack m q onGrid (digits, exponent)) :
    ReadsAs (style.scientific (natText digits) exponent) m q onGrid := by
  have leading : Whole ((natText digits).take 1) := whole_take_natText readsBack.some (by decide)
  have split : (natText digits).take 1 ++ (natText digits).drop 1 = natText digits :=
    List.take_append_drop 1 _
  have long : 0 < (natText digits).length := List.length_pos_iff.mpr (Decimal.natText_ne_nil _)
  unfold FloatStyle.scientific
  simp only
  by_cases single : (natText digits).drop 1 = []
  · rw [if_pos single, List.append_nil]
    rw [single, List.append_nil] at split
    have short := List.drop_eq_nil_iff.mp single
    apply readsAs_power leading
    intro negative
    rw [split, digitsValue_natText, ← readsBack.reads negative]
    congr 1
    omega
  · rw [if_neg single]
    apply readsAs_point_power leading single
    · intro c inside
      exact isDigit_of_mem_natText (List.mem_of_mem_drop inside)
    · intro negative
      rw [split, digitsValue_natText, ← readsBack.reads negative]
      congr 1
      rw [List.length_drop]
      omega

/-- The magnitude of a number is read back in every style. -/
theorem readsAs_magnitude (style : FloatStyle) (onGrid : OnGrid m q) :
    ReadsAs (style.magnitude m q onGrid) m q onGrid := by
  unfold FloatStyle.magnitude
  by_cases zero : m = 0
  · subst zero
    have least : q = -1074 := by
      rcases onGrid.2.2.2 with large | least
      · exact absurd large (by decide)
      · exact least
    subst least
    rw [if_pos rfl]
    exact @readsAs_point _ _ onGrid ['0'] ['0'] whole_zero (by simp) whole_zero.all fun _ => rfl
  · rw [if_neg zero]
    have readsBack := Decimal.shortest_readsBack onGrid (Nat.pos_of_ne_zero zero)
    generalize Decimal.shortest m q onGrid = decimal at readsBack
    simp only
    split
    · exact readsAs_positional readsBack
    · exact readsAs_scientific style readsBack

theorem denotes_float (style : FloatStyle) {x : Double} (finite : x.units?.isSome) :
    Denotes (style.write x) (.float x) := by
  cases x with
  | nan => cases finite
  | infinity negative => cases finite
  | finite negative m q onGrid =>
      obtain ⟨⟨c, tail, same, digit⟩, reads⟩ := readsAs_magnitude style onGrid
      unfold FloatStyle.write
      simp only
      cases negative with
      | true =>
          apply Denotes.of_step rfl (by decide)
          intro fuel path rest _ stops
          rw [List.cons_append, readValue_minus]
          exact reads path true rest stops
      | false =>
          simp only [Bool.false_eq_true, ↓reduceIte]
          rw [same] at reads ⊢
          have visible := visible_of_isDigit (isDigit_iff.mp digit)
          apply Denotes.of_step visible.1 visible.2
          intro fuel path rest _ stops
          rw [List.cons_append, readValue_digit (isDigit_iff.mp digit)]
          exact reads path false rest stops

end Json.Strict

end InterfacePlan
