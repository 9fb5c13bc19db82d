import InterfacePlan.Json.Strict
import InterfacePlan.Proofs.Text.Digits
import InterfacePlan.Text.Quoted

set_option autoImplicit false

namespace InterfacePlan.Json.Strict

def AllBlank (cs : List Char) : Prop :=
  ∀ c ∈ cs, isBlank c

theorem AllBlank.nil : AllBlank [] := by
  intro c inside
  cases inside

theorem AllBlank.replicate (n : Nat) : AllBlank (List.replicate n ' ') := by
  intro c inside
  rw [List.eq_of_mem_replicate inside]
  rfl

theorem AllBlank.cons {c : Char} {cs : List Char} (head : isBlank c) (tail : AllBlank cs) :
    AllBlank (c :: cs) := by
  intro d inside
  rcases List.mem_cons.mp inside with rfl | inside
  · exact head
  · exact tail d inside

theorem skipBlank_append {gap : List Char} (blank : AllBlank gap) (rest : List Char) :
    skipBlank (gap ++ rest) = skipBlank rest := by
  induction gap with
  | nil => rfl
  | cons c gap ih =>
      have head : isBlank c := blank c List.mem_cons_self
      rw [List.cons_append, skipBlank, List.dropWhile_cons_of_pos head]
      exact ih (fun d inside => blank d (List.mem_cons_of_mem c inside))

theorem skipBlank_cons {c : Char} (visible : isBlank c = false) (rest : List Char) :
    skipBlank (c :: rest) = c :: rest := by
  rw [skipBlank, List.dropWhile_cons_of_neg (by simp [visible])]

/-- What may follow a number without being taken for a part of it. -/
def Stops (rest : List Char) : Prop :=
  ∀ c tail, rest = c :: tail → isDigit c = false ∧ c ≠ '.' ∧ c ≠ 'e' ∧ c ≠ 'E'

theorem Stops.nil : Stops [] := by
  intro c tail same
  cases same

theorem Stops.cons {c : Char} {tail : List Char}
    (other : isDigit c = false ∧ c ≠ '.' ∧ c ≠ 'e' ∧ c ≠ 'E') : Stops (c :: tail) := by
  intro d rest same
  cases same
  exact other

theorem stops_of_isBlank {c : Char} (blank : isBlank c) (tail : List Char) : Stops (c :: tail) := by
  apply Stops.cons
  simp only [isBlank, Bool.or_eq_true, decide_eq_true_eq] at blank
  rcases blank with ((rfl | rfl) | rfl) | rfl <;> decide

theorem AllBlank.stops {gap rest : List Char} (blank : AllBlank gap) (stops : Stops rest) :
    Stops (gap ++ rest) := by
  cases gap with
  | nil => exact stops
  | cons c gap => exact stops_of_isBlank (blank c List.mem_cons_self) (gap ++ rest)

theorem isDigit_iff {c : Char} : isDigit c ↔ c.isDigit := by
  simp only [isDigit, Char.isDigit, Bool.and_eq_true, decide_eq_true_eq]
  rfl

def NoDigit (rest : List Char) : Prop :=
  ∀ c tail, rest = c :: tail → isDigit c = false

theorem NoDigit.cons {c : Char} {tail : List Char} (other : isDigit c = false) :
    NoDigit (c :: tail) := by
  intro d rest same
  cases same
  exact other

theorem Stops.noDigit {rest : List Char} (stops : Stops rest) : NoDigit rest :=
  fun c tail same => (stops c tail same).1

theorem takeWhile_digits {digits rest : List Char} (all : ∀ c ∈ digits, isDigit c)
    (ends : NoDigit rest) : (digits ++ rest).takeWhile isDigit = digits := by
  rw [List.takeWhile_append_of_pos all]
  cases rest with
  | nil => simp
  | cons c tail => simp [ends c tail rfl]

theorem dropWhile_digits {digits rest : List Char} (all : ∀ c ∈ digits, isDigit c)
    (ends : NoDigit rest) : (digits ++ rest).dropWhile isDigit = rest := by
  rw [List.dropWhile_append_of_pos all]
  cases rest with
  | nil => rfl
  | cons c tail => rw [List.dropWhile_cons_of_neg (by simp [ends c tail rfl])]

theorem isDigit_of_mem_natText {n : Nat} {c : Char} (inside : c ∈ Decimal.natText n) : isDigit c :=
  isDigit_iff.mpr (Decimal.isDigit_of_mem_natText inside)

/-- The digits that a number can begin with: a leading zero stands alone. -/
structure Whole (digits : List Char) : Prop where
  all : ∀ c ∈ digits, isDigit c
  leading : digits = ['0'] ∨ ∃ c tail, digits = c :: tail ∧ c ≠ '0'

theorem whole_zero : Whole ['0'] :=
  ⟨List.forall_mem_singleton.mpr rfl, .inl rfl⟩

theorem whole_natText (n : Nat) : Whole (Decimal.natText n) := by
  refine ⟨fun c => isDigit_of_mem_natText, ?_⟩
  rcases Nat.eq_zero_or_pos n with rfl | positive
  · exact .inl Decimal.natText_zero
  · exact .inr (Decimal.head_natText_ne_zero positive)

theorem readNumber_whole {digits : List Char} (whole : Whole digits) (path : List PathStep)
    (negative : Bool) {rest : List Char} (ends : NoDigit rest) :
    readNumber path negative (digits ++ rest) = readTail path negative digits rest := by
  have taken := takeWhile_digits whole.all ends
  have dropped := dropWhile_digits whole.all ends
  rcases whole.leading with rfl | ⟨c, tail, rfl, nonzero⟩
  · rw [List.singleton_append]
    cases rest with
    | nil => rfl
    | cons c tail =>
        rw [readNumber]
        simp only [ends c tail rfl, Bool.false_eq_true, ↓reduceIte]
  · rw [List.cons_append] at taken dropped ⊢
    rw [readNumber]
    · simp only [taken, dropped, reduceCtorEq, ↓reduceIte]
    · intro cs zero
      cases zero
      exact nonzero rfl

theorem digitsValue_natText (n : Nat) : digitsValue (Decimal.natText n) = n := by
  have core := Nat.ofDigitChars_ten_toDigits (n := n)
  rw [Nat.ofDigitChars_eq_foldl] at core
  simp only [Nat.mul_comm 10] at core
  exact core

theorem digitsValue_append_singleton (ds : List Char) (c : Char) :
    digitsValue (ds ++ [c]) = digitsValue ds * 10 + (c.toNat - 48) := by
  rw [digitsValue, List.foldl_append]
  rfl

theorem readFraction_of_stops {rest : List Char} (stops : Stops rest) :
    readFraction rest = .ok (none, rest) := by
  cases rest with
  | nil => rfl
  | cons c tail =>
      have noPoint := (stops c tail rfl).2.1
      simp [readFraction, noPoint]

theorem readExponent_of_stops {rest : List Char} (stops : Stops rest) :
    readExponent rest = .ok (none, rest) := by
  cases rest with
  | nil => rfl
  | cons c tail =>
      obtain ⟨-, -, noLower, noUpper⟩ := stops c tail rfl
      simp [readExponent, noLower, noUpper]

theorem readTail_of_stops {rest : List Char} (stops : Stops rest) (path : List PathStep)
    (negative : Bool) (whole : List Char) :
    readTail path negative whole rest = (readInteger path negative whole).map (·, rest) := by
  rw [readTail, readFraction_of_stops stops]
  simp only [readExponent_of_stops stops, Option.isNone_none, Bool.and_self, ↓reduceIte]
  cases readInteger path negative whole <;> rfl

theorem readNumber_natText (path : List PathStep) (negative : Bool) (n : Nat) {rest : List Char}
    (stops : Stops rest) :
    readNumber path negative (Decimal.natText n ++ rest) =
      (readInteger path negative (Decimal.natText n)).map (·, rest) := by
  rw [readNumber_whole (whole_natText n) path negative stops.noDigit, readTail_of_stops stops]

/-- An integer is refused only for its length, its sign counted. -/
theorem readInteger_natText (path : List PathStep) (n : Int) :
    readInteger path (decide (n < 0)) (Decimal.natText n.natAbs) =
      if (Decimal.intText n).length ≤ Decimal.maxIntegerLength then .ok (.int n)
      else .error (.integerTooLong path) := by
  have length : (if decide (n < 0) then (Decimal.natText n.natAbs).length + 1
      else (Decimal.natText n.natAbs).length) = (Decimal.intText n).length := by
    by_cases negative : n < 0 <;> simp [Decimal.intText, negative]
  have value : (if decide (n < 0) then -(n.natAbs : Int) else n.natAbs) = n := by
    simp only [decide_eq_true_eq]
    split <;> omega
  simp only [readInteger, digitsValue_natText, length, value]
  by_cases short : (Decimal.intText n).length ≤ Decimal.maxIntegerLength
  · rw [if_neg (Nat.not_lt.mpr short), if_pos short]
  · rw [if_pos (Nat.lt_of_not_le short), if_neg short]

private theorem hex_of_control {n : Nat} (control : n < 32) :
    Text.hex 4 n = ['0', '0', Text.hexDigit (n / 16), Text.hexDigit (n % 16)] ∧
      unit? '0' '0' (Text.hexDigit (n / 16)) (Text.hexDigit (n % 16)) = some n := by
  have each : ∀ m : Nat, m < 32 →
      Text.hex 4 m = ['0', '0', Text.hexDigit (m / 16), Text.hexDigit (m % 16)] ∧
        unit? '0' '0' (Text.hexDigit (m / 16)) (Text.hexDigit (m % 16)) = some m := by
    decide
  exact each n control

theorem readText_unitEscape {c : Char} (control : c.toNat < 32) (done cs : List Char) :
    readText done (Text.unitEscape c.toNat ++ cs) = readText (c :: done) cs := by
  obtain ⟨digits, unit⟩ := hex_of_control control
  have notLow : isLow c.toNat = false := by simp only [isLow]; grind
  have notHigh : isHigh c.toNat = false := by simp only [isHigh]; grind
  rw [Text.unitEscape, digits]
  simp only [List.cons_append, List.nil_append]
  rw [readText]
  simp only [unit, notLow, notHigh, Bool.false_eq_true, ↓reduceIte, Char.ofNat_toNat]

theorem readText_plain {c : Char} (noQuote : c ≠ '"') (noBackslash : c ≠ '\\')
    (visible : 32 ≤ c.toNat) (done cs : List Char) :
    readText done (c :: cs) = readText (c :: done) cs := by
  have noControl : ¬ c.toNat < 32 := by omega
  rw [readText.eq_def]
  grind

theorem readText_escape (c : Char) (done cs : List Char) :
    readText done (Text.escape c ++ cs) = readText (c :: done) cs := by
  unfold Text.escape
  split
  case h_8 noQuote noBackslash _ _ _ _ _ =>
    split
    · rename_i control
      exact readText_unitEscape control done cs
    · rename_i visible
      exact readText_plain noQuote noBackslash (Nat.le_of_not_lt visible) done cs
  all_goals rfl

theorem readText_escapes (s done cs : List Char) :
    readText done (s.flatMap Text.escape ++ cs) = readText (s.reverse ++ done) cs := by
  induction s generalizing done with
  | nil => rfl
  | cons c s ih =>
      rw [List.flatMap_cons, List.append_assoc, readText_escape, ih, List.reverse_cons,
        List.append_assoc, List.singleton_append]

theorem quote_append (s rest : List Char) :
    Text.quote s ++ rest = '"' :: (s.flatMap Text.escape ++ '"' :: rest) := by
  simp only [Text.quote, List.cons_append, List.append_assoc, List.nil_append]

theorem readText_closing (done rest : List Char) :
    readText done ('"' :: rest) = .ok (done.reverse, rest) := rfl

/-- Quoted text is read back as the text, up to its closing quote. -/
theorem readText_quote (s rest : List Char) :
    readText [] (s.flatMap Text.escape ++ '"' :: rest) = .ok (s, rest) := by
  rw [readText_escapes, List.append_nil, readText_closing, List.reverse_reverse]

end InterfacePlan.Json.Strict
