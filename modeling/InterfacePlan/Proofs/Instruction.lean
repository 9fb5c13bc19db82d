import InterfacePlan.Instruction
import InterfacePlan.Proofs.Text.Codes
import Mathlib.Data.List.Infix

set_option autoImplicit false

namespace InterfacePlan.Instruction

open Text (Code)

/-- A character without its case: the capital with a dot and the small letter without one count as
`i`, and the long form of s as `s`. -/
def fold (c : Char) : Char :=
  if c = 'İ' ∨ c = 'ı' then 'i' else if c = 'ſ' then 's' else c.toLower

def fold? : Code → Option Char
  | .char c => some (fold c)
  | .surrogate _ => none

theorem toNat_toUpper (c : Char) :
    c.toUpper.toNat = if 97 ≤ c.toNat ∧ c.toNat ≤ 122 then c.toNat - 32 else c.toNat := by
  have lower : ('a'.val ≤ c.val ∧ c.val ≤ 'z'.val) ↔ 97 ≤ c.toNat ∧ c.toNat ≤ 122 := Iff.rfl
  unfold Char.toUpper
  by_cases letter : 97 ≤ c.toNat ∧ c.toNat ≤ 122
  · rw [dif_pos (lower.mpr letter), if_pos letter]
    -- The capital is 32 below the letter, which the library adds modulo 2 ^ 32.
    change (c.val + 4294967264).toNat = c.toNat - 32
    rw [UInt32.toNat_add]
    change (c.toNat + 4294967264) % 4294967296 = c.toNat - 32
    omega
  · rw [dif_neg (mt lower.mp letter), if_neg letter]

theorem toNat_toLower (c : Char) :
    c.toLower.toNat = if 65 ≤ c.toNat ∧ c.toNat ≤ 90 then c.toNat + 32 else c.toNat := by
  have upper : (c.val ≥ 'A'.val ∧ c.val ≤ 'Z'.val) ↔ 65 ≤ c.toNat ∧ c.toNat ≤ 90 := Iff.rfl
  unfold Char.toLower
  by_cases letter : 65 ≤ c.toNat ∧ c.toNat ≤ 90
  · rw [dif_pos (upper.mpr letter), if_pos letter]
    change (c.val + 32).toNat = c.toNat + 32
    rw [UInt32.toNat_add]
    change (c.toNat + 32) % 4294967296 = c.toNat + 32
    omega
  · rw [dif_neg (mt upper.mp letter), if_neg letter]

theorem toNat_fold (c : Char) :
    (fold c).toNat = if c.toNat = 304 ∨ c.toNat = 305 then 105 else if c.toNat = 383 then 115
      else if 65 ≤ c.toNat ∧ c.toNat ≤ 90 then c.toNat + 32 else c.toNat := by
  have dotted : c = 'İ' ↔ c.toNat = 304 := Char.toNat_inj.symm
  have dotless : c = 'ı' ↔ c.toNat = 305 := Char.toNat_inj.symm
  have long : c = 'ſ' ↔ c.toNat = 383 := Char.toNat_inj.symm
  simp only [fold, dotted, dotless, long]
  split
  · rfl
  · split
    · rfl
    · exact toNat_toLower c

def isPlain (p : Char) : Bool :=
  p.toNat = 32 || (97 ≤ p.toNat && p.toNat ≤ 122)

/-- A form of a letter of the phrase is a character that is that letter without its case. -/
theorem foldsTo_iff {p : Char} (plain : isPlain p) (c : Char) : foldsTo p c ↔ fold c = p := by
  have dotted : c = 'İ' ↔ c.toNat = 304 := Char.toNat_inj.symm
  have dotless : c = 'ı' ↔ c.toNat = 305 := Char.toNat_inj.symm
  have long : c = 'ſ' ↔ c.toNat = 383 := Char.toNat_inj.symm
  have isI : p = 'i' ↔ p.toNat = 105 := Char.toNat_inj.symm
  have isS : p = 's' ↔ p.toNat = 115 := Char.toNat_inj.symm
  have same : c = p ↔ c.toNat = p.toNat := Char.toNat_inj.symm
  have capital : c = p.toUpper ↔ c.toNat = p.toUpper.toNat := Char.toNat_inj.symm
  have folded : fold c = p ↔ (fold c).toNat = p.toNat := Char.toNat_inj.symm
  simp only [foldsTo, Bool.or_eq_true, Bool.and_eq_true, decide_eq_true_eq]
  rw [dotted, dotless, long, isI, isS, same, capital, folded, toNat_fold, toNat_toUpper]
  simp only [isPlain, Bool.or_eq_true, Bool.and_eq_true, decide_eq_true_eq] at plain
  split_ifs <;> omega

theorem append_prefix_iff {α : Type} {xs ys zs : List α} :
    xs ++ ys <+: zs ↔ xs <+: zs ∧ ys <+: zs.drop xs.length := by
  constructor
  · rintro ⟨rest, rfl⟩
    rw [List.append_assoc, List.drop_left]
    exact ⟨List.prefix_append xs _, List.prefix_append ys rest⟩
  · rintro ⟨⟨rest, rfl⟩, more⟩
    rw [List.drop_left] at more
    exact (List.prefix_append_right_inj xs).mpr more

def Begins (word : List Char) (s : List Code) : Prop :=
  word.map some <+: s.map fold?

instance (word : List Char) (s : List Code) : Decidable (Begins word s) :=
  inferInstanceAs (Decidable (_ <+: _))

theorem begins_append {front back : List Char} {s : List Code} :
    Begins (front ++ back) s ↔ Begins front s ∧ Begins back (s.drop front.length) := by
  unfold Begins
  rw [List.map_append, append_prefix_iff, List.length_map, List.map_drop]

theorem afterWord?_append (front back : List Char) (s : List Code) :
    afterWord? (front ++ back) s = (afterWord? front s).bind (afterWord? back) := by
  induction front generalizing s with
  | nil => simp [afterWord?]
  | cons p front ih =>
      cases s with
      | nil => simp [afterWord?]
      | cons c s =>
          cases c with
          | surrogate unit => simp [afterWord?]
          | char c =>
              rw [List.cons_append, afterWord?, afterWord?, ih]
              split
              · rfl
              · rfl

theorem afterWord?_eq {word : List Char} (plain : word.all isPlain) (s : List Code) :
    afterWord? word s = if Begins word s then some (s.drop word.length) else none := by
  induction word generalizing s with
  | nil => simp [afterWord?, Begins]
  | cons p word ih =>
      rw [List.all_cons, Bool.and_eq_true] at plain
      have letter := foldsTo_iff plain.1
      have others := ih plain.2
      cases s with
      | nil => simp [afterWord?, Begins]
      | cons c s =>
          cases c with
          | surrogate unit => simp [afterWord?, Begins, fold?]
          | char c =>
              have begins : Begins (p :: word) (.char c :: s) ↔ foldsTo p c ∧ Begins word s := by
                unfold Begins
                rw [List.map_cons, List.map_cons, List.cons_prefix_cons, fold?, Option.some_inj,
                  letter, eq_comm]
              rw [afterWord?, others]
              by_cases same : foldsTo p c
              · simp [same, begins]
              · simp [same, begins]

def wordings : List (List Char) :=
  ["ignore previous instructions".toList, "ignore all previous instructions".toList]

/-- One of the wordings stands in a message at a place. -/
def Occurs (message : List Code) (start : Nat) (word : List Char) : Prop :=
  word ∈ wordings ∧ Begins word (message.drop start)

instance (message : List Code) (start : Nat) (word : List Char) :
    Decidable (Occurs message start word) :=
  inferInstanceAs (Decidable (_ ∧ _))

variable {message : List Code} {i j k : Nat} {v w : List Char}

theorem occurs_drop : Occurs (message.drop i) k w ↔ Occurs message (i + k) w := by
  unfold Occurs
  rw [List.drop_drop]

/-- However a wording is moved along another, they disagree where both stand. -/
theorem wordings_apart : ∀ v ∈ wordings, ∀ w ∈ wordings, ∀ k < v.length,
    v.drop k <+: w ∨ w <+: v.drop k → k = 0 ∧ v = w := by
  decide

theorem Occurs.eq_of_inside (first : Occurs message i v) (second : Occurs message (i + k) w)
    (inside : k < v.length) : k = 0 ∧ v = w := by
  have back : (v.drop k).map some <+: (message.drop (i + k)).map fold? := by
    have dropped := List.IsPrefix.drop first.2 k
    rwa [← List.map_drop, ← List.map_drop, List.drop_drop] at dropped
  have front : w.map some <+: (message.drop (i + k)).map fold? := second.2
  have nested : v.drop k <+: w ∨ w <+: v.drop k := by
    have injective : Function.Injective (some : Char → Option Char) :=
      fun _ _ same => Option.some.inj same
    simpa only [List.prefix_map_iff_of_injective injective] using
      List.prefix_or_prefix_of_prefix back front
  exact wordings_apart v first.1 w second.1 k inside nested

/-- Two occurrences are the same, or one ends before the other begins. -/
theorem Occurs.disjoint (first : Occurs message i v) (second : Occurs message j w) :
    (i = j ∧ v = w) ∨ i + v.length ≤ j ∨ j + w.length ≤ i := by
  rcases Nat.le_total i j with before | before
  · obtain ⟨k, rfl⟩ := Nat.exists_eq_add_of_le before
    by_cases inside : k < v.length
    · obtain ⟨none, same⟩ := first.eq_of_inside second inside
      exact .inl ⟨by omega, same⟩
    · exact .inr (.inl (by omega))
  · obtain ⟨k, rfl⟩ := Nat.exists_eq_add_of_le before
    by_cases inside : k < w.length
    · obtain ⟨none, same⟩ := second.eq_of_inside first inside
      exact .inl ⟨by omega, same.symm⟩
    · exact .inr (.inr (by omega))

/-- The phrase has the longer length with its option and the shorter one without it. -/
theorem phraseLength?_eq (s : List Code) :
    phraseLength? s =
      if Begins "ignore all previous instructions".toList s then some 32
      else if Begins "ignore previous instructions".toList s then some 28 else none := by
  have start : ∀ s, afterWord? phraseStart s =
      if Begins phraseStart s then some (s.drop phraseStart.length) else none :=
    afterWord?_eq rfl
  have ending : ∀ s, afterWord? phraseEnd s =
      if Begins phraseEnd s then some (s.drop phraseEnd.length) else none :=
    afterWord?_eq rfl
  have optional : ∀ s, (afterWord? phraseOption s).bind (afterWord? phraseEnd) =
      if Begins (phraseOption ++ phraseEnd) s then
        some (s.drop (phraseOption ++ phraseEnd).length) else none := by
    intro s
    rw [← afterWord?_append, afterWord?_eq rfl]
  have whole : "ignore all previous instructions".toList =
      phraseStart ++ (phraseOption ++ phraseEnd) := rfl
  have short : "ignore previous instructions".toList = phraseStart ++ phraseEnd := rfl
  simp only [whole, short, @begins_append phraseStart]
  rw [phraseLength?, start]
  by_cases begins : Begins phraseStart s
  · simp only [begins, ↓reduceIte, true_and, optional]
    by_cases longer : Begins (phraseOption ++ phraseEnd) (s.drop phraseStart.length)
    · simp only [longer, ↓reduceIte]
      rfl
    · simp only [longer, ↓reduceIte, ending]
      split <;> rfl
  · simp only [begins, ↓reduceIte, false_and]

theorem occurs_of_phraseLength? {s : List Code} {n : Nat} (found : phraseLength? s = some n) :
    ∃ word, Occurs s 0 word ∧ word.length = n := by
  rw [phraseLength?_eq] at found
  split at found
  · rename_i begins
    exact ⟨_, ⟨by decide, begins⟩, Option.some.inj found⟩
  · split at found
    · rename_i begins
      exact ⟨_, ⟨by decide, begins⟩, Option.some.inj found⟩
    · cases found

theorem not_occurs_of_phraseLength? {s : List Code} (missing : phraseLength? s = none)
    (word : List Char) : ¬ Occurs s 0 word := by
  rintro ⟨wording, begins⟩
  rw [List.drop_zero] at begins
  rw [phraseLength?_eq] at missing
  split at missing
  · cases missing
  · rename_i noOption
    split at missing
    · cases missing
    · rename_i bare
      simp only [wordings, List.mem_cons, List.not_mem_nil, or_false] at wording
      rcases wording with rfl | rfl
      · exact bare begins
      · exact noOption begins

/-- The elements of a list whose places pass a test. -/
def keepPlaces {α : Type} (test : Nat → Bool) (xs : List α) : List α :=
  (xs.zipIdx.filter fun entry => test entry.2).map Prod.fst

theorem keepPlaces_cons {α : Type} (test : Nat → Bool) (x : α) (xs : List α) :
    keepPlaces test (x :: xs) =
      (if test 0 then [x] else []) ++ keepPlaces (fun k => test (k + 1)) xs := by
  have later : (xs.zipIdx 1).filter (fun entry => test entry.2) =
      (xs.zipIdx.filter fun entry => test (entry.2 + 1)).map fun entry =>
        (entry.1, entry.2 + 1) := by
    rw [List.zipIdx_succ, List.filter_map]
    rfl
  rw [keepPlaces, List.zipIdx_cons, List.filter_cons]
  by_cases kept : test 0
  · simp [kept, later, keepPlaces]
  · simp [kept, later, keepPlaces]

theorem keepPlaces_drop {α : Type} (test : Nat → Bool) (n : Nat) (xs : List α)
    (dropped : ∀ k < n, test k = false) :
    keepPlaces test xs = keepPlaces (fun k => test (n + k)) (xs.drop n) := by
  induction n generalizing test xs with
  | zero => simp
  | succ n ih =>
      cases xs with
      | nil => simp [keepPlaces]
      | cons x xs =>
          have first : test 0 = false := dropped 0 (by omega)
          have others := ih (fun k => test (k + 1)) xs fun k before =>
            dropped (k + 1) (by omega)
          rw [keepPlaces_cons, first, others]
          simp [Nat.add_right_comm]

theorem keepPlaces_all {α : Type} (xs : List α) : keepPlaces (fun _ => true) xs = xs := by
  induction xs with
  | nil => rfl
  | cons x xs ih => simp [keepPlaces_cons, ih]

theorem keepPlaces_sublist {α : Type} (test : Nat → Bool) (xs : List α) :
    (keepPlaces test xs).Sublist xs := by
  have part := (List.filter_sublist (p := fun entry : α × Nat => test entry.2)
    (l := xs.zipIdx)).map Prod.fst
  rwa [List.zipIdx_map_fst] at part

/-- A place of a message belongs to an occurrence. -/
def Covered (message : List Code) (k : Nat) : Prop :=
  ∃ word start, Occurs message start word ∧ start ≤ k ∧ k < start + word.length

instance (message : List Code) (k : Nat) : Decidable (Covered message k) :=
  decidable_of_iff
    (∃ word ∈ wordings, ∃ start < k + 1,
      Begins word (message.drop start) ∧ k < start + word.length) <| by
    constructor
    · rintro ⟨word, wording, start, before, begins, inside⟩
      exact ⟨word, start, ⟨wording, begins⟩, by omega, inside⟩
    · rintro ⟨word, start, ⟨wording, begins⟩, before, inside⟩
      exact ⟨word, wording, start, by omega, begins, inside⟩

/-- A message without what its occurrences cover. -/
def uncovered (message : List Code) : List Code :=
  keepPlaces (fun k => ¬ Covered message k) message

theorem covered_of_drop (covered : Covered (message.drop i) k) : Covered message (i + k) := by
  obtain ⟨word, start, occurs, before, inside⟩ := covered
  exact ⟨word, i + start, occurs_drop.mp occurs, by omega, by omega⟩

theorem uncovered_cons {c : Code} {rest : List Code}
    (clear : ∀ word, ¬ Occurs (c :: rest) 0 word) :
    uncovered (c :: rest) = c :: uncovered rest := by
  -- Without an occurrence at the front every one lies in the rest.
  have positive : ∀ {word start}, Occurs (c :: rest) start word → 0 < start := by
    intro word start occurs
    by_contra zero
    obtain rfl : start = 0 := by omega
    exact clear word occurs
  have first : ¬ Covered (c :: rest) 0 := by
    rintro ⟨word, start, occurs, before, inside⟩
    have := positive occurs
    omega
  have later : ∀ k, Covered (c :: rest) (k + 1) ↔ Covered rest k := by
    intro k
    constructor
    · rintro ⟨word, start, occurs, before, inside⟩
      have := positive occurs
      have moved : Occurs ((c :: rest).drop 1) (start - 1) word :=
        occurs_drop.mpr (by rwa [show 1 + (start - 1) = start by omega])
      exact ⟨word, start - 1, moved, by omega, by omega⟩
    · intro covered
      have moved : Covered ((c :: rest).drop 1) k := covered
      rw [Nat.add_comm]
      exact covered_of_drop moved
  simp [uncovered, keepPlaces_cons, first, later]

theorem uncovered_of_occurs (occurs : Occurs message 0 w) :
    uncovered message = uncovered (message.drop w.length) := by
  have inside : ∀ k < w.length, Covered message k := fun k before =>
    ⟨w, 0, occurs, by omega, by omega⟩
  have beyond : ∀ k, Covered message (w.length + k) ↔ Covered (message.drop w.length) k := by
    intro k
    constructor
    · rintro ⟨word, start, second, before, inside⟩
      have apart : w.length ≤ start := by
        rcases occurs.disjoint second with ⟨rfl, rfl⟩ | after | short
        · omega
        · omega
        · omega
      have moved : Occurs (message.drop w.length) (start - w.length) word :=
        occurs_drop.mpr (by rwa [show w.length + (start - w.length) = start by omega])
      exact ⟨word, start - w.length, moved, by omega, by omega⟩
    · exact covered_of_drop
  rw [uncovered, keepPlaces_drop _ w.length message (by simpa using inside)]
  simp [uncovered, beyond]

theorem strip_eq (skip : Nat) (kept s : List Code) :
    strip skip kept s = kept.reverse ++ uncovered (s.drop skip) := by
  induction s generalizing skip kept with
  | nil => simp [strip, uncovered, keepPlaces]
  | cons c rest ih =>
      cases skip with
      | succ n => rw [strip, ih, List.drop_succ_cons]
      | zero =>
          rw [strip, List.drop_zero]
          cases found : phraseLength? (c :: rest) with
          | none =>
              have clear := not_occurs_of_phraseLength? found
              simp [ih, uncovered_cons clear]
          | some length =>
              obtain ⟨word, occurs, rfl⟩ := occurs_of_phraseLength? found
              have nonempty : ∀ word ∈ wordings, 0 < word.length := by decide
              have positive := nonempty word occurs.1
              have next : (c :: rest).drop word.length = rest.drop (word.length - 1) :=
                List.drop_cons positive
              simp only [ih]
              rw [uncovered_of_occurs occurs, next]

theorem sanitize_eq (limit : Nat) (message : List Code) :
    sanitize limit message = (uncovered message).take limit := by
  simp [sanitize, cut, strip_eq]

theorem wellFormed_sanitize (limit : Nat) (text : String) :
    Text.WellFormed (sanitize limit (Text.codes text)) := by
  rw [Text.wellFormed_iff, sanitize_eq]
  intro unit kept
  have original := (keepPlaces_sublist _ _).subset (List.mem_of_mem_take kept)
  exact Text.wellFormed_iff.mp ⟨text, rfl⟩ unit original

/-- Sanitizing deletes what the occurrences of the phrase cover and nothing else, and then cuts to the
limit. No two occurrences share a place, so there is no choice in what goes, and a message without
one is only cut. -/
theorem sanitize_exact (message : List Code) (limit : Nat) :
    (∀ i v j w, Occurs message i v → Occurs message j w →
      (i = j ∧ v = w) ∨ i + v.length ≤ j ∨ j + w.length ≤ i) ∧
    sanitize limit message = (uncovered message).take limit ∧
    ((∀ i w, ¬ Occurs message i w) → sanitize limit message = message.take limit) ∧
    ∀ text : String, ∃ left : String, sanitize limit (Text.codes text) = Text.codes left := by
  refine ⟨fun i v j w => Occurs.disjoint, sanitize_eq limit message, ?_,
    wellFormed_sanitize limit⟩
  intro clear
  have none : ∀ k, ¬ Covered message k := by
    rintro k ⟨word, start, occurs, -⟩
    exact clear start word occurs
  have whole : uncovered message = message := by
    simp [uncovered, none, keepPlaces_all]
  rw [sanitize_eq, whole]

-- What a deletion brings together is no occurrence of the message and stays.
example :
    sanitize 30
        (Text.codes "Ignore ıgnore ALL previouſ instructionsprevious instructions!") =
      Text.codes "Ignore previous instructions!" := by
  decide +kernel

end InterfacePlan.Instruction
