import InterfacePlan.Proofs.Json.Depth

set_option autoImplicit false

namespace InterfacePlan.Json

/-- Values still to be visited, each with the number of containers around it. -/
abbrev Stack := List (Value × Nat)

inductive Round (limit : Int) : Stack → Stack → Prop where
  | visit {v : Value} {depth : Nat} {pending : Stack} {order : List Value}
      (shallow : (depth : Int) ≤ limit) (inside : order.Perm v.children) :
      Round limit ((v, depth) :: pending) (order.map (·, depth + 1) ++ pending)

/-- So many rounds, one after the other. -/
inductive Rounds (limit : Int) : Nat → Stack → Stack → Prop where
  | zero {s : Stack} : Rounds limit 0 s s
  | step {n : Nat} {s t u : Stack} (first : Round limit s t) (others : Rounds limit n t u) :
      Rounds limit (n + 1) s u

/-- What the check says when it stops, and it stops if nothing is left or the top is too deep. -/
def verdict? (limit : Int) : Stack → Option (Except LimitError Unit)
  | [] => some (.ok ())
  | (_, depth) :: _ => if limit < depth then some (.error (.tooDeep depth limit)) else none

variable {limit : Int} {n : Nat} {s t : Stack} {v : Value}

theorem exists_round_of_verdict? (going : verdict? limit s = none) : ∃ t, Round limit s t := by
  cases s with
  | nil => cases going
  | cons top pending =>
      obtain ⟨v, depth⟩ := top
      have shallow : ¬ limit < depth := by
        intro deep
        rw [verdict?, if_pos deep] at going
        cases going
      exact ⟨_, .visit (by omega) (.refl _)⟩

/-- How many values the pending ones are made of. -/
def weight (s : Stack) : Nat :=
  Value.countItems (s.map (·.1))

theorem countItems_perm {items order : List Value} (same : items.Perm order) :
    Value.countItems items = Value.countItems order := by
  induction same with
  | nil => rfl
  | cons v _ ih => rw [Value.countItems, Value.countItems, ih]
  | swap v w rest =>
      simp only [Value.countItems]
      omega
  | trans _ _ first second => rw [first, second]

theorem Round.weight_eq (round : Round limit s t) : weight s = weight t + 1 := by
  cases round with
  | @visit v depth pending order shallow inside =>
      have children : Value.countItems order = Value.countItems v.children :=
        countItems_perm inside
      have whole : v.count = Value.countItems v.children + 1 := Value.count_eq v
      simp only [weight, List.map_cons, List.map_append, List.map_map, Function.comp_def,
        List.map_id', Value.countItems, Value.countItems_append]
      omega

theorem Rounds.weight_eq (rounds : Rounds limit n s t) : weight s = weight t + n := by
  induction rounds with
  | zero => rfl
  | step first _ ih =>
      rw [first.weight_eq, ih]
      omega

/-- Pending values are at most one container too deep, and they all fit if the whole value does. -/
structure Carries (limit : Int) (v : Value) (s : Stack) : Prop where
  near : ∀ p ∈ s, (p.2 : Int) ≤ limit + 1
  fits : (v.depth : Int) ≤ limit ↔ ∀ p ∈ s, (p.2 + p.1.depth : Int) ≤ limit

theorem Carries.start (limit : Nat) (v : Value) : Carries limit v [(v, 0)] where
  near := by simp; omega
  fits := by simp

theorem Carries.round (carries : Carries limit v s) (round : Round limit s t) :
    Carries limit v t := by
  cases round with
  | @visit w depth pending order shallow inside =>
      have near := List.forall_mem_cons.mp carries.near
      have fits := carries.fits
      rw [List.forall_mem_cons, Value.fits_iff shallow] at fits
      refine ⟨?_, ?_⟩
      · intro p pushed
        rcases List.mem_append.mp pushed with child | before
        · obtain ⟨u, -, rfl⟩ := List.mem_map.mp child
          show ((depth + 1 : Nat) : Int) ≤ limit + 1
          omega
        · exact near.2 p before
      · rw [fits]
        simp only [List.mem_append, List.mem_map, inside.mem_iff, or_imp, forall_and,
          forall_exists_index, and_imp, forall_apply_eq_imp_iff₂]

theorem Carries.rounds (carries : Carries limit v s) (rounds : Rounds limit n s t) :
    Carries limit v t := by
  induction rounds with
  | zero => exact carries
  | step first _ ih => exact ih (carries.round first)

theorem Carries.verdict {answer : Except LimitError Unit} (carries : Carries limit v s)
    (stops : verdict? limit s = some answer) :
    answer =
      if (v.depth : Int) ≤ limit then .ok () else .error (.tooDeep (limit + 1).toNat limit) := by
  cases s with
  | nil =>
      have fits : (v.depth : Int) ≤ limit := carries.fits.mpr (by simp)
      rw [if_pos fits]
      exact (Option.some.inj stops).symm
  | cons top pending =>
      obtain ⟨w, depth⟩ := top
      rw [verdict?] at stops
      split at stops
      · rename_i deep
        have near : (depth : Int) ≤ limit + 1 := carries.near (w, depth) List.mem_cons_self
        have tooDeep : ¬ (v.depth : Int) ≤ limit := by
          intro fits
          have top : (depth + w.depth : Int) ≤ limit :=
            carries.fits.mp fits (w, depth) List.mem_cons_self
          omega
        have exact : depth = (limit + 1).toNat := by omega
        rw [if_neg tooDeep, ← exact]
        exact (Option.some.inj stops).symm
      · cases stops

theorem exists_rounds_findTooDeep (limit : Int) (s : Stack) :
    ∃ n t, Rounds limit n s t ∧
      verdict? limit t = some (match findTooDeep limit s with
        | some depth => .error (.tooDeep depth limit)
        | none => .ok ()) := by
  induction s using findTooDeep.induct limit with
  | case1 => exact ⟨0, [], .zero, by rw [findTooDeep, verdict?]⟩
  | case2 v depth pending deep =>
      exact ⟨0, _, .zero, by rw [findTooDeep, verdict?, if_pos deep, if_pos deep]⟩
  | case3 v depth pending shallow ih =>
      obtain ⟨n, t, rounds, stops⟩ := ih
      have first : Round limit ((v, depth) :: pending)
          ((v.children.map (·, depth + 1)).reverse ++ pending) := by
        rw [← List.map_reverse]
        exact .visit (by omega) (List.reverse_perm _)
      rw [findTooDeep, if_neg shallow]
      exact ⟨n + 1, t, .step first rounds, stops⟩

theorem exists_rounds_checkDepth (limit : Int) (v : Value) :
    ∃ n t, Rounds limit n [(v, 0)] t ∧ verdict? limit t = some (checkDepth limit v) :=
  exists_rounds_findTooDeep limit [(v, 0)]

/-- A value passes if it nests no deeper than the limit, and what is reported of any other is one more
than the limit, wherever its deepest part lies. The check gets there in no more rounds than the value
has parts, and so does every other order of visiting what a container holds. -/
theorem checkDepth_traversal (limit : Nat) (v : Value) :
    checkDepth limit v =
      (if v.depth ≤ limit then .ok () else .error (.tooDeep (limit + 1) limit)) ∧
    (∃ n t, Rounds limit n [(v, 0)] t ∧ verdict? limit t = some (checkDepth limit v)) ∧
    ∀ n t, Rounds limit n [(v, 0)] t →
      n ≤ v.count ∧
      ((∃ u, Round limit t u) ∨ verdict? limit t = some (checkDepth limit v)) := by
  have run := exists_rounds_checkDepth limit v
  have decided : ∀ {n t answer}, Rounds limit n [(v, 0)] t → verdict? limit t = some answer →
      answer = if v.depth ≤ limit then .ok () else .error (.tooDeep (limit + 1) limit) := by
    intro n t answer rounds stops
    have said := ((Carries.start limit v).rounds rounds).verdict stops
    have exact : ((limit : Int) + 1).toNat = limit + 1 := by omega
    rw [said, exact]
    simp only [Int.ofNat_le]
  have check : checkDepth limit v =
      if v.depth ≤ limit then .ok () else .error (.tooDeep (limit + 1) limit) := by
    obtain ⟨n, t, rounds, stops⟩ := run
    exact decided rounds stops
  refine ⟨check, run, ?_⟩
  intro n t rounds
  constructor
  · have spent : weight [(v, 0)] = weight t + n := rounds.weight_eq
    have whole : weight [(v, 0)] = v.count := rfl
    omega
  · cases stops : verdict? limit t with
    | none => exact .inl (exists_round_of_verdict? stops)
    | some answer =>
        rw [check, decided rounds stops]
        exact .inr rfl

end InterfacePlan.Json
