import InterfacePlan.Proofs.Plan.Diff
import InterfacePlan.Proofs.Plan.Regular

set_option autoImplicit false

namespace InterfacePlan

section Tally

variable {α : Type} [DecidableEq α] {xs : List α}

theorem firstOccurrences_append_singleton (xs : List α) (x : α) :
    firstOccurrences (xs ++ [x]) =
      if x ∈ xs then firstOccurrences xs else firstOccurrences xs ++ [x] := by
  induction xs with
  | nil => rfl
  | cons y rest ih =>
      rw [List.cons_append, firstOccurrences, firstOccurrences, ih]
      by_cases further : x ∈ rest
      · simp [further]
      · by_cases here : x = y
        · subst here
          simp [further]
        · simp [here, further]

theorem bump_of_mem {x : α} {keys : List α} (inside : x ∈ keys) (distinct : keys.Nodup)
    (count : α → Nat) :
    tally.bump (keys.map fun y => (y, count y)) x =
      keys.map fun y => (y, if y = x then count y + 1 else count y) := by
  induction keys with
  | nil => cases inside
  | cons y rest ih =>
      rw [List.nodup_cons] at distinct
      by_cases here : y = x
      · subst here
        have others : ∀ z ∈ rest, (z, if z = y then count z + 1 else count z) = (z, count z) := by
          intro z further
          have other : z ≠ y := by
            rintro rfl
            exact distinct.1 further
          rw [if_neg other]
        simp only [List.map_cons, tally.bump, ↓reduceIte, List.map_congr_left others]
      · have further : x ∈ rest := (List.mem_cons.mp inside).resolve_left (Ne.symm here)
        simp only [List.map_cons, tally.bump, if_neg here, ih further distinct.2]

theorem bump_of_not_mem {x : α} {keys : List α} (new : x ∉ keys) (count : α → Nat) :
    tally.bump (keys.map fun y => (y, count y)) x = (keys.map fun y => (y, count y)) ++ [(x, 1)] := by
  induction keys with
  | nil => rfl
  | cons y rest ih =>
      rw [List.mem_cons, not_or] at new
      simp only [List.map_cons, tally.bump, if_neg (Ne.symm new.1), ih new.2, List.cons_append]

/-- The tally has each element once, in the order of first occurrence, with how often it occurs. -/
theorem tally_eq (xs : List α) :
    tally xs = (firstOccurrences xs).map fun x => (x, xs.count x) := by
  induction xs using List.reverseRecOn with
  | nil => rfl
  | append_singleton xs x ih =>
      have step : tally (xs ++ [x]) = tally.bump (tally xs) x := by
        rw [tally, List.foldl_append]
        rfl
      have counts : ∀ y, (xs ++ [x]).count y = if y = x then xs.count y + 1 else xs.count y := by
        intro y
        rw [List.count_append, List.count_singleton]
        by_cases same : y = x
        · simp [same]
        · simp [same, Ne.symm same]
      rw [step, ih, firstOccurrences_append_singleton]
      simp only [counts]
      by_cases met : x ∈ xs
      · rw [if_pos met, bump_of_mem (mem_firstOccurrences.mpr met) (nodup_firstOccurrences xs)]
      · have new : x ∉ firstOccurrences xs := fun inside => met (mem_firstOccurrences.mp inside)
        have others : ∀ y ∈ firstOccurrences xs,
            (y, xs.count y) = (y, if y = x then xs.count y + 1 else xs.count y) := by
          intro y inside
          have other : y ≠ x := by
            rintro rfl
            exact new inside
          rw [if_neg other]
        rw [if_neg met, bump_of_not_mem new, List.map_append, List.map_congr_left others]
        simp [List.count_eq_zero_of_not_mem met]

/-- The elements that occur more than once in `xs`, each once, in the order of their first occurrence. -/
structure ListsRepeated (xs listed : List α) : Prop where
  nodup : listed.Nodup
  mem_iff : ∀ x, x ∈ listed ↔ 2 ≤ xs.count x
  ordered : listed.Pairwise fun x y => xs.idxOf x < xs.idxOf y

theorem listsRepeated_filter (xs : List α) :
    ListsRepeated xs ((firstOccurrences xs).filter fun x => 1 < xs.count x) where
  nodup := (nodup_firstOccurrences xs).filter _
  mem_iff x := by
    rw [List.mem_filter, mem_firstOccurrences, decide_eq_true_iff]
    refine and_iff_right_of_imp fun often => ?_
    exact List.count_pos_iff.mp (by omega)
  ordered := (pairwise_firstOccurrences xs).filter _

theorem ListsRepeated.eq_nil_iff {listed : List α} (repeated : ListsRepeated xs listed) :
    listed = [] ↔ xs.Nodup := by
  rw [List.eq_nil_iff_forall_not_mem, List.nodup_iff_count_le_one]
  simp only [repeated.mem_iff]
  constructor
  · intro none x
    have := none x
    omega
  · intro once x
    have := once x
    omega

end Tally

namespace Node

/-- The ids of a tree: that of the root and then those below each child, whatever the kind of the
root. -/
theorem ids_mk (id : String) (kind : NodeKind) (props : Members) (children : Option (List Node)) :
    (mk id kind props children).ids = id :: (children.getD []).flatMap ids := by
  cases children with
  | none => rfl
  | some below =>
      rw [ids, preorder, List.map_cons, preorderAll_eq_flatMap, List.map_flatMap]
      rfl

theorem duplicateIds_eq (root : Node) :
    root.duplicateIds = (firstOccurrences root.ids).filter fun id => 1 < root.ids.count id := by
  rw [duplicateIds, tally_eq, List.filterMap_map, ← List.filterMap_eq_filter]
  congr 1
  funext id
  by_cases often : 1 < root.ids.count id <;> simp [often, Option.guard]

theorem duplicateIds_repeated (root : Node) : ListsRepeated root.ids root.duplicateIds := by
  rw [duplicateIds_eq]
  exact listsRepeated_filter root.ids

end Node

end InterfacePlan
