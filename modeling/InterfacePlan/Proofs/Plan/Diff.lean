import InterfacePlan.Plan.Diff
import Mathlib.Data.List.Basic

set_option autoImplicit false

namespace InterfacePlan

section FirstOccurrences

variable {α : Type} [DecidableEq α] {xs : List α}

theorem mem_firstOccurrences {x : α} : x ∈ firstOccurrences xs ↔ x ∈ xs := by
  induction xs with
  | nil => rfl
  | cons y rest ih =>
      rw [firstOccurrences, List.mem_cons, List.mem_cons, List.mem_filter, ih, decide_eq_true_iff]
      by_cases same : x = y
      · simp only [same, true_or]
      · simp only [same, ne_eq, not_false_eq_true, and_true]

/-- What remains of a list stands in the order in which its elements occur first. -/
theorem pairwise_firstOccurrences (xs : List α) :
    (firstOccurrences xs).Pairwise fun x y => xs.idxOf x < xs.idxOf y := by
  induction xs with
  | nil => exact .nil
  | cons y rest ih =>
      have later : ∀ x, x ≠ y → (y :: rest).idxOf x = rest.idxOf x + 1 :=
        fun x other => List.idxOf_cons_ne rest (Ne.symm other)
      rw [firstOccurrences, List.pairwise_cons, List.pairwise_filter]
      constructor
      · intro x inside
        have other : x ≠ y := of_decide_eq_true (List.mem_filter.mp inside).2
        rw [later x other, List.idxOf_cons_self]
        omega
      · refine ih.imp ?_
        intro a b before first second
        rw [later a (of_decide_eq_true first), later b (of_decide_eq_true second)]
        omega

theorem nodup_firstOccurrences (xs : List α) : (firstOccurrences xs).Nodup := by
  refine (pairwise_firstOccurrences xs).imp ?_
  rintro x _ before rfl
  omega

/-- The elements of `xs` that `others` lacks, each once, in the order of their first occurrence. -/
structure ListsMissing (xs others listed : List α) : Prop where
  nodup : listed.Nodup
  mem_iff : ∀ x, x ∈ listed ↔ x ∈ xs ∧ x ∉ others
  ordered : listed.Pairwise fun x y => xs.idxOf x < xs.idxOf y

theorem listsMissing_filter (xs others : List α) :
    ListsMissing xs others ((firstOccurrences xs).filter fun x => !others.contains x) := by
  refine ⟨(nodup_firstOccurrences xs).filter _, ?_, (pairwise_firstOccurrences xs).filter _⟩
  intro x
  rw [List.mem_filter, mem_firstOccurrences, Bool.not_eq_true', ← Bool.not_eq_true,
    List.contains_iff_mem]

theorem ListsMissing.mem_other_iff {ys gone new : List α} (removed : ListsMissing xs ys gone)
    (added : ListsMissing ys xs new) (x : α) : x ∈ ys ↔ x ∈ xs ∧ x ∉ gone ∨ x ∈ new := by
  rw [removed.mem_iff, added.mem_iff]
  by_cases here : x ∈ xs <;> by_cases there : x ∈ ys <;> simp [here, there]

theorem ListsMissing.eq_nil_iff {others listed : List α} (missing : ListsMissing xs others listed) :
    listed = [] ↔ ∀ x ∈ xs, x ∈ others := by
  rw [List.eq_nil_iff_forall_not_mem]
  simp only [missing.mem_iff, not_and, not_not]

end FirstOccurrences

namespace Plan

theorem addedIds_missing (previous next : Plan) :
    ListsMissing next.ids previous.ids (addedIds previous next) :=
  listsMissing_filter next.ids previous.ids

theorem addedIds_self (plan : Plan) : addedIds plan plan = [] :=
  (addedIds_missing plan plan).eq_nil_iff.mpr fun _ inside => inside

theorem diffSummary_self (plan : Plan) : diffSummary (some plan) plan = unchangedSummary := by
  rw [diffSummary, addedIds_self]
  rfl

/-- The text about ids that were added and ids that were removed: each list stands under its heading if
there is one, the added ids first, and a fixed sentence says that there are none. -/
inductive Reports : List String → List String → String → Prop
  | unchanged : Reports [] [] unchangedSummary
  | added {added : List String} (some : added ≠ []) :
      Reports added [] ("Added nodes: " ++ String.intercalate ", " added)
  | removed {removed : List String} (some : removed ≠ []) :
      Reports [] removed ("Removed nodes: " ++ String.intercalate ", " removed)
  | both {added removed : List String} (some : added ≠ []) (others : removed ≠ []) :
      Reports added removed ("Added nodes: " ++ String.intercalate ", " added ++ " | " ++
        ("Removed nodes: " ++ String.intercalate ", " removed))

theorem diffSummary_reports (previous next : Plan) :
    Reports (addedIds previous next) (addedIds next previous)
      (diffSummary (some previous) next) := by
  rw [diffSummary]
  by_cases noneAdded : addedIds previous next = [] <;>
    by_cases noneRemoved : addedIds next previous = []
  · rw [noneAdded, noneRemoved]
    exact .unchanged
  · simp only [noneAdded, summaryPart, ↓reduceIte, if_neg noneRemoved, List.nil_append]
    exact .removed noneRemoved
  · simp only [noneRemoved, summaryPart, ↓reduceIte, if_neg noneAdded, List.append_nil]
    exact .added noneAdded
  · simp only [summaryPart, if_neg noneAdded, if_neg noneRemoved]
    exact .both noneAdded noneRemoved

theorem Reports.eq_unchangedSummary_iff {added removed : List String} {text : String}
    (reports : Reports added removed text) :
    text = unchangedSummary ↔ added = [] ∧ removed = [] := by
  have differs : ∀ heading rest : String, heading.toList[2]? ≠ unchangedSummary.toList[2]? →
      2 < heading.toList.length → heading ++ rest ≠ unchangedSummary := by
    intro heading rest other long same
    apply other
    rw [← same, String.toList_append, List.getElem?_append_left long]
  cases reports with
  | unchanged => simp only [and_self]
  | added some =>
      exact iff_of_false (differs _ _ (by decide) (by decide)) fun none => some none.1
  | removed some =>
      exact iff_of_false (differs _ _ (by decide) (by decide)) fun none => some none.2
  | both some others =>
      rw [String.append_assoc, String.append_assoc]
      exact iff_of_false (differs _ _ (by decide) (by decide)) fun none => some none.1

/-- A summary lists exactly the ids that are new and exactly those that are gone, in the order of their
first occurrence in pre-order. It says that nothing changed if and only if the sets of ids are the
same, and from the other side the two lists change places. -/
theorem diffSummary_exact (previous next : Plan) :
    ListsMissing next.ids previous.ids (addedIds previous next) ∧
    ListsMissing previous.ids next.ids (addedIds next previous) ∧
    (∀ id, id ∈ next.ids ↔
      id ∈ previous.ids ∧ id ∉ addedIds next previous ∨ id ∈ addedIds previous next) ∧
    Reports (addedIds previous next) (addedIds next previous)
      (diffSummary (some previous) next) ∧
    Reports (addedIds next previous) (addedIds previous next)
      (diffSummary (some next) previous) ∧
    (diffSummary (some previous) next = unchangedSummary ↔
      ∀ id, id ∈ previous.ids ↔ id ∈ next.ids) := by
  have added := addedIds_missing previous next
  have removed := addedIds_missing next previous
  have reports := diffSummary_reports previous next
  refine ⟨added, removed, removed.mem_other_iff added, reports, diffSummary_reports next previous, ?_⟩
  rw [reports.eq_unchangedSummary_iff, added.eq_nil_iff, removed.eq_nil_iff]
  constructor
  · intro both id
    exact ⟨both.2 id, both.1 id⟩
  · intro same
    exact ⟨fun id => (same id).mpr, fun id => (same id).mp⟩

end Plan

end InterfacePlan
