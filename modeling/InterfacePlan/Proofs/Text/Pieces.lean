import InterfacePlan.Text.Blank
import InterfacePlan.Text.Join
import Mathlib.Data.List.DropRight

set_option autoImplicit false

namespace InterfacePlan.Text

variable {α : Type}

private theorem dropWhile_rdropWhile {p : α → Bool} {s : List α}
    (settled : s.dropWhile p = s) : (s.rdropWhile p).dropWhile p = s.rdropWhile p := by
  rw [List.dropWhile_eq_self_iff] at settled ⊢
  intro some
  have shorter := (List.rdropWhile_prefix p s).length_le
  rw [(List.rdropWhile_prefix p s).getElem some]
  exact settled (Nat.lt_of_lt_of_le some shorter)

theorem between_between (outer : α → Bool) (s : List α) :
    between outer (between outer s) = between outer s := by
  have front := dropWhile_rdropWhile (List.dropWhile_idempotent outer s)
  change ((s.dropWhile outer).rdropWhile outer |>.dropWhile outer).rdropWhile outer =
    (s.dropWhile outer).rdropWhile outer
  rw [front, List.rdropWhile_idempotent]

theorem trim_trim (s : List Code) : trim (trim s) = trim s :=
  between_between isBlankCode s

theorem exists_ends (outer : α → Bool) (s : List α) :
    ∃ front back, s = front ++ between outer s ++ back ∧ (∀ a ∈ front, outer a) ∧
      ∀ a ∈ back, outer a := by
  refine ⟨s.takeWhile outer, (s.dropWhile outer).rtakeWhile outer, ?_, ?_, ?_⟩
  · change s = s.takeWhile outer ++ (s.dropWhile outer).rdropWhile outer ++
      (s.dropWhile outer).rtakeWhile outer
    rw [List.append_assoc, List.rdropWhile_append_rtakeWhile, List.takeWhile_append_dropWhile]
  · exact fun a inside => List.mem_takeWhile_imp inside
  · exact fun a inside => List.mem_rtakeWhile_imp inside

theorem join_cons {separator part : List α} {parts : List (List α)} (more : parts ≠ []) :
    join separator (part :: parts) = part ++ separator ++ join separator parts := by
  cases parts with
  | nil => exact absurd rfl more
  | cons next rest => rfl

theorem map_join {β : Type} (f : α → β) (separator : List α) (parts : List (List α)) :
    (join separator parts).map f = join (separator.map f) (parts.map (List.map f)) := by
  induction parts with
  | nil => rfl
  | cons part rest ih =>
      by_cases last : rest = []
      · subst last
        rfl
      · have more : rest.map (List.map f) ≠ [] := fun none => last (List.map_eq_nil_iff.mp none)
        rw [join_cons last, List.map_cons, join_cons more, List.map_append, List.map_append, ih]

theorem subset_join (separator : List α) {part : List α} {parts : List (List α)}
    (member : part ∈ parts) : part ⊆ join separator parts := by
  induction parts with
  | nil => cases member
  | cons first rest ih =>
      by_cases last : rest = []
      · subst last
        rw [List.mem_singleton.mp member]
        exact List.Subset.refl first
      · rw [join_cons last]
        rcases List.mem_cons.mp member with rfl | member
        · exact List.subset_append_of_subset_left _ (List.subset_append_left _ _)
        · exact List.subset_append_of_subset_right _ (ih member)

/-- Joined parts are split at the separator into the pieces of each part. -/
theorem splitOn_join [DecidableEq α] (c : α) {parts : List (List α)} (some : parts ≠ []) :
    (join [c] parts).splitOn c = parts.flatMap fun part => part.splitOn c := by
  induction parts with
  | nil => exact absurd rfl some
  | cons part rest ih =>
      by_cases last : rest = []
      · subst last
        rw [join, List.flatMap_cons, List.flatMap_nil, List.append_nil]
      · rw [join_cons last, List.append_assoc, List.singleton_append,
          List.splitOn_append_cons_self, ih last, List.flatMap_cons]

section

variable {p : α → Bool} {stretch : List α} {mark : α}

theorem takeWhile_stretch (all : ∀ a ∈ stretch, p a) (ends : p mark = false) (rest : List α) :
    (stretch ++ mark :: rest).takeWhile p = stretch := by
  have stops : ¬ p mark = true := by simp [ends]
  rw [List.takeWhile_append_of_pos all, List.takeWhile_cons_of_neg stops, List.append_nil]

theorem dropWhile_stretch (all : ∀ a ∈ stretch, p a) (ends : p mark = false) (rest : List α) :
    (stretch ++ mark :: rest).dropWhile p = mark :: rest := by
  have stops : ¬ p mark = true := by simp [ends]
  rw [List.dropWhile_append_of_pos all, List.dropWhile_cons_of_neg stops]

end

end InterfacePlan.Text
