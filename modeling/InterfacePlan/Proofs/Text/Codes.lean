import InterfacePlan.Proofs.Text.Pieces
import InterfacePlan.Text.Join
import InterfacePlan.Text.Quoted
import Mathlib.Data.List.Basic

set_option autoImplicit false

namespace InterfacePlan.Text

def chars (codes : List Code) : List Char :=
  codes.filterMap Code.char?

theorem chars_map_char (s : List Char) : chars (s.map .char) = s := by
  rw [chars, List.filterMap_map]
  exact List.filterMap_some

theorem chars_append (s t : List Code) : chars (s ++ t) = chars s ++ chars t :=
  List.filterMap_append

theorem chars_join (separator : List Code) (parts : List (List Code)) :
    chars (join separator parts) = join (chars separator) (parts.map chars) := by
  induction parts with
  | nil => rfl
  | cons part rest ih =>
      by_cases last : rest = []
      · subst last
        rfl
      · have more : rest.map chars ≠ [] := fun none => last (List.map_eq_nil_iff.mp none)
        rw [join_cons last, List.map_cons, join_cons more, chars_append, chars_append, ih]

theorem wellFormed?_chars (s : List Char) :
    wellFormed? (s.map Code.char) = some (String.ofList s) := by
  have whole : (s.map Code.char).all Code.isChar = true := by
    rw [List.all_map, List.all_eq_true]
    intro c _
    rfl
  have same : (s.map Code.char).filterMap Code.char? = s := chars_map_char s
  rw [wellFormed?, whole, same]
  rfl

theorem chars_injective {s t : List Char} (same : s.map Code.char = t.map Code.char) : s = t :=
  List.map_injective_iff.mpr (fun _ _ => Code.char.inj) same

theorem codes_injective {s t : String} (same : codes s = codes t) : s = t :=
  String.toList_injective (chars_injective same)

theorem exists_chars_of_append {s : List Char} {front inner back : List Code}
    (same : s.map Code.char = front ++ (inner ++ back)) : ∃ own : List Char, inner = own.map .char := by
  obtain ⟨_, rest, rfl, -, split⟩ := List.map_eq_append_iff.mp same
  obtain ⟨own, _, rfl, rfl, -⟩ := List.map_eq_append_iff.mp split
  exact ⟨own, rfl⟩

theorem map_char_filterMap {codes : List Code} (all : codes.all Code.isChar) :
    (codes.filterMap Code.char?).map Code.char = codes := by
  induction codes with
  | nil => rfl
  | cons c rest ih =>
      rw [List.all_cons, Bool.and_eq_true] at all
      cases c with
      | char c => rw [List.filterMap_cons, Code.char?, List.map_cons, ih all.2]
      | surrogate unit => cases all.1

/-- Code points make a text exactly if they are its own. -/
theorem wellFormed?_eq_some_iff {codes : List Code} {s : String} :
    wellFormed? codes = some s ↔ codes = Text.codes s := by
  constructor
  · intro made
    rw [wellFormed?] at made
    split at made
    · rename_i chars
      cases made
      rw [Text.codes, String.toList_ofList, map_char_filterMap chars]
    · cases made
  · rintro rfl
    rw [Text.codes, wellFormed?_chars, String.ofList_toList]

theorem wellFormed?_eq_none_iff {codes : List Code} :
    wellFormed? codes = none ↔ ∃ unit, .surrogate unit ∈ codes := by
  constructor
  · intro unmade
    by_contra whole
    have chars : codes.all Code.isChar := by
      rw [List.all_eq_true]
      intro c inside
      cases c with
      | char c => rfl
      | surrogate unit => exact absurd ⟨unit, inside⟩ whole
    rw [wellFormed?, if_pos chars] at unmade
    cases unmade
  · rintro ⟨unit, alone⟩
    have other : ¬ codes.all Code.isChar := fun chars => nomatch List.all_eq_true.mp chars _ alone
    rw [wellFormed?, if_neg other]

/-- Surrogates are not blank, so that none is trimmed away. -/
theorem wellFormed?_trim_eq_none_iff {codes : List Code} :
    wellFormed? (trim codes) = none ↔ wellFormed? codes = none := by
  obtain ⟨front, back, split, blankFront, blankBack⟩ := exists_ends isBlankCode codes
  rw [wellFormed?_eq_none_iff, wellFormed?_eq_none_iff]
  refine exists_congr fun unit => ?_
  constructor
  · intro alone
    rw [split]
    exact List.mem_append_left _ (List.mem_append_right _ alone)
  · intro alone
    rw [split, List.mem_append, List.mem_append] at alone
    rcases alone with (outer | alone) | outer
    · exact absurd (blankFront _ outer) Bool.false_ne_true
    · exact alone
    · exact absurd (blankBack _ outer) Bool.false_ne_true

/-- Code points that are a text. -/
def WellFormed (codes : List Code) : Prop :=
  ∃ s : String, codes = Text.codes s

theorem wellFormed_chars (s : List Char) : WellFormed (s.map .char) :=
  ⟨String.ofList s, by rw [Text.codes, String.toList_ofList]⟩

theorem wellFormed_iff {codes : List Code} : WellFormed codes ↔ ∀ unit, .surrogate unit ∉ codes := by
  rw [← not_exists, ← wellFormed?_eq_none_iff, ← ne_eq, Option.ne_none_iff_exists']
  exact exists_congr fun s => wellFormed?_eq_some_iff.symm

theorem WellFormed.map_char_chars {codes : List Code} (whole : WellFormed codes) :
    (chars codes).map .char = codes := by
  obtain ⟨s, rfl⟩ := whole
  rw [Text.codes, chars_map_char]

theorem WellFormed.append {front back : List Code} (first : WellFormed front)
    (second : WellFormed back) : WellFormed (front ++ back) := by
  rw [wellFormed_iff] at *
  intro unit alone
  exact (List.mem_append.mp alone).elim (first unit) (second unit)

theorem WellFormed.join {separator : List Code} {parts : List (List Code)}
    (between : WellFormed separator) (each : ∀ part ∈ parts, WellFormed part) :
    WellFormed (join separator parts) := by
  induction parts with
  | nil => exact ⟨"", rfl⟩
  | cons part rest ih =>
      rw [List.forall_mem_cons] at each
      by_cases last : rest = []
      · subst last
        exact each.1
      · rw [join_cons last]
        exact (each.1.append between).append (ih each.2)

theorem WellFormed.trim {codes : List Code} (whole : WellFormed codes) : WellFormed (trim codes) := by
  obtain ⟨front, back, split, -, -⟩ := exists_ends isBlankCode codes
  rw [wellFormed_iff] at *
  intro unit alone
  apply whole unit
  rw [split]
  exact List.mem_append_left _ (List.mem_append_right _ alone)

theorem quoteCodes_chars (s : List Char) : quoteCodes (s.map .char) = (Text.quote s).map .char := by
  have each : ∀ c, escapeCode (.char c) = (escape c).map Code.char := fun _ => rfl
  unfold quoteCodes Text.quote
  simp only [List.map_append, List.map_cons, List.map_flatMap, List.flatMap_map, each, List.map_nil]

theorem wellFormed_quoteCodes (s : String) : WellFormed (quoteCodes (codes s)) := by
  rw [codes, quoteCodes_chars]
  exact wellFormed_chars _

theorem surrogate_mem_quoteCodes {s : List Code} {unit : Nat} (alone : .surrogate unit ∈ s) :
    .surrogate unit ∈ quoteCodes s := by
  have kept : Code.surrogate unit ∈ s.flatMap escapeCode :=
    List.mem_flatMap.mpr ⟨_, alone, List.mem_singleton_self _⟩
  exact List.mem_append_left _ (List.mem_cons_of_mem _ kept)

end InterfacePlan.Text
