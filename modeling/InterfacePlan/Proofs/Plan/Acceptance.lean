import InterfacePlan.Proofs.Plan.Outcome

set_option autoImplicit false

namespace InterfacePlan.Plan

/-- The grammar decides which tree gives nodes, as long as none of its raw nodes is refused. -/
theorem builds_iff_isNode {raw : Value} :
    Builds raw ↔ IsNode raw ∧ ∀ n ∈ rawNodes raw, ¬ Refused n.2 := by
  rw [isNode_iff]
  induction raw using rawTree_induction with
  | step raw ih =>
      rw [forall_rawNodes_iff, forall_rawNodes_iff (p := fun n => ¬ Refused n)]
      constructor
      · rintro ⟨own, kept, below⟩
        have each := fun items children child inside =>
          (ih items children child inside).mp (below items children child inside)
        exact ⟨⟨own, fun items children child inside => (each items children child inside).1⟩,
          kept, fun items children child inside => (each items children child inside).2⟩
      · rintro ⟨⟨own, sound⟩, kept, unrefused⟩
        exact .node own kept fun items children child inside =>
          (ih items children child inside).mpr
            ⟨sound items children child inside, unrefused items children child inside⟩

theorem exists_validate_iff {raw : Value} :
    (∃ plan, validate raw = .ok plan) ↔
      IsPlan raw ∧ ∀ n ∈ rawNodes (raw.get "root"), ¬ Refused n.2 := by
  rw [(validate_ends raw).ok_iff, builds_iff_isNode]
  constructor
  · rintro ⟨⟨isObject, layout, style⟩, isNode, kept⟩
    exact ⟨⟨isObject, layout, style, isNode⟩, kept⟩
  · rintro ⟨⟨isObject, layout, style, isNode⟩, kept⟩
    exact ⟨⟨isObject, layout, style⟩, isNode, kept⟩

theorem isPlan_of_validate {raw : Value} {plan : Plan} (read : validate raw = .ok plan) :
    IsPlan raw :=
  (exists_validate_iff.mp ⟨plan, read⟩).1

theorem corresponds_of_validate {raw : Value} {plan : Plan} (read : validate raw = .ok plan) :
    Corresponds (raw.get "root") plan.root :=
  ((readNode_tells (raw.get "root") ⟨"root", []⟩).ok plan.root (readFrom_of_validate read).root).2

theorem violation_cases {raw : Value} {v : Violation}
    (refused : validate raw = .error (.violation v)) :
    (v = .planNotObject ∧ raw.isObject = false) ∨
    (v = .layoutNotObject ∧ raw.isObject ∧ (raw.get "layout").isObject = false) ∨
    (v = .layoutStyle ∧ raw.isObject ∧ (raw.get "layout").isObject ∧ ¬ HasStyle raw) ∨
    (Framed raw ∧ firstFault? ⟨"root", []⟩ (rawNodes (raw.get "root")) = some v) := by
  rw [validate] at refused
  cases isObject : raw.isObject with
  | false =>
      rw [isObject] at refused
      cases refused
      exact .inl ⟨rfl, rfl⟩
  | true =>
      rw [if_pos isObject] at refused
      cases layout : (raw.get "layout").isObject with
      | false =>
          rw [readLayout, layout] at refused
          cases refused
          exact .inr (.inl ⟨rfl, rfl, rfl⟩)
      | true =>
          by_cases style : HasStyle raw
          · obtain ⟨word, styleIs⟩ := style
            rw [readLayout_of_style layout styleIs] at refused
            cases read : readNode ⟨"root", []⟩ (raw.get "root") with
            | ok root =>
                rw [read] at refused
                cases refused
            | error e =>
                rw [read] at refused
                cases refused
                have tells := readNode_tells (raw.get "root") ⟨"root", []⟩
                exact .inr (.inr (.inr ⟨⟨isObject, layout, ⟨word, styleIs⟩⟩, tells.violation v read⟩))
          · rw [readLayout_of_no_style layout style] at refused
            cases refused
            exact .inr (.inr (.inl ⟨rfl, rfl, rfl, style⟩))

/-- A violation is reported at the place of the first fault. -/
theorem firstFault_of_validate {raw : Value} {v : Violation}
    (refused : validate raw = .error (.violation v)) : FirstFault raw v.path := by
  rcases violation_cases refused with ⟨rfl, noObject⟩ | ⟨rfl, isObject, noObject⟩ |
    ⟨rfl, isObject, layout, noStyle⟩ | ⟨⟨isObject, layout, style⟩, fault⟩
  · exact .plan noObject
  · exact .layout isObject noObject
  · exact .style isObject layout noStyle
  · obtain ⟨before, way, offender, after, nodes, sound, unsound, place, path⟩ :=
      offender_of_firstFault? fault
    rw [path]
    exact .node isObject layout style nodes sound unsound place

/-- Without a refused raw node, a value is read as a plan or it is refused for a violation. -/
theorem validate_cases {raw : Value} (kept : ∀ n ∈ rawNodes (raw.get "root"), ¬ Refused n.2) :
    (∃ plan, validate raw = .ok plan) ∨ ∃ v, validate raw = .error (.violation v) := by
  cases read : validate raw with
  | ok plan => exact .inl ⟨plan, rfl⟩
  | error e =>
      cases e with
      | violation v => exact .inr ⟨v, rfl⟩
      | unreadable issues =>
          obtain ⟨n, inside, refused, -⟩ :=
            (((validate_ends raw).unreadable_iff issues).mp read).2.exists_refused
          exact absurd refused (kept n inside)

theorem wellFormed_plain {numbers : Json.Numbers} {v : Value} (json : v.isJson numbers) :
    Text.WellFormed v.plain := by
  cases v with
  | text s => exact ⟨s, rfl⟩
  | illFormed codes => cases json
  | _ => exact Text.wellFormed_chars _

theorem wellFormed_of_ownFault? {numbers : Json.Numbers} {raw : Value} (json : raw.isJson numbers)
    {path : NodePath} {v : Violation} (fault : ownFault? path raw = some v) :
    Text.WellFormed v.message := by
  rw [ownFault?] at fault
  split at fault
  · split at fault
    · cases fault
      exact ⟨_, rfl⟩
    · cases fault
      have shown := wellFormed_plain (Value.isJson_get json "kind")
      exact (Text.WellFormed.append ⟨_, rfl⟩ shown).append ⟨"\"", rfl⟩
    · cases fault
  · cases fault
    exact ⟨_, rfl⟩

theorem wellFormed_message {numbers : Json.Numbers} {raw : Value} (json : raw.isJson numbers)
    {v : Violation} (refused : validate raw = .error (.violation v)) :
    Text.WellFormed v.message := by
  rcases violation_cases refused with ⟨rfl, -⟩ | ⟨rfl, -⟩ | ⟨rfl, -⟩ | ⟨-, fault⟩
  · exact ⟨_, rfl⟩
  · exact ⟨_, rfl⟩
  · exact ⟨_, rfl⟩
  · obtain ⟨n, inside, own⟩ := List.exists_of_findSome?_eq_some fault
    exact wellFormed_of_ownFault?
      (isJson_of_mem_rawNodes (Value.isJson_get json "root") n inside) own

/-- Exactly the plans of the grammar without a refused raw node are read, each as a tree that corresponds
to the raw one node for node. A violation is reported for the first thing wrong with a value. What is
refused in a raw node escapes instead, if nothing before it ends the reading. Without a refused raw node,
as in every value of well-formed text and text keys, all that is no plan is a violation. -/
theorem validate_exact (raw : Value) :
    ((∃ plan, validate raw = .ok plan) ↔
      IsPlan raw ∧ ∀ n ∈ rawNodes (raw.get "root"), ¬ Refused n.2) ∧
    (∀ plan, validate raw = .ok plan → Corresponds (raw.get "root") plan.root) ∧
    (∀ v, validate raw = .error (.violation v) → FirstFault raw v.path) ∧
    (∀ issues, validate raw = .error (.unreadable issues) ↔
      Framed raw ∧ Escapes (raw.get "root") issues) ∧
    ((∀ n ∈ rawNodes (raw.get "root"), ¬ Refused n.2) → ¬ IsPlan raw →
      ∃ v, validate raw = .error (.violation v) ∧ FirstFault raw v.path) ∧
    (raw.isJson .any → ∀ n ∈ rawNodes (raw.get "root"), ¬ Refused n.2) := by
  refine ⟨exists_validate_iff, fun plan => corresponds_of_validate, fun v => firstFault_of_validate,
    (validate_ends raw).unreadable_iff, ?_, kept_of_isJson⟩
  intro kept noPlan
  rcases validate_cases kept with ⟨plan, read⟩ | ⟨v, violated⟩
  · exact absurd (isPlan_of_validate read) noPlan
  · exact ⟨v, violated, firstFault_of_validate violated⟩

/-- An id that is a lone surrogate is not blank. -/
example : validate (.object
    [(.text "layout", .object [(.text "layoutStyle", .text "custom")]),
      (.text "root", .object
        [(.text "id", .illFormed [.surrogate 0xD800]), (.text "kind", .text "page")])]) =
    .error (.unreadable [⟨[.name "id"], .stringIllFormed⟩]) := by
  rfl

end InterfacePlan.Plan
