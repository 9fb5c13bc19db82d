import InterfacePlan.Proofs.Plan.Grammar

set_option autoImplicit false

namespace InterfacePlan.Plan

/-- The change that an entry of a raw change log is: an object with a kind of the vocabulary and a
description that is not blank. It keeps its target if that is text. -/
structure IsEntry (entry : Value) (change : Change) : Prop where
  isObject : entry.isObject
  kind : entry.get "kind" = .text change.kind.name
  description : ∃ codes, (entry.get "description").text? = some codes ∧ Text.trim codes ≠ [] ∧
    change.description = Text.trim codes
  target : change.targetId = (entry.get "targetId").text?

/-- The changes that the entries of a raw change log are, in their order. Other entries are dropped. -/
inductive LogOf : List Value → List Change → Prop
  | nil : LogOf [] []
  | kept {entry : Value} {change : Change} {entries : List Value} {changes : List Change}
      (isEntry : IsEntry entry change) (rest : LogOf entries changes) :
      LogOf (entry :: entries) (change :: changes)
  | dropped {entry : Value} {entries : List Value} {changes : List Change}
      (noEntry : ∀ change, ¬ IsEntry entry change) (rest : LogOf entries changes) :
      LogOf (entry :: entries) changes

theorem isObject_of_get {v w : Value} {name : String} (held : v.get name = w) (given : w ≠ .null) :
    v.isObject := by
  cases v with
  | object members => rfl
  | _ => exact absurd held.symm given

theorem readChange?_iff {entry : Value} {change : Change} :
    readChange? entry = some change ↔ IsEntry entry change := by
  constructor
  · intro read
    rw [readChange?] at read
    split at read
    · rename_i kind description kindRead described
      cases read
      obtain ⟨codes, text, filled, trimmed⟩ := filledText?_iff.mp described
      have kindIs := (word_iff ChangeKind.ofName?_iff).mp kindRead
      exact ⟨isObject_of_get kindIs Value.noConfusion, kindIs, ⟨codes, text, filled, trimmed.symm⟩, rfl⟩
    · cases read
  · obtain ⟨kind, description, targetId⟩ := change
    rintro ⟨-, kindIs, ⟨codes, text, filled, trimmed⟩, target⟩
    have described := filledText?_iff.mpr ⟨codes, text, filled, trimmed.symm⟩
    rw [readChange?, (word_iff ChangeKind.ofName?_iff).mpr kindIs, described, ← target]

theorem readChanges_logOf (entries : List Value) : LogOf entries (entries.filterMap readChange?) := by
  induction entries with
  | nil => exact .nil
  | cons entry entries ih =>
      rw [List.filterMap_cons]
      cases read : readChange? entry with
      | none =>
          refine .dropped ?_ ih
          intro change isEntry
          rw [readChange?_iff.mpr isEntry] at read
          cases read
      | some change => exact .kept (readChange?_iff.mp read) ih

/-- The change log of a raw one: there is none unless that is a list. -/
inductive ChangesOf : Value → Option (List Change) → Prop
  | absent {raw : Value} (noList : ∀ entries, raw ≠ .list entries) : ChangesOf raw none
  | present {entries : List Value} {changes : List Change} (log : LogOf entries changes) :
      ChangesOf (.list entries) (some changes)

theorem readChanges_changesOf (raw : Value) : ChangesOf raw (readChanges raw) := by
  cases raw with
  | list entries => exact .present (readChanges_logOf entries)
  | _ => exact .absent fun entries same => nomatch same

end InterfacePlan.Plan
