import InterfacePlan.Proofs.Plan.Grammar

set_option autoImplicit false

namespace InterfacePlan.Plan

theorem rawChildren?_eq_some_iff {raw : Value} {items : List Value} :
    rawChildren? raw = some items ↔ raw.get "children" = .list items := by
  rw [rawChildren?]
  cases raw.get "children" <;> simp

theorem rawChildren?_cons (key : Key) (v : Value) (rest : Members) :
    rawChildren? (.object ((key, v) :: rest)) =
      if key = .text "children" then
        match v with
        | .list items => some items
        | _ => none
      else rawChildren? (.object rest) := by
  by_cases here : key = .text "children"
  · subst here
    cases v <;> rfl
  · simp only [rawChildren?, Value.get, here, List.find?_cons, decide_false, ↓reduceIte]

theorem rawBelow_of_ne {key : Key} (other : key ≠ .text "children") (v : Value) (rest : Members) :
    rawBelow ((key, v) :: rest) = rawBelow rest := by
  cases v <;> simp only [rawBelow, other, ↓reduceIte]

theorem sizeOf_child_lt {raw child : Value} {items : List Value}
    (children : rawChildren? raw = some items) (inside : child ∈ items) :
    sizeOf child < sizeOf raw := by
  cases raw with
  | object members =>
      rw [rawChildren?, Value.get] at children
      cases found : members.find? (fun m => m.1 = .text "children") with
      | none => simp [found] at children
      | some m =>
          obtain ⟨key, v⟩ := m
          simp only [found, Option.elim_some] at children
          have isList : v = .list items := by
            cases v with
            | list vs => rw [Option.some.inj children]
            | _ => cases children
          have member := List.sizeOf_lt_of_mem (List.mem_of_find?_eq_some found)
          have item := List.sizeOf_lt_of_mem inside
          simp only [isList, Prod.mk.sizeOf_spec, Value.list.sizeOf_spec,
            Value.object.sizeOf_spec] at member ⊢
          omega
  | _ => cases children

/-- Induction over a raw tree: a node after all of its children. -/
theorem rawTree_induction {motive : Value → Prop}
    (step : ∀ raw, (∀ items, rawChildren? raw = some items → ∀ child ∈ items, motive child) →
      motive raw) (raw : Value) : motive raw := by
  induction size : sizeOf raw using Nat.strongRecOn generalizing raw with
  | ind size ih =>
      apply step
      intro items children child inside
      exact ih (sizeOf child) (size ▸ sizeOf_child_lt children inside) child rfl

theorem rawBelow_eq (members : Members) :
    rawBelow members = (rawChildren? (.object members)).elim [] (rawSiblings 0) := by
  induction members with
  | nil => rfl
  | cons m rest ih =>
      obtain ⟨key, v⟩ := m
      rw [rawChildren?_cons]
      by_cases here : key = .text "children"
      · subst here
        cases v <;> rfl
      · rw [rawBelow_of_ne here, if_neg here, ih]

theorem rawNodes_eq (raw : Value) :
    rawNodes raw = ([], raw) :: (rawChildren? raw).elim [] (rawSiblings 0) := by
  cases raw with
  | object members => rw [rawNodes, rawBelow_eq]
  | _ => rfl

theorem mem_rawSiblings {items : List Value} {start : Nat} {n : List Nat × Value} :
    n ∈ rawSiblings start items ↔
      ∃ i child m, items[i]? = some child ∧ m ∈ rawNodes child ∧
        n = ((start + i) :: m.1, m.2) := by
  induction items generalizing start with
  | nil => simp [rawSiblings]
  | cons first rest ih =>
      rw [rawSiblings, List.mem_append, List.mem_map, ih]
      constructor
      · rintro (⟨m, inside, rfl⟩ | ⟨i, child, m, at_i, inside, rfl⟩)
        · exact ⟨0, first, m, rfl, inside, rfl⟩
        · refine ⟨i + 1, child, m, at_i, inside, ?_⟩
          rw [Nat.add_right_comm, Nat.add_assoc]
      · rintro ⟨i, child, m, at_i, inside, rfl⟩
        cases i with
        | zero =>
            cases at_i
            exact .inl ⟨m, inside, rfl⟩
        | succ i =>
            refine .inr ⟨i, child, m, at_i, inside, ?_⟩
            rw [Nat.add_right_comm, Nat.add_assoc]

theorem follow_of_mem {raw : Value} :
    ∀ n ∈ rawNodes raw, follow n.1 raw = some n.2 := by
  induction raw using rawTree_induction with
  | step raw ih =>
      intro n inside
      rw [rawNodes_eq, List.mem_cons] at inside
      rcases inside with rfl | inside
      · rfl
      · cases children : rawChildren? raw with
        | none => simp [children] at inside
        | some items =>
            rw [children, Option.elim_some, mem_rawSiblings] at inside
            obtain ⟨i, child, m, at_i, below, rfl⟩ := inside
            have further := ih items children child (List.mem_of_getElem? at_i) m below
            simpa [follow, children, at_i] using further

/-- What holds of all raw nodes of a tree holds of the first and of all raw nodes of its children. -/
theorem forall_rawNodes_iff {p : Value → Prop} {raw : Value} :
    (∀ n ∈ rawNodes raw, p n.2) ↔
      p raw ∧ ∀ items, rawChildren? raw = some items → ∀ child ∈ items, ∀ n ∈ rawNodes child, p n.2 := by
  rw [rawNodes_eq, List.forall_mem_cons]
  apply and_congr_right
  intro own
  constructor
  · intro all items children child inside m deeper
    obtain ⟨i, at_i⟩ := List.getElem?_of_mem inside
    apply all ((0 + i) :: m.1, m.2)
    rw [children, Option.elim_some, mem_rawSiblings]
    exact ⟨i, child, m, at_i, deeper, rfl⟩
  · intro each n inside
    cases children : rawChildren? raw with
    | none => simp [children] at inside
    | some items =>
        rw [children, Option.elim_some, mem_rawSiblings] at inside
        obtain ⟨i, child, m, at_i, deeper, rfl⟩ := inside
        exact each items children child (List.mem_of_getElem? at_i) m deeper

/-- The grammar of nodes asks for the own checks of all raw nodes and nothing else. -/
theorem isNode_iff {raw : Value} : IsNode raw ↔ ∀ n ∈ rawNodes raw, Sound n.2 := by
  induction raw using rawTree_induction with
  | step raw ih =>
      rw [forall_rawNodes_iff]
      constructor
      · rintro ⟨own, below⟩
        exact ⟨own, fun items children child inside =>
          (ih items children child inside).mp (below items children child inside)⟩
      · rintro ⟨own, below⟩
        exact .node own fun items children child inside =>
          (ih items children child inside).mpr (below items children child inside)

theorem isJson_of_mem_rawNodes {numbers : Json.Numbers} {raw : Value}
    (json : raw.isJson numbers) :
    ∀ n ∈ rawNodes raw, n.2.isJson numbers := by
  induction raw using rawTree_induction with
  | step raw ih =>
      refine (forall_rawNodes_iff (p := fun raw => raw.isJson numbers)).mpr ⟨json, ?_⟩
      intro items children child inside
      have list := Value.isJson_get json "children"
      rw [rawChildren?_eq_some_iff.mp children, Value.isJson_list] at list
      exact ih items children child inside (list child inside)

end InterfacePlan.Plan
