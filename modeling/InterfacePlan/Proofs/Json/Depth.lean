import InterfacePlan.Json.Limits

set_option autoImplicit false

namespace InterfacePlan

namespace Value

mutual

/-- How many containers the deepest value inside this one is in. -/
def depth : Value → Nat
  | .list items => depthItems items
  | .object members => depthMembers members
  | _ => 0

def depthItems : List Value → Nat
  | [] => 0
  | v :: rest => max (v.depth + 1) (depthItems rest)

def depthMembers : Members → Nat
  | [] => 0
  | (_, v) :: rest => max (v.depth + 1) (depthMembers rest)

end

theorem depthItems_le_iff {items : List Value} {n : Nat} :
    depthItems items ≤ n ↔ ∀ v ∈ items, v.depth + 1 ≤ n := by
  induction items with
  | nil => simp [depthItems]
  | cons v rest ih => rw [depthItems, Nat.max_le, ih, List.forall_mem_cons]

theorem depthMembers_eq_depthItems (members : Members) :
    depthMembers members = depthItems (members.map (·.2)) := by
  induction members with
  | nil => rfl
  | cons m rest ih =>
      obtain ⟨key, v⟩ := m
      rw [depthMembers, ih, List.map_cons, depthItems]

theorem depth_le_iff {v : Value} {n : Nat} : v.depth ≤ n ↔ ∀ w ∈ v.children, w.depth + 1 ≤ n := by
  cases v with
  | list items => exact depthItems_le_iff
  | object members => rw [depth, depthMembers_eq_depthItems, depthItems_le_iff, children]
  | _ => simp [depth, children]

/-- A value inside `depth` containers fits if the values in it do, one container deeper. -/
theorem fits_iff {v : Value} {depth : Nat} {limit : Int} (shallow : (depth : Int) ≤ limit) :
    (depth + v.depth : Int) ≤ limit ↔
      ∀ w ∈ v.children, ((depth + 1 : Nat) + w.depth : Int) ≤ limit := by
  obtain ⟨room, rfl⟩ : ∃ room : Nat, limit = depth + room :=
    ⟨(limit - depth).toNat, by omega⟩
  have inside := @depth_le_iff v room
  constructor
  · intro fits w child
    have := inside.mp (by omega) w child
    omega
  · intro below
    have fits : v.depth ≤ room := inside.mpr fun w child => by
      have := below w child
      omega
    omega

end Value

namespace Json

/-- Nothing is found too deep when every pending value has room for what is in it. -/
theorem findTooDeep_eq_none_iff {limit : Int} {stack : List (Value × Nat)} :
    findTooDeep limit stack = none ↔ ∀ p ∈ stack, (p.2 + p.1.depth : Int) ≤ limit := by
  induction stack using findTooDeep.induct limit with
  | case1 => simp [findTooDeep]
  | case2 v depth pending deep =>
      rw [findTooDeep, if_pos deep]
      constructor
      · intro none
        cases none
      · intro each
        have fits := each (v, depth) List.mem_cons_self
        simp only at fits
        omega
  | case3 v depth pending shallow ih =>
      rw [findTooDeep, if_neg shallow, ih, List.forall_mem_cons, Value.fits_iff (by omega)]
      simp only [List.mem_append, List.mem_reverse, List.mem_map, or_imp, forall_and,
        forall_exists_index, and_imp, forall_apply_eq_imp_iff₂]

theorem checkDepth_eq_ok_iff {limit : Int} {v : Value} :
    checkDepth limit v = .ok () ↔ (v.depth : Int) ≤ limit := by
  have found := @findTooDeep_eq_none_iff limit [(v, 0)]
  rw [List.forall_mem_singleton] at found
  simp only [Int.ofNat_zero, Int.zero_add] at found
  rw [← found, checkDepth]
  cases findTooDeep limit [(v, 0)] with
  | none => simp
  | some depth => simp

end Json

end InterfacePlan
