import InterfacePlan.Decimal
import InterfacePlan.Value
import Mathlib.Data.List.Nodup

set_option autoImplicit false

namespace InterfacePlan

/-- Which numbers the values of a class hold. -/
structure Json.Numbers where
  int : Int → Bool
  float : Double → Bool

namespace Json.Numbers

def any : Numbers :=
  ⟨fun _ => true, fun _ => true⟩

def integers : Numbers :=
  ⟨fun _ => true, fun _ => false⟩

/-- Integers whose text is no longer than what is read back. -/
def shortIntegers : Numbers :=
  ⟨fun n => (Decimal.intText n).length ≤ Decimal.maxIntegerLength, fun _ => false⟩

/-- Integers that are not too long to be read, and floats that are finite. -/
def received : Numbers :=
  ⟨fun n => (Decimal.intText n).length ≤ Decimal.maxIntegerLength, fun x => x.units?.isSome⟩

def inter (first second : Numbers) : Numbers :=
  ⟨fun n => first.int n && second.int n, fun x => first.float x && second.float x⟩

def Within (inner outer : Numbers) : Prop :=
  (∀ n, inner.int n → outer.int n) ∧ ∀ x, inner.float x → outer.float x

theorem within_any (numbers : Numbers) : numbers.Within any :=
  ⟨fun _ _ => rfl, fun _ _ => rfl⟩

theorem shortIntegers_within_received : shortIntegers.Within received :=
  ⟨fun _ short => short, fun _ float => nomatch float⟩

end Json.Numbers

namespace Value

mutual

/-- Whether a value is a JSON value with numbers of a class. -/
def isJson (numbers : Json.Numbers) : Value → Bool
  | .null | .bool _ | .text _ => true
  | .int n => numbers.int n
  | .float x => numbers.float x
  | .list items => itemsAreJson numbers items
  | .object members => decide (members.map (·.1)).Nodup && membersAreJson numbers members
  | .tuple _ | .illFormed _ | .foreign => false

def itemsAreJson (numbers : Json.Numbers) : List Value → Bool
  | [] => true
  | v :: rest => v.isJson numbers && itemsAreJson numbers rest

def membersAreJson (numbers : Json.Numbers) : Members → Bool
  | [] => true
  | (.text _, v) :: rest => v.isJson numbers && membersAreJson numbers rest
  | _ :: _ => false

end

variable {numbers : Json.Numbers}

theorem itemsAreJson_iff {items : List Value} :
    itemsAreJson numbers items ↔ ∀ v ∈ items, v.isJson numbers := by
  induction items with
  | nil => simp [itemsAreJson]
  | cons v rest ih => simp only [itemsAreJson, Bool.and_eq_true, ih, List.forall_mem_cons]

theorem membersAreJson_iff {members : Members} :
    membersAreJson numbers members ↔
      ∀ m ∈ members, (∃ s, m.1 = .text s) ∧ m.2.isJson numbers := by
  induction members with
  | nil => simp [membersAreJson]
  | cons m rest ih =>
      obtain ⟨key, v⟩ := m
      rw [List.forall_mem_cons, ← ih]
      cases key <;> simp [membersAreJson]

theorem isJson_text (s : String) : (Value.text s).isJson numbers = true := rfl

theorem isJson_received_int {n : Int} :
    (Value.int n).isJson .received ↔
      (Decimal.intText n).length ≤ Decimal.maxIntegerLength := by
  simp only [isJson, Json.Numbers.received, decide_eq_true_iff]

theorem isJson_list {items : List Value} :
    (Value.list items).isJson numbers ↔ ∀ v ∈ items, v.isJson numbers := by
  rw [isJson, itemsAreJson_iff]

theorem isJson_object {members : Members} :
    (Value.object members).isJson numbers ↔
      (members.map (·.1)).Nodup ∧ membersAreJson numbers members := by
  rw [isJson, Bool.and_eq_true, decide_eq_true_iff]

theorem isJson_of_names {members : Members} (names : List String)
    (named : members.map (·.1) = names.map .text) (distinct : names.Nodup)
    (each : members.all fun m => m.2.isJson numbers) : (Value.object members).isJson numbers := by
  rw [isJson_object, membersAreJson_iff, named]
  refine ⟨distinct.map fun s t same => Key.text.inj same, ?_⟩
  intro m inside
  have key : m.1 ∈ names.map Key.text := by
    rw [← named]
    exact List.mem_map_of_mem inside
  obtain ⟨s, -, same⟩ := List.mem_map.mp key
  exact ⟨⟨s, same.symm⟩, List.all_eq_true.mp each m inside⟩

mutual

theorem isJson_mono {inner outer : Json.Numbers} (within : inner.Within outer) :
    ∀ {v : Value}, v.isJson inner → v.isJson outer
  | .null, _ | .bool _, _ | .text _, _ => rfl
  | .int n, json => within.1 n json
  | .float x, json => within.2 x json
  | .list _, json => itemsAreJson_mono within json
  | .object _, json => by
      rw [isJson_object] at json ⊢
      exact ⟨json.1, membersAreJson_mono within json.2⟩

theorem itemsAreJson_mono {inner outer : Json.Numbers} (within : inner.Within outer) :
    ∀ {items : List Value}, itemsAreJson inner items → itemsAreJson outer items
  | [], _ => rfl
  | _ :: _, json => by
      rw [itemsAreJson, Bool.and_eq_true] at json ⊢
      exact ⟨isJson_mono within json.1, itemsAreJson_mono within json.2⟩

theorem membersAreJson_mono {inner outer : Json.Numbers} (within : inner.Within outer) :
    ∀ {members : Members}, membersAreJson inner members → membersAreJson outer members
  | [], _ => rfl
  | (key, _) :: _, json => by
      cases key with
      | text s =>
          rw [membersAreJson, Bool.and_eq_true] at json ⊢
          exact ⟨isJson_mono within json.1, membersAreJson_mono within json.2⟩
      | _ => simp [membersAreJson] at json

end

mutual

theorem isJson_inter (first second : Json.Numbers) : ∀ v : Value,
    v.isJson (first.inter second) = (v.isJson first && v.isJson second)
  | .null | .bool _ | .text _ | .int _ | .float _ => rfl
  | .list items => itemsAreJson_inter first second items
  | .object members => by
      rw [isJson, isJson, isJson, membersAreJson_inter]
      ac_rfl
  | .tuple _ | .illFormed _ | .foreign => rfl

theorem itemsAreJson_inter (first second : Json.Numbers) : ∀ items : List Value,
    itemsAreJson (first.inter second) items =
      (itemsAreJson first items && itemsAreJson second items)
  | [] => rfl
  | v :: rest => by
      rw [itemsAreJson, itemsAreJson, itemsAreJson, isJson_inter, itemsAreJson_inter]
      ac_rfl

theorem membersAreJson_inter (first second : Json.Numbers) : ∀ members : Members,
    membersAreJson (first.inter second) members =
      (membersAreJson first members && membersAreJson second members)
  | [] => rfl
  | (key, v) :: rest => by
      cases key with
      | text s =>
          rw [membersAreJson, membersAreJson, membersAreJson, isJson_inter, membersAreJson_inter]
          ac_rfl
      | _ => simp [membersAreJson]

end

theorem isJson_get {v : Value} (json : v.isJson numbers) (name : String) :
    (v.get name).isJson numbers := by
  cases v with
  | object members =>
      rw [isJson_object, membersAreJson_iff] at json
      rw [get]
      cases found : members.find? (fun m => m.1 = .text name) with
      | none => rfl
      | some m => exact (json.2 m (List.mem_of_find?_eq_some found)).2
  | _ => rfl

end Value

namespace Value

mutual

/-- The value with null in place of each number that is not finite. -/
def nulled : Value → Value
  | .float x => if x.units?.isSome then .float x else .null
  | .list items => .list (nulledItems items)
  | .object members => .object (nulledMembers members)
  | v => v

def nulledItems : List Value → List Value
  | [] => []
  | v :: rest => v.nulled :: nulledItems rest

def nulledMembers : Members → Members
  | [] => []
  | (key, v) :: rest => (key, v.nulled) :: nulledMembers rest

end

theorem nulledMembers_keys (members : Members) :
    (nulledMembers members).map (·.1) = members.map (·.1) := by
  induction members with
  | nil => rfl
  | cons m rest ih => rw [nulledMembers, List.map_cons, List.map_cons, ih]

mutual

theorem nulled_of_received : ∀ {v : Value}, v.isJson .received → v.nulled = v
  | .null, _ | .bool _, _ | .int _, _ | .text _, _ => rfl
  | .float _, finite => if_pos finite
  | .list _, json => congrArg Value.list (nulledItems_of_received json)
  | .object _, json => congrArg Value.object (nulledMembers_of_received (isJson_object.mp json).2)

theorem nulledItems_of_received : ∀ {items : List Value},
    itemsAreJson .received items → nulledItems items = items
  | [], _ => rfl
  | _ :: _, json => by
      rw [itemsAreJson, Bool.and_eq_true] at json
      rw [nulledItems, nulled_of_received json.1, nulledItems_of_received json.2]

theorem nulledMembers_of_received : ∀ {members : Members},
    membersAreJson .received members → nulledMembers members = members
  | [], _ => rfl
  | (key, _) :: _, json => by
      cases key with
      | text s =>
          rw [membersAreJson, Bool.and_eq_true] at json
          rw [nulledMembers, nulled_of_received json.1, nulledMembers_of_received json.2]
      | _ => simp [membersAreJson] at json

end

end Value

/-- A value occurs in another one, at any depth. -/
inductive Value.Inside (v : Value) : Value → Prop
  | here : Inside v v
  | item {items : List Value} {item : Value} (member : item ∈ items) (deeper : Inside v item) :
      Inside v (.list items)
  | part {items : List Value} {item : Value} (member : item ∈ items) (deeper : Inside v item) :
      Inside v (.tuple items)
  | field {members : Members} {m : Key × Value} (member : m ∈ members) (deeper : Inside v m.2) :
      Inside v (.object members)

namespace Value

variable {numbers : Json.Numbers} {v w : Value}

theorem Inside.isJson (inside : v.Inside w) (json : w.isJson numbers) : v.isJson numbers := by
  induction inside with
  | here => exact json
  | item member deeper ih => exact ih (isJson_list.mp json _ member)
  | part member deeper ih => cases json
  | field member deeper ih =>
      exact ih ((membersAreJson_iff.mp (isJson_object.mp json).2) _ member).2

theorem Inside.trans {u : Value} (inside : u.Inside v) (deeper : v.Inside w) : u.Inside w := by
  induction deeper with
  | here => exact inside
  | item member _ ih => exact .item member ih
  | part member _ ih => exact .part member ih
  | field member _ ih => exact .field member ih

theorem Inside.eq_of_text {s : String} (inside : v.Inside (.text s)) : v = .text s := by
  cases inside
  rfl

theorem Inside.eq_of_codes {codes : List Text.Code} (inside : v.Inside (.ofCodes codes)) :
    v = .ofCodes codes := by
  revert inside
  rw [ofCodes]
  split
  · exact Inside.eq_of_text
  · rintro ⟨⟩
    rfl

/-- What some writer has a text for, floats apart: all keys are texts, and nothing in it is ill-formed
or foreign. -/
structure Writable (v : Value) : Prop where
  named : ∀ members, (object members).Inside v → ∀ m ∈ members, ∃ s, m.1 = .text s
  wellFormed : ∀ codes, ¬ (illFormed codes).Inside v
  native : ¬ foreign.Inside v

theorem Writable.of_inside (writable : w.Writable) (inside : v.Inside w) : v.Writable where
  named members deeper := writable.named members (deeper.trans inside)
  wellFormed codes deeper := writable.wellFormed codes (deeper.trans inside)
  native deeper := writable.native (deeper.trans inside)

theorem writable_of_isJson (json : v.isJson numbers) : v.Writable where
  named members inside m member := by
    have object := isJson_object.mp (inside.isJson json)
    exact (membersAreJson_iff.mp object.2 m member).1
  wellFormed codes inside := nomatch inside.isJson json
  native inside := nomatch inside.isJson json

end Value

end InterfacePlan
