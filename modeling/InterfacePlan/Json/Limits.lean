import InterfacePlan.Value

set_option autoImplicit false

namespace InterfacePlan

namespace Value

mutual

/-- How many values a value is made of, itself included. Tuples count as one value. -/
def count : Value → Nat
  | .list items => countItems items + 1
  | .object members => countMembers members + 1
  | _ => 1

def countItems : List Value → Nat
  | [] => 0
  | v :: rest => count v + countItems rest

def countMembers : Members → Nat
  | [] => 0
  | (_, v) :: rest => count v + countMembers rest

end

def children : Value → List Value
  | .list items => items
  | .object members => members.map (·.2)
  | _ => []

theorem countItems_append (items more : List Value) :
    countItems (items ++ more) = countItems items + countItems more := by
  induction items with
  | nil => simp [countItems]
  | cons v rest ih =>
    simp only [List.cons_append, countItems, ih]
    omega

theorem countItems_reverse (items : List Value) : countItems items.reverse = countItems items := by
  induction items with
  | nil => rfl
  | cons v rest ih =>
    simp only [List.reverse_cons, countItems_append, countItems, ih]
    omega

theorem countMembers_eq_countItems (members : Members) :
    countMembers members = countItems (members.map (·.2)) := by
  induction members with
  | nil => rfl
  | cons m rest ih =>
    obtain ⟨k, v⟩ := m
    simp [countMembers, countItems, ih]

theorem count_eq (v : Value) : v.count = countItems v.children + 1 := by
  cases v <;> simp [count, children, countItems, countMembers_eq_countItems]

end Value

namespace Json

/-- The depth of the first value found deeper than `limit`; the top of the stack comes first. Pending
values are kept in a list, so that no payload can exhaust the machine by its depth. -/
def findTooDeep (limit : Int) : List (Value × Nat) → Option Nat
  | [] => none
  | (v, depth) :: pending =>
    if limit < depth then some depth
    else findTooDeep limit ((v.children.map (·, depth + 1)).reverse ++ pending)
termination_by stack => Value.countItems (stack.map (·.1))
decreasing_by
  have h : v.count = Value.countItems v.children + 1 := Value.count_eq v
  simp only [List.map_append, List.map_reverse, List.map_map, Function.comp_def, List.map_id',
    Value.countItems_append, Value.countItems_reverse, List.map_cons, Value.countItems]
  omega

inductive LimitError where
  | tooLarge (name : String) (size : Nat) (limit : Int)
  | tooDeep (depth : Nat) (limit : Int)
  deriving DecidableEq

def LimitError.message : LimitError → String
  | .tooLarge name size limit =>
    name ++ " size " ++ toString size ++ " bytes exceeds maximum " ++ toString limit ++ " bytes"
  | .tooDeep depth limit =>
    "JSON nesting depth " ++ toString depth ++ " exceeds maximum " ++ toString limit

def checkSize (name : String) (limit : Int) (text : String) : Except LimitError Unit :=
  if limit < text.utf8ByteSize then .error (.tooLarge name text.utf8ByteSize limit) else .ok ()

/-- Refuses a value that holds another more than `limit` containers deep. -/
def checkDepth (limit : Int) (v : Value) : Except LimitError Unit :=
  match findTooDeep limit [(v, 0)] with
  | some depth => .error (.tooDeep depth limit)
  | none => .ok ()

end Json

end InterfacePlan
