import InterfacePlan.Double
import InterfacePlan.Text.Code

set_option autoImplicit false

namespace InterfacePlan

/-- A key of an object. JSON knows `text` alone. -/
inductive Key where
  | text (s : String)
  | illFormed (codes : List Text.Code)
  | null
  | bool (b : Bool)
  | int (n : Int)
  | float (x : Double)
  | tuple (parts : List Key)

inductive Value where
  | null
  | bool (b : Bool)
  | int (n : Int)
  | float (x : Double)
  | text (s : String)
  | illFormed (codes : List Text.Code)
  | list (items : List Value)
  | tuple (items : List Value)
  | object (members : List (Key × Value))
  | foreign

instance : Inhabited Value := ⟨.null⟩

abbrev Members := List (Key × Value)

namespace Key

mutual

private def eqb : Key → Key → Bool
  | .text s, .text t => s = t
  | .illFormed s, .illFormed t => s = t
  | .null, .null => true
  | .bool s, .bool t => s = t
  | .int s, .int t => s = t
  | .float s, .float t => s = t
  | .tuple s, .tuple t => eqbList s t
  | _, _ => false

private def eqbList : List Key → List Key → Bool
  | [], [] => true
  | a :: as, b :: bs => eqb a b && eqbList as bs
  | _, _ => false

end

mutual

private theorem eqb_iff : ∀ a b : Key, eqb a b = true ↔ a = b
  | .tuple s, b => by
    cases b <;> simp [eqb]
    case tuple t => exact eqbList_iff s t
  | .text _, b | .illFormed _, b | .null, b | .bool _, b | .int _, b | .float _, b => by
    cases b <;> simp [eqb]

private theorem eqbList_iff : ∀ as bs : List Key, eqbList as bs = true ↔ as = bs
  | [], bs => by cases bs <;> simp [eqbList]
  | a :: as, bs => by
    cases bs <;> simp [eqbList]
    case cons b bs => rw [eqb_iff a b, eqbList_iff as bs]

end

instance : DecidableEq Key := fun a b => decidable_of_iff _ (eqb_iff a b)

def ofCodes (codes : List Text.Code) : Key :=
  match Text.wellFormed? codes with
  | some s => .text s
  | none => .illFormed codes

/-- The number a key stands for, if it is one: `true` and `false` count as one and zero. -/
private def number? : Key → Option (Int ⊕ Double)
  | .bool b => some (.inl (if b then 1 else 0))
  | .int n => some (.inl n)
  | .float x => some (.inr x)
  | _ => none

mutual

/-- Whether two keys name the same member: equal numbers do, whatever their kind. -/
def same : Key → Key → Bool
  | .tuple s, .tuple t => sameList s t
  | a, b =>
    match a.number?, b.number? with
    | some (.inl n), some (.inl m) => n = m
    | some (.inl n), some (.inr x) | some (.inr x), some (.inl n) => x.eqInt n
    | some (.inr x), some (.inr y) => x.numEq y
    | _, _ => a = b

def sameList : List Key → List Key → Bool
  | [], [] => true
  | a :: as, b :: bs => same a b && sameList as bs
  | _, _ => false

end

end Key

namespace Value

mutual

private def eqb : Value → Value → Bool
  | .null, .null => true
  | .bool s, .bool t => s = t
  | .int s, .int t => s = t
  | .float s, .float t => s = t
  | .text s, .text t => s = t
  | .illFormed s, .illFormed t => s = t
  | .list s, .list t => eqbItems s t
  | .tuple s, .tuple t => eqbItems s t
  | .object s, .object t => eqbMembers s t
  | .foreign, .foreign => true
  | _, _ => false

private def eqbItems : List Value → List Value → Bool
  | [], [] => true
  | a :: as, b :: bs => eqb a b && eqbItems as bs
  | _, _ => false

private def eqbMembers : Members → Members → Bool
  | [], [] => true
  | (k, a) :: as, (l, b) :: bs => decide (k = l) && (eqb a b && eqbMembers as bs)
  | _, _ => false

end

mutual

private theorem eqb_iff : ∀ a b : Value, eqb a b = true ↔ a = b
  | .list s, b => by
    cases b <;> simp [eqb]
    case list t => exact eqbItems_iff s t
  | .tuple s, b => by
    cases b <;> simp [eqb]
    case tuple t => exact eqbItems_iff s t
  | .object s, b => by
    cases b <;> simp [eqb]
    case object t => exact eqbMembers_iff s t
  | .null, b | .bool _, b | .int _, b | .float _, b | .text _, b | .illFormed _, b
  | .foreign, b => by cases b <;> simp [eqb]

private theorem eqbItems_iff : ∀ as bs : List Value, eqbItems as bs = true ↔ as = bs
  | [], bs => by cases bs <;> simp [eqbItems]
  | a :: as, bs => by
    cases bs <;> simp [eqbItems]
    case cons b bs => rw [eqb_iff a b, eqbItems_iff as bs]

private theorem eqbMembers_iff : ∀ as bs : Members, eqbMembers as bs = true ↔ as = bs
  | [], bs => by cases bs <;> simp [eqbMembers]
  | (k, a) :: as, bs => by
    rcases bs with - | ⟨⟨l, b⟩, bs⟩
    · simp [eqbMembers]
    · simp [eqbMembers, eqb_iff a b, eqbMembers_iff as bs, and_assoc]

end

instance : DecidableEq Value := fun a b => decidable_of_iff _ (eqb_iff a b)

def isObject : Value → Bool
  | .object _ => true
  | _ => false

def ofCodes (codes : List Text.Code) : Value :=
  match Text.wellFormed? codes with
  | some s => .text s
  | none => .illFormed codes

/-- The code points of a value that is text, well-formed or not. -/
def text? : Value → Option (List Text.Code)
  | .text s => some (Text.codes s)
  | .illFormed codes => some codes
  | _ => none

/-- The member of that name, `null` when the value is no object or has no such member. -/
def get (v : Value) (name : String) : Value :=
  match v with
  | .object members => (members.find? fun m => m.1 = .text name).elim .null (·.2)
  | _ => .null

end Value

namespace Members

def get? (members : Members) (name : String) : Option Value :=
  (members.find? fun m => m.1 = .text name).map (·.2)

/-- Gives the key a value: a key that is there keeps its place. -/
def insert : Members → Key → Value → Members
  | [], key, v => [(key, v)]
  | (k, w) :: rest, key, v =>
    if k.same key then (k, v) :: rest else (k, w) :: insert rest key v

/-- Members given one after the other; the last value of a key counts, at the key's first place. -/
def ofList (entries : List (Key × Value)) : Members :=
  entries.foldl (fun members e => insert members e.1 e.2) []

end Members

end InterfacePlan
