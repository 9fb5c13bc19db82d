import InterfacePlan.Value

set_option autoImplicit false

namespace InterfacePlan

inductive Kind where
  | page
  | stack
  | section
  | sidebar
  | navbar
  | card
  | button
  | input
  | textarea
  | table
  | emptyState
  | chart
  | modal
  deriving DecidableEq

namespace Kind

def all : List Kind :=
  [.page, .stack, .section, .sidebar, .navbar, .card, .button, .input, .textarea, .table,
    .emptyState, .chart, .modal]

def name : Kind → String
  | .page => "page"
  | .stack => "stack"
  | .section => "section"
  | .sidebar => "sidebar"
  | .navbar => "navbar"
  | .card => "card"
  | .button => "button"
  | .input => "input"
  | .textarea => "textarea"
  | .table => "table"
  | .emptyState => "empty-state"
  | .chart => "chart"
  | .modal => "modal"

def ofName? (s : String) : Option Kind :=
  all.find? fun k => k.name = s

/-- Whether children of the kind are lowered; the other kinds are leaves. -/
def isContainer : Kind → Bool
  | .page | .stack | .section | .sidebar | .card => true
  | _ => false

/-- The name of the component that shows the kind. -/
def tag : Kind → String
  | .page => "Page"
  | .stack => "Stack"
  | .section => "Section"
  | .sidebar => "Sidebar"
  | .navbar => "Navbar"
  | .card => "Card"
  | .button => "Button"
  | .input => "Input"
  | .textarea => "Textarea"
  | .table => "Table"
  | .emptyState => "EmptyState"
  | .chart => "Chart"
  | .modal => "Modal"

end Kind

/-- The kind a node asks for: one of the vocabulary, or a name that means nothing. -/
inductive NodeKind where
  | known (kind : Kind)
  | unknown (name : String)
  deriving DecidableEq

namespace NodeKind

def ofName (s : String) : NodeKind :=
  match Kind.ofName? s with
  | some kind => .known kind
  | none => .unknown s

def name : NodeKind → String
  | .known kind => kind.name
  | .unknown name => name

def isContainer : NodeKind → Bool
  | .known kind => kind.isContainer
  | .unknown _ => false

end NodeKind

/-- A node of a plan. No children and an empty list of children are different things. -/
inductive Node where
  | mk (id : String) (kind : NodeKind) (props : Members) (children : Option (List Node))

inductive LayoutStyle where
  | dashboard
  | form
  | table
  | custom
  deriving DecidableEq

namespace LayoutStyle

def all : List LayoutStyle :=
  [.dashboard, .form, .table, .custom]

def name : LayoutStyle → String
  | .dashboard => "dashboard"
  | .form => "form"
  | .table => "table"
  | .custom => "custom"

def ofName? (s : String) : Option LayoutStyle :=
  all.find? fun l => l.name = s

end LayoutStyle

structure Layout where
  style : LayoutStyle
  hasSidebar : Option Bool := none
  hasNavbar : Option Bool := none
  deriving DecidableEq

inductive ChangeKind where
  | add
  | remove
  | update
  deriving DecidableEq

namespace ChangeKind

def all : List ChangeKind :=
  [.add, .remove, .update]

def name : ChangeKind → String
  | .add => "add"
  | .remove => "remove"
  | .update => "update"

def ofName? (s : String) : Option ChangeKind :=
  all.find? fun c => c.name = s

end ChangeKind

/-- An entry of the advisory change log. -/
structure Change where
  kind : ChangeKind
  description : List Text.Code
  targetId : Option (List Text.Code) := none
  deriving DecidableEq

structure Plan where
  summary : List Text.Code
  layout : Layout
  root : Node
  changes : Option (List Change) := none

namespace Node

def id : Node → String
  | .mk id _ _ _ => id

def kind : Node → NodeKind
  | .mk _ kind _ _ => kind

def props : Node → Members
  | .mk _ _ props _ => props

def children : Node → Option (List Node)
  | .mk _ _ _ children => children

mutual

/-- The nodes of a tree, each before its children. -/
def preorder : Node → List Node
  | .mk id kind props none => [.mk id kind props none]
  | .mk id kind props (some children) =>
    .mk id kind props (some children) :: preorderAll children

def preorderAll : List Node → List Node
  | [] => []
  | n :: rest => preorder n ++ preorderAll rest

end

def ids (root : Node) : List String :=
  root.preorder.map id

mutual

private def eqb : Node → Node → Bool
  | .mk id kind props none, .mk id' kind' props' none =>
    id = id' && kind = kind' && props = props'
  | .mk id kind props (some cs), .mk id' kind' props' (some cs') =>
    id = id' && kind = kind' && props = props' && eqbAll cs cs'
  | _, _ => false

private def eqbAll : List Node → List Node → Bool
  | [], [] => true
  | n :: ns, m :: ms => eqb n m && eqbAll ns ms
  | _, _ => false

end

mutual

private theorem eqb_iff : ∀ n m : Node, eqb n m = true ↔ n = m
  | .mk id kind props none, m => by
    rcases m with ⟨id', kind', props', - | cs'⟩ <;> simp [eqb, and_assoc]
  | .mk id kind props (some cs), m => by
    rcases m with ⟨id', kind', props', - | cs'⟩
    · simp [eqb]
    · simp [eqb, eqbAll_iff cs cs', and_assoc]

private theorem eqbAll_iff : ∀ ns ms : List Node, eqbAll ns ms = true ↔ ns = ms
  | [], ms => by cases ms <;> simp [eqbAll]
  | n :: ns, ms => by
    cases ms <;> simp [eqbAll]
    case cons m ms => rw [eqb_iff n m, eqbAll_iff ns ms]

end

instance : DecidableEq Node := fun n m => decidable_of_iff _ (eqb_iff n m)

mutual

def toWire : Node → Value
  | .mk id kind props none =>
    .object [(.text "id", .text id), (.text "kind", .text kind.name), (.text "props", .object props)]
  | .mk id kind props (some children) =>
    .object [(.text "id", .text id), (.text "kind", .text kind.name), (.text "props", .object props),
      (.text "children", .list (toWireAll children))]

def toWireAll : List Node → List Value
  | [] => []
  | n :: rest => toWire n :: toWireAll rest

end

end Node

instance : DecidableEq Plan := fun p q =>
  match p, q with
  | ⟨s, l, r, c⟩, ⟨s', l', r', c'⟩ =>
    decidable_of_iff (s = s' ∧ l = l' ∧ r = r' ∧ c = c') (by simp)

/-- A member that is left out when it has no value. -/
def member? {α : Type} (name : String) (toValue : α → Value) : Option α → Members
  | some a => [(.text name, toValue a)]
  | none => []

def Layout.toWire (layout : Layout) : Value :=
  .object ((.text "layoutStyle", .text layout.style.name)
    :: member? "hasSidebar" .bool layout.hasSidebar ++ member? "hasNavbar" .bool layout.hasNavbar)

def Change.toWire (change : Change) : Value :=
  .object ((.text "kind", .text change.kind.name)
    :: (.text "description", .ofCodes change.description)
    :: member? "targetId" .ofCodes change.targetId)

namespace Plan

def toWire (plan : Plan) : Value :=
  .object ((.text "summary", .ofCodes plan.summary) :: (.text "layout", plan.layout.toWire)
    :: (.text "root", plan.root.toWire)
    :: member? "changes" (fun cs => .list (cs.map Change.toWire)) plan.changes)

def ids (plan : Plan) : List String :=
  plan.root.ids

end Plan

/-- How often each element occurs, in the order of first occurrence. -/
def tally {α : Type} [DecidableEq α] (xs : List α) : List (α × Nat) :=
  xs.foldl bump []
where
  /-- Counts one more occurrence. -/
  bump : List (α × Nat) → α → List (α × Nat)
    | [], x => [(x, 1)]
    | (y, n) :: rest, x => if y = x then (y, n + 1) :: rest else (y, n) :: bump rest x

def Node.duplicateIds (root : Node) : List String :=
  (tally root.ids).filterMap fun (id, count) => if 1 < count then some id else none

end InterfacePlan
