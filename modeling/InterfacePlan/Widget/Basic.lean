import InterfacePlan.Plan.Basic

set_option autoImplicit false

namespace InterfacePlan

namespace Kind

/-- Values that props have when a node does not give them. -/
def defaults : Kind → Members
  | .stack => [(.text "direction", .text "vertical"), (.text "gap", .text "md")]
  | .button => [(.text "variant", .text "primary"), (.text "size", .text "md")]
  | .table => [(.text "emptyMessage", .text "No data")]
  | .modal => [(.text "triggerLabel", .text "Open")]
  | _ => []

/-- Props that a node has to give. -/
def needed : Kind → List String
  | .button => ["label"]
  | .table => ["columns", "rows"]
  | .chart => ["series"]
  | _ => []

end Kind

inductive Widget where
  | mk (kind : Kind) (props : Members) (children : List Widget)

namespace Widget

def kind : Widget → Kind
  | .mk kind _ _ => kind

def props : Widget → Members
  | .mk _ props _ => props

def children : Widget → List Widget
  | .mk _ _ children => children

/-- The props that count: the defaults, and over them what the node gives. -/
def resolvedProps (w : Widget) : Members :=
  (w.props.filter fun m => m.2 ≠ .null).foldl (fun ms m => Members.insert ms m.1 m.2)
    w.kind.defaults

def missingProps (w : Widget) : List String :=
  w.kind.needed.filter fun name => (w.resolvedProps.get? name).isNone

mutual

/-- All widgets of a tree with their depths, each before its children. -/
def walk (depth : Nat) : Widget → List (Nat × Widget)
  | .mk kind props children => (depth, .mk kind props children) :: walkAll (depth + 1) children

def walkAll (depth : Nat) : List Widget → List (Nat × Widget)
  | [] => []
  | w :: rest => walk depth w ++ walkAll depth rest

end

mutual

def toRecord : Widget → Value
  | .mk kind props children =>
    .object ([(.text "tag", .text kind.tag), (.text "props", .object props)]
      ++ if kind.isContainer then [(.text "children", .list (toRecordAll children))] else [])

def toRecordAll : List Widget → List Value
  | [] => []
  | w :: rest => toRecord w :: toRecordAll rest

end

end Widget

end InterfacePlan
