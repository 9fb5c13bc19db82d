import InterfacePlan.Log.Basic
import InterfacePlan.Widget.Basic

set_option autoImplicit false

namespace InterfacePlan

structure Unsupported where
  kind : String
  nodeId : String
  deriving DecidableEq

def Unsupported.event (u : Unsupported) : Log.Event :=
  ⟨.debug, "unsupported_kind", [("kind", .text u.kind), ("node_id", .text u.nodeId)]⟩

namespace Node

mutual

/-- The widget of a node and the nodes that could not be shown, in the order they were met. -/
def widget : Node → Option Widget × List Unsupported
  | .mk id (.unknown name) _ _ => (none, [⟨name, id⟩])
  | .mk _ (.known kind) props none => (some (.mk kind props []), [])
  | .mk _ (.known kind) props (some children) =>
    if kind.isContainer then
      let (ws, unsupported) := widgets children
      (some (.mk kind props ws), unsupported)
    else (some (.mk kind props []), [])

def widgets : List Node → List Widget × List Unsupported
  | [] => ([], [])
  | n :: rest =>
    let (w, first) := widget n
    let (ws, others) := widgets rest
    (w.toList ++ ws, first ++ others)

end

end Node

end InterfacePlan
