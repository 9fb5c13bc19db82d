import InterfacePlan.Proofs.Source.Lines
import InterfacePlan.Widget.Tree

set_option autoImplicit false

namespace InterfacePlan

open Source
open Text (Code codes)

namespace Source

def placeholderKind? (line : List Code) : Option String :=
  ((line.dropWhile (· = .char ' ')).dropPrefix?
    (.char '\x7b' :: codes "/* Unsupported node type: ")).bind
      fun rest => (rest.dropSuffix? (codes " */" ++ [.char '\x7d'])).map fun kind =>
        String.ofList (Text.chars kind)

def Element.unsupported? : Element → Option String
  | .placeholder kind => some kind
  | .opening .. | .closing _ | .single .. => none

/-- A line tells by its text whether it is a placeholder, and of which kind. -/
theorem placeholderKind?_text (line : Line) :
    placeholderKind? line.text = line.element.unsupported? := by
  obtain ⟨depth, element⟩ := line
  have tagged : ∀ tail, element.text = .char '<' :: tail →
      placeholderKind? (Line.text ⟨depth, element⟩) = none := by
    intro tail begins
    rw [placeholderKind?, (indent_of_line depth begins).2, begins]
    rfl
  cases element with
  | opening tag attributes => exact tagged _ (Element.text_opening tag attributes)
  | closing tag => exact tagged _ (Element.text_closing tag)
  | single tag attributes => exact tagged _ (Element.text_single tag attributes)
  | placeholder kind =>
      have written : (Element.placeholder kind).text =
          (.char '\x7b' :: codes "/* Unsupported node type: ") ++
            (codes kind ++ (codes " */" ++ [.char '\x7d'])) := by
        simp [Element.text]
      have ended : (codes kind ++ (codes " */" ++ [Code.char '\x7d'])).dropSuffix?
          (codes " */" ++ [Code.char '\x7d']) = some (codes kind) :=
        List.dropSuffix?_eq_some_iff.mpr ⟨_, rfl, beq_self_eq_true _⟩
      rw [placeholderKind?, (indent_of_visible depth (by decide) written).2, written,
        List.dropPrefix?_append_of_beq _ (beq_self_eq_true _), Option.bind_some, ended]
      rw [Option.map_some, chars_codes, Element.unsupported?]

def unsupported (lines : List Line) : List String :=
  lines.filterMap (·.element.unsupported?)

def supported (lines : List Line) : List Line :=
  lines.filter (·.element.unsupported?.isNone)

end Source

namespace Node

def isSupported : Node → Bool
  | .mk _ (.known _) _ _ => true
  | .mk _ (.unknown _) _ _ => false

mutual

/-- The tree without the nodes that are not supported, apart from the root, and without what is below
its leaves. -/
def prune : Node → Node
  | .mk id kind props none => .mk id kind props none
  | .mk id kind props (some children) =>
    .mk id kind props (if kind.isContainer then some (pruneAll children) else none)

def pruneAll : List Node → List Node
  | [] => []
  | n :: rest => if n.isSupported then prune n :: pruneAll rest else pruneAll rest

end

section

variable {id : String} {kind : Kind} {props : Members} {children : List Node}

theorem prune_leaf (leaf : kind.isContainer = false) :
    prune (.mk id (.known kind) props (some children)) = .mk id (.known kind) props none := by
  simp [prune, NodeKind.isContainer, leaf]

theorem widget_leaf (leaf : kind.isContainer = false) :
    widget (.mk id (.known kind) props (some children)) = (some (.mk kind props []), []) := by
  simp [widget, leaf]

theorem lines_leaf (leaf : kind.isContainer = false) (depth : Nat) :
    lines depth (.mk id (.known kind) props (some children)) =
      [⟨depth, .single kind.tag (attributes props)⟩] := by
  simp [lines, leaf]

theorem prune_container (container : kind.isContainer = true) :
    prune (.mk id (.known kind) props (some children)) =
      .mk id (.known kind) props (some (pruneAll children)) := by
  simp [prune, NodeKind.isContainer, container]

theorem widget_container (container : kind.isContainer = true) :
    widget (.mk id (.known kind) props (some children)) =
      (some (.mk kind props (widgets children).1), (widgets children).2) := by
  rw [widget, if_pos container]

theorem lines_container (container : kind.isContainer = true) (depth : Nat) :
    lines depth (.mk id (.known kind) props (some children)) =
      ⟨depth, .opening kind.tag (attributes props)⟩
        :: linesAll (depth + 1) children ++ [⟨depth, .closing kind.tag⟩] := by
  rw [lines, if_pos container]

theorem supported_childless (depth : Nat) :
    supported (lines depth (.mk id (.known kind) props none)) =
      lines depth (.mk id (.known kind) props none) := by
  rw [lines]
  split <;> rfl

end

theorem widgets_cons (n : Node) (rest : List Node) :
    widgets (n :: rest) =
      (n.widget.1.toList ++ (widgets rest).1, n.widget.2 ++ (widgets rest).2) := by
  rw [widgets]

theorem isSome_widget {n : Node} (shown : n.isSupported) : n.widget.1.isSome := by
  obtain ⟨id, kind | name, props, - | children⟩ := n
  · simp [widget]
  · by_cases container : kind.isContainer
    · simp [widget_container container]
    · simp [widget_leaf (eq_false_of_ne_true container)]
  · cases shown
  · cases shown

theorem widget_of_not_supported {n : Node} (hidden : ¬ n.isSupported) : n.widget.1 = none := by
  obtain ⟨id, kind | name, props, children⟩ := n
  · exact absurd rfl hidden
  · simp [widget]

theorem supported_of_not_supported {n : Node} (hidden : ¬ n.isSupported) (depth : Nat) :
    supported (n.lines depth) = [] := by
  obtain ⟨id, kind | name, props, children⟩ := n
  · exact absurd rfl hidden
  · simp [lines, supported, Element.unsupported?]

mutual

theorem widget_prune : ∀ n : Node, n.isSupported → n.prune.widget = (n.widget.1, [])
  | .mk _ (.known _) _ none, _ => by
      rw [prune, widget]
  | .mk _ (.known kind) _ (some children), _ => by
      cases container : kind.isContainer with
      | false => rw [prune_leaf container, widget_leaf container, widget]
      | true =>
          rw [prune_container container, widget_container container, widget_container container,
            widgets_pruneAll children]

theorem widgets_pruneAll : ∀ nodes : List Node,
    widgets (pruneAll nodes) = ((widgets nodes).1, [])
  | [] => rfl
  | n :: rest => by
      rw [pruneAll, widgets_cons]
      by_cases shown : n.isSupported
      · simp [shown, widgets_cons, widget_prune n shown, widgets_pruneAll rest]
      · simp [shown, widgets_pruneAll rest, widget_of_not_supported shown]

end

theorem supported_append (lines more : List Line) :
    supported (lines ++ more) = supported lines ++ supported more :=
  List.filter_append ..

mutual

theorem lines_prune : ∀ (n : Node) (depth : Nat), n.isSupported →
    n.prune.lines depth = supported (n.lines depth)
  | .mk _ (.known _) _ none, depth, _ => by
      rw [prune, supported_childless]
  | .mk _ (.known kind) _ (some children), depth, _ => by
      cases container : kind.isContainer with
      | false =>
          rw [prune_leaf container, lines_leaf container, lines]
          simp [container, supported, Element.unsupported?]
      | true =>
          rw [prune_container container, lines_container container, lines_container container,
            linesAll_pruneAll children (depth + 1), supported_append]
          rfl

theorem linesAll_pruneAll : ∀ (nodes : List Node) (depth : Nat),
    linesAll depth (pruneAll nodes) = supported (linesAll depth nodes)
  | [], _ => rfl
  | n :: rest, depth => by
      rw [pruneAll, linesAll, supported_append]
      by_cases shown : n.isSupported
      · rw [if_pos shown, linesAll, lines_prune n depth shown, linesAll_pruneAll rest depth]
      · simp [shown, linesAll_pruneAll rest depth, supported_of_not_supported shown]

end

theorem unsupported_append (lines more : List Line) :
    unsupported (lines ++ more) = unsupported lines ++ unsupported more :=
  List.filterMap_append

mutual

/-- Placeholders and events come one for one, in the same order. -/
theorem unsupported_lines : ∀ (n : Node) (depth : Nat),
    unsupported (n.lines depth) = n.widget.2.map (·.kind)
  | .mk _ (.unknown _) _ _, _ => by
      simp [lines, widget, unsupported, Element.unsupported?]
  | .mk _ (.known _) _ none, _ => by
      rw [lines, widget]
      split <;> simp [unsupported, Element.unsupported?]
  | .mk _ (.known kind) _ (some children), depth => by
      cases container : kind.isContainer with
      | false =>
          simp [lines_leaf container, widget_leaf container, unsupported, Element.unsupported?]
      | true =>
          rw [lines_container container, widget_container container, unsupported_append,
            ← unsupported_linesAll children (depth + 1)]
          exact List.append_nil _

theorem unsupported_linesAll : ∀ (nodes : List Node) (depth : Nat),
    unsupported (linesAll depth nodes) = (widgets nodes).2.map (·.kind)
  | [], _ => rfl
  | n :: rest, depth => by
      rw [linesAll, widgets_cons, unsupported_append, List.map_append, unsupported_lines n depth,
        unsupported_linesAll rest depth]

end

theorem filter_text (lines : List Line) :
    (lines.map Line.text).filter (fun text => (placeholderKind? text).isNone) =
      (supported lines).map Line.text := by
  rw [List.filter_map, supported]
  congr 2
  funext line
  exact congrArg Option.isNone (placeholderKind?_text line)

theorem filterMap_text (lines : List Line) :
    (lines.map Line.text).filterMap placeholderKind? = unsupported lines := by
  rw [List.filterMap_map, unsupported]
  congr 1
  funext line
  exact placeholderKind?_text line

/-- The source and the widgets of a tree pass over the same nodes. With a root that is supported they
are those of the pruned tree, once the placeholder lines are deleted; with any other root there is no
widget and one placeholder. The placeholder lines name the kinds that the events report, in order. -/
theorem lowerings_agree (n : Node) (depth : Nat) :
    (match n.kind with
      | .known _ =>
        n.widget.1.isSome ∧ n.prune.widget = (n.widget.1, []) ∧
          ((n.lines depth).map Line.text).filter (fun text => (placeholderKind? text).isNone) =
            (n.prune.lines depth).map Line.text
      | .unknown name =>
        n.widget.1 = none ∧ n.lines depth = [⟨depth, .placeholder name⟩]) ∧
    ((n.lines depth).map Line.text).filterMap placeholderKind? = n.widget.2.map (·.kind) ∧
    (n.widget.2.map Unsupported.event).map (fun event => Log.Context.get? event.fields "kind") =
      n.widget.2.map fun u => some (.text u.kind) := by
  refine ⟨?_, ?_, ?_⟩
  · cases n with
    | mk id kind props children =>
        cases kind with
        | unknown name => exact ⟨by rw [widget], by rw [lines]⟩
        | known kind =>
            have shown : (Node.mk id (.known kind) props children).isSupported := rfl
            refine ⟨?_, widget_prune _ shown, ?_⟩
            · exact isSome_widget shown
            · rw [filter_text, lines_prune _ depth shown]
  · rw [filterMap_text, unsupported_lines n depth]
  · rw [List.map_map]
    rfl

end Node

end InterfacePlan
