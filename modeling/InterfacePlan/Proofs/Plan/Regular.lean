import InterfacePlan.Proofs.Plan.Acceptance
import InterfacePlan.Proofs.Plan.ChangeLog
import InterfacePlan.Proofs.Results
import InterfacePlan.Proofs.Text.Pieces

set_option autoImplicit false

namespace InterfacePlan

/-- A text that trimming leaves as it is, and that is not empty. -/
structure IsTrimmed (s : List Text.Code) : Prop where
  settled : Text.trim s = s
  nonempty : s ≠ []

theorem IsTrimmed.of_trim {s : List Text.Code} (nonblank : Text.trim s ≠ []) :
    IsTrimmed (Text.trim s) :=
  ⟨Text.trim_trim s, nonblank⟩

/-- A tree of known kinds, with trimmed ids and with props that are a record. -/
inductive Node.Regular : Node → Prop
  | node {id : String} {kind : Kind} {props : Members} {children : Option (List Node)}
      (trimmed : IsTrimmed (Text.codes id)) (record : Schema.record (.object props) = .ok props)
      (below : ∀ nodes, children = some nodes → ∀ child ∈ nodes, Regular child) :
      Regular (.mk id (.known kind) props children)

structure Plan.Regular (plan : Plan) : Prop where
  root : plan.root.Regular
  changes : ∀ log, plan.changes = some log → ∀ change ∈ log, IsTrimmed change.description

namespace Plan

-- A node is built last, after its children were read, so that the record of its props is at hand.
mutual

theorem regular_of_readNode : ∀ {raw : Value} {path : NodePath} {n : Node},
    readNode path raw = .ok n → n.Regular
  | .object members, path, n, read => by
      rw [readNode] at read
      split at read
      · cases read
      · rename_i id idRead
        split at read
        · cases read
        · split at read
          · cases read
          · rename_i children_read
            obtain ⟨s, rfl, -, record, rfl⟩ := buildNode_eq_ok_iff.mp read
            obtain ⟨codes, -, nonblank, same⟩ := readId?_iff.mp idRead
            exact .node (same ▸ .of_trim nonblank) record (regular_of_readChildren children_read)
  | .null, _, _, read | .bool _, _, _, read | .int _, _, _, read | .float _, _, _, read
  | .text _, _, _, read | .illFormed _, _, _, read | .list _, _, _, read
  | .tuple _, _, _, read | .foreign, _, _, read => nomatch read

theorem regular_of_readChildren : ∀ {members : Members} {path : NodePath}
    {children : Option (List Node)}, readChildren path members = .ok children →
    ∀ nodes, children = some nodes → ∀ child ∈ nodes, child.Regular
  | [], _, _, read, _, same, _, _ => by
      cases read
      cases same
  | (key, v) :: rest, path, children, read, nodes, same, child, inside => by
      subst same
      rw [readChildren.eq_def] at read
      simp only at read
      split at read
      · split at read
        · rename_i items
          obtain ⟨found, each, same⟩ := exists_of_map read
          cases same
          exact regular_of_readNodes each child inside
        · cases read
      · exact regular_of_readChildren read nodes rfl child inside

theorem regular_of_readNodes : ∀ {items : List Value} {path : NodePath} {i : Nat}
    {nodes : List Node}, readNodes path i items = .ok nodes → ∀ child ∈ nodes, child.Regular
  | [], _, _, _, read, _, inside => by
      cases read
      cases inside
  | v :: rest, path, i, nodes, read, child, inside => by
      rw [readNodes] at read
      split at read
      · cases read
      · rename_i n head
        obtain ⟨others, tail, rfl⟩ := exists_of_map read
        rcases List.mem_cons.mp inside with rfl | inside
        · exact regular_of_readNode head
        · exact regular_of_readNodes tail child inside

end

theorem readChanges_trimmed {raw : Value} {log : List Change} (read : readChanges raw = some log) :
    ∀ change ∈ log, IsTrimmed change.description := by
  intro change inside
  cases raw with
  | list entries =>
      cases read
      obtain ⟨entry, -, readEntry⟩ := List.mem_filterMap.mp inside
      obtain ⟨s, -, filled, same⟩ := (readChange?_iff.mp readEntry).description
      rw [same]
      exact .of_trim filled
  | _ => cases read

/-- Every plan that is read is regular, whatever value it is read from. -/
theorem regular_of_validate {raw : Value} {plan : Plan} (read : validate raw = .ok plan) :
    plan.Regular := by
  have parts := readFrom_of_validate read
  exact ⟨regular_of_readNode parts.root,
    fun log same => readChanges_trimmed (parts.changes.trans same)⟩

end Plan

inductive Node.Known : Node → Prop
  | node {id : String} {kind : Kind} {props : Members} {children : Option (List Node)}
      (below : ∀ nodes, children = some nodes → ∀ child ∈ nodes, Known child) :
      Known (.mk id (.known kind) props children)

theorem Node.Regular.known {n : Node} (regular : n.Regular) : n.Known := by
  induction regular with
  | node trimmed record below ih => exact .node ih

theorem Plan.known_of_validate {raw : Value} {plan : Plan} (read : validate raw = .ok plan) :
    plan.root.Known :=
  (regular_of_validate read).root.known

namespace Node

theorem preorderAll_eq_flatMap (nodes : List Node) : preorderAll nodes = nodes.flatMap preorder := by
  induction nodes with
  | nil => rfl
  | cons n rest ih => rw [preorderAll, List.flatMap_cons, ih]

theorem Regular.of_mem_preorder {n : Node} (regular : n.Regular) : ∀ m ∈ n.preorder, m.Regular := by
  induction regular with
  | @node id kind props children trimmed record below ih =>
      have here : Regular (.mk id (.known kind) props children) := .node trimmed record below
      intro m inside
      cases children with
      | none =>
          rw [preorder, List.mem_singleton] at inside
          rwa [inside]
      | some nodes =>
          rw [preorder, List.mem_cons, preorderAll_eq_flatMap, List.mem_flatMap] at inside
          rcases inside with rfl | ⟨child, member, deeper⟩
          · exact here
          · exact ih nodes rfl child member m deeper

theorem Regular.ids_trimmed {n : Node} (regular : n.Regular) :
    ∀ id ∈ n.ids, IsTrimmed (Text.codes id) := by
  intro id inside
  obtain ⟨m, member, rfl⟩ := List.mem_map.mp inside
  cases regular.of_mem_preorder m member with
  | node trimmed record below => exact trimmed

end Node

namespace Node

theorem toWireAll_eq_map (nodes : List Node) : toWireAll nodes = nodes.map toWire := by
  induction nodes with
  | nil => rfl
  | cons n rest ih => rw [toWireAll, List.map_cons, ih]

theorem toWire_mk (id : String) (kind : NodeKind) (props : Members)
    (children : Option (List Node)) :
    toWire (.mk id kind props children) =
      .object ([(.text "id", .text id), (.text "kind", .text kind.name),
        (.text "props", .object props)] ++
          member? "children" (fun nodes => .list (nodes.map toWire)) children) := by
  cases children with
  | none => rfl
  | some nodes => rw [toWire, toWireAll_eq_map]; rfl

end Node

namespace Plan

theorem readNodes_toWire {nodes : List Node}
    (each : ∀ n ∈ nodes, ∀ path, readNode path n.toWire = .ok n) (path : NodePath) (i : Nat) :
    readNodes path i (nodes.map Node.toWire) = .ok nodes := by
  induction nodes generalizing i with
  | nil => rfl
  | cons n rest ih =>
      rw [List.map_cons, readNodes, each n List.mem_cons_self]
      simp only [ih (fun m inside => each m (List.mem_cons_of_mem n inside))]
      rfl

theorem readNode_toWire {n : Node} (regular : n.Regular) (path : NodePath) :
    readNode path n.toWire = .ok n := by
  induction regular generalizing path with
  | @node id kind props children trimmed record below ih =>
      have idIs : ∀ rest, readId? (.object ((.text "id", .text id) :: rest)) =
          some (Text.codes id) := by
        intro rest
        rw [readId?_iff]
        exact ⟨Text.codes id, rfl, by rw [trimmed.settled]; exact trimmed.nonempty, trimmed.settled⟩
      have kindIs : ∀ rest, readKind? (.object
          ((.text "id", .text id) :: (.text "kind", .text kind.name) :: rest)) = some kind :=
        fun rest => readKind?_iff.mpr rfl
      have propsAre : ∀ rest, readProps (.object ((.text "id", .text id) ::
          (.text "kind", .text kind.name) :: (.text "props", .object props) :: rest)) = props :=
        fun rest => rfl
      have childrenAre : readChildren path ([(.text "id", .text id), (.text "kind", .text kind.name),
          (.text "props", .object props)] ++
            member? "children" (fun nodes => .list (nodes.map Node.toWire)) children) =
          .ok children := by
        cases children with
        | none => rfl
        | some nodes =>
            have each := readNodes_toWire (fun n inside path => ih nodes rfl n inside path) path 0
            change (readNodes path 0 (nodes.map Node.toWire)).map some = .ok (some nodes)
            rw [each]
            rfl
      rw [Node.toWire_mk, NodeKind.name, readNode, childrenAre]
      simp only [List.cons_append, List.nil_append, idIs, kindIs, propsAre]
      refine buildNode_eq_ok_iff.mpr ⟨id, rfl, ?_, record, rfl⟩
      rintro rfl
      exact trimmed.nonempty rfl

theorem readChange?_toWire {change : Change} (trimmed : IsTrimmed change.description) :
    readChange? change.toWire = some change := by
  rw [readChange?_iff]
  obtain ⟨kind, description, targetId⟩ := change
  refine ⟨rfl, rfl, ⟨description, Value.text?_ofCodes _, ?_, trimmed.settled.symm⟩, ?_⟩
  · rw [trimmed.settled]
    exact trimmed.nonempty
  · cases targetId with
    | none => rfl
    | some target => exact (Value.text?_ofCodes target).symm

theorem readChanges_toWire {log : List Change}
    (trimmed : ∀ change ∈ log, IsTrimmed change.description) :
    readChanges (.list (log.map Change.toWire)) = some log := by
  rw [readChanges, List.filterMap_map]
  congr 1
  induction log with
  | nil => rfl
  | cons change rest ih =>
      rw [List.filterMap_cons, Function.comp_apply,
        readChange?_toWire (trimmed change List.mem_cons_self)]
      simp only [ih fun c inside => trimmed c (List.mem_cons_of_mem change inside)]

theorem readLayout_toWire (layout : Layout) : readLayout layout.toWire = .ok layout := by
  obtain ⟨style, hasSidebar, hasNavbar⟩ := layout
  rw [@readLayout_of_style _ rfl style rfl]
  cases hasSidebar <;> cases hasNavbar <;> rfl

/-- A plan as reading leaves it is read back from its wire form. -/
theorem validate_toWire {plan : Plan} (regular : plan.Regular) :
    validate plan.toWire = .ok plan := by
  obtain ⟨summary, layout, root, changes⟩ := plan
  have isObject : (toWire ⟨summary, layout, root, changes⟩).isObject := rfl
  have summaryIs : ((toWire ⟨summary, layout, root, changes⟩).get "summary").text? = some summary :=
    Value.text?_ofCodes summary
  have layoutIs : (toWire ⟨summary, layout, root, changes⟩).get "layout" = layout.toWire := rfl
  have rootIs : (toWire ⟨summary, layout, root, changes⟩).get "root" = root.toWire := rfl
  have changesAre : readChanges ((toWire ⟨summary, layout, root, changes⟩).get "changes") =
      changes := by
    cases changes with
    | none => rfl
    | some log => exact readChanges_toWire (regular.changes log rfl)
  have read : readNode ⟨"root", []⟩ root.toWire = .ok root := readNode_toWire regular.root _
  rw [validate, if_pos isObject, layoutIs, readLayout_toWire, rootIs]
  simp only [read, summaryIs, changesAre, Option.getD_some]

end Plan

end InterfacePlan
