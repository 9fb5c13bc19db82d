import InterfacePlan.Proofs.Json.Objects
import InterfacePlan.Proofs.Plan.Acceptance
import InterfacePlan.Proofs.Plan.ChangeLog

set_option autoImplicit false

namespace InterfacePlan.Plan

mutual

/-- Raw nodes that agree in all that is read of a node. -/
inductive SameNode : Value → Value → Prop
  | node {raw raw' : Value} (isObject : raw.isObject = raw'.isObject)
      (id : raw.get "id" = raw'.get "id") (kind : raw.get "kind" = raw'.get "kind")
      (props : raw.get "props" = raw'.get "props")
      (below : SameChildren (rawChildren? raw) (rawChildren? raw')) : SameNode raw raw'

inductive SameChildren : Option (List Value) → Option (List Value) → Prop
  | absent : SameChildren none none
  | present {items items' : List Value} (each : SameInOrder items items') :
      SameChildren (some items) (some items')

inductive SameInOrder : List Value → List Value → Prop
  | nil : SameInOrder [] []
  | cons {raw raw' : Value} {items items' : List Value} (head : SameNode raw raw')
      (tail : SameInOrder items items') : SameInOrder (raw :: items) (raw' :: items')

end

/-- Raw plans that agree in all that is read strictly. They may differ in their summaries, their change
logs, the flags of their layouts, and in whatever is not read at all. -/
structure SameTrusted (raw raw' : Value) : Prop where
  isObject : raw.isObject = raw'.isObject
  layout : (raw.get "layout").isObject = (raw'.get "layout").isObject
  style : (raw.get "layout").get "layoutStyle" = (raw'.get "layout").get "layoutStyle"
  root : SameNode (raw.get "root") (raw'.get "root")

/-- The part of a plan that is read strictly. -/
def trusted (plan : Plan) : LayoutStyle × Node :=
  (plan.layout.style, plan.root)

mutual

theorem SameNode.readNode_eq : ∀ {raw raw' : Value}, SameNode raw raw' → ∀ path : NodePath,
    readNode path raw = readNode path raw'
  | raw, raw', .node isObject id kind props below, path => by
      have idRead : readId? raw = readId? raw' := by rw [readId?, readId?, id]
      have kindRead : readKind? raw = readKind? raw' := by rw [readKind?, readKind?, kind]
      have propsRead : readProps raw = readProps raw' := by rw [readProps, readProps, props]
      rw [Plan.readNode_eq path raw, Plan.readNode_eq path raw', isObject, idRead, kindRead, kind,
        propsRead, below.readNodes_eq path]

theorem SameChildren.readNodes_eq : ∀ {children children' : Option (List Value)},
    SameChildren children children' → ∀ path : NodePath,
      children.map (readNodes path 0) = children'.map (readNodes path 0)
  | _, _, .absent, _ => rfl
  | _, _, .present each, path => by rw [Option.map_some, Option.map_some, each.readNodes_eq path 0]

theorem SameInOrder.readNodes_eq : ∀ {items items' : List Value}, SameInOrder items items' →
    ∀ (path : NodePath) (i : Nat), readNodes path i items = readNodes path i items'
  | _, _, .nil, _, _ => rfl
  | _, _, .cons head tail, path, i => by
      rw [readNodes, readNodes, head.readNode_eq (path.child i), tail.readNodes_eq path (i + 1)]

end

theorem readLayout_style {layout layout' : Value} (isObject : layout.isObject = layout'.isObject)
    (style : layout.get "layoutStyle" = layout'.get "layoutStyle") :
    (readLayout layout).map Layout.style = (readLayout layout').map Layout.style := by
  rw [readLayout, readLayout, isObject, style]
  cases layout'.isObject with
  | false => rfl
  | true => cases (word? (layout'.get "layoutStyle")).bind LayoutStyle.ofName? <;> rfl

/-- Apart from advice, a plan is its style and its root, and nothing else ends in an error. -/
theorem map_trusted_validate (raw : Value) :
    (validate raw).map trusted =
      if raw.isObject then
        match (readLayout (raw.get "layout")).map Layout.style with
        | .error v => .error (.violation v)
        | .ok style => (readNode ⟨"root", []⟩ (raw.get "root")).map fun root => (style, root)
      else .error (.violation .planNotObject) := by
  rw [validate]
  cases raw.isObject with
  | false => rfl
  | true =>
      cases readLayout (raw.get "layout") with
      | error v => rfl
      | ok layout => cases readNode ⟨"root", []⟩ (raw.get "root") <;> rfl

theorem SameTrusted.validate_eq {raw raw' : Value} (same : SameTrusted raw raw') :
    (validate raw).map trusted = (validate raw').map trusted := by
  rw [map_trusted_validate, map_trusted_validate, same.isObject,
    readLayout_style same.layout same.style, same.root.readNode_eq]

theorem sameInOrder_of_each {items : List Value} (each : ∀ child ∈ items, SameNode child child) :
    SameInOrder items items := by
  induction items with
  | nil => exact .nil
  | cons first rest ih =>
      rw [List.forall_mem_cons] at each
      exact .cons each.1 (ih each.2)

theorem SameNode.refl (raw : Value) : SameNode raw raw := by
  induction raw using rawTree_induction with
  | step raw ih =>
      refine .node rfl rfl rfl rfl ?_
      cases children : rawChildren? raw with
      | none => exact .absent
      | some items => exact .present (sameInOrder_of_each (ih items children))

/-- A member that is advice can be given or changed. -/
theorem sameTrusted_insert (members : Members) (name : String) (noLayout : name ≠ "layout")
    (noRoot : name ≠ "root") (v : Value) :
    SameTrusted (.object members) (.object (members.insert (.text name) v)) := by
  have layout : (Value.object (members.insert (.text name) v)).get "layout" = _ :=
    Members.get_insert_of_ne noLayout.symm v
  have root : (Value.object (members.insert (.text name) v)).get "root" = _ :=
    Members.get_insert_of_ne noRoot.symm v
  refine ⟨rfl, ?_, ?_, ?_⟩
  · rw [layout]
  · rw [layout]
  · rw [root]
    exact .refl _

theorem SameTrusted.outcomes {raw raw' : Value} (same : SameTrusted raw raw') :
    (∃ e, validate raw = .error e ∧ validate raw' = .error e) ∨
      ∃ plan plan', validate raw = .ok plan ∧ validate raw' = .ok plan' ∧
        plan.root = plan'.root ∧ plan.layout.style = plan'.layout.style := by
  rcases cases_of_map_eq same.validate_eq with refused | ⟨plan, plan', read, read', equal⟩
  · exact .inl refused
  · have parts := Prod.mk.inj equal
    exact .inr ⟨plan, plan', read, read', parts.2, parts.1⟩

/-- Advice has no part in what is trusted. Raw plans that agree in what is read strictly end in the same
error or in plans with the same root and style, so that nothing in a change log keeps a plan from being
read. The error is a violation, or it is what was refused in a raw node of the tree. The change log of a
plan consists of the entries that are well-formed. -/
theorem validate_advice {raw raw' : Value} (same : SameTrusted raw raw') :
    ((∃ e, validate raw = .error e ∧ validate raw' = .error e) ∨
      ∃ plan plan', validate raw = .ok plan ∧ validate raw' = .ok plan' ∧
        plan.root = plan'.root ∧ plan.layout.style = plan'.layout.style) ∧
    (∀ e, validate raw = .error e → (∃ v, e = .violation v) ∨
      ∃ n ∈ rawNodes (raw.get "root"), Refused n.2 ∧ e = .unreadable (refusal n.2)) ∧
    (∀ plan, validate raw = .ok plan → ChangesOf (raw.get "changes") plan.changes) ∧
    ∀ (members : Members) (changes : Value), raw = .object members →
      ((∃ plan, validate (.object (members.insert (.text "changes") changes)) = .ok plan) ↔
        ∃ plan, validate raw = .ok plan) := by
  refine ⟨same.outcomes, ?_, ?_, ?_⟩
  · rintro (v | issues) error
    · exact .inl ⟨v, rfl⟩
    · obtain ⟨n, inside, refused, same⟩ :=
        (((validate_ends raw).unreadable_iff issues).mp error).2.exists_refused
      exact .inr ⟨n, inside, refused, same ▸ rfl⟩
  · intro plan read
    rw [← (readFrom_of_validate read).changes]
    exact readChanges_changesOf _
  · rintro members changes rfl
    have replaced := sameTrusted_insert members "changes" (by decide) (by decide) changes
    rcases replaced.outcomes with ⟨e, refused, refused'⟩ | ⟨plan, plan', read, read', -⟩
    · rw [refused, refused']
    · exact iff_of_true ⟨plan', read'⟩ ⟨plan, read⟩

def bare : Value :=
  .object
    [(.text "layout", .object [(.text "layoutStyle", .text "form")]),
      (.text "root", .object
        [(.text "id", .text "r"), (.text "kind", .text "page"),
          (.text "children", .list [.object [(.text "id", .text " b"), (.text "kind", .text "button")]])])]

/-- The same plan with advice, most of it malformed. -/
def advised : Value :=
  .object
    [(.text "changes", .list
        [.null, .object [(.text "kind", .text "move"), (.text "description", .text "a")],
          .object [(.text "targetId", .int 1), (.text "description", .text " a "),
            (.text "kind", .text "add")],
          .object [(.text "kind", .text "remove"), (.text "description", .text " ")]]),
      (.text "summary", .int 0),
      (.text "root", .object
        [(.text "kind", .text "page"), (.text "id", .text "r"), (.text "summary", .text "s"),
          (.text "children", .list [.object [(.text "id", .text " b"), (.text "kind", .text "button"),
            (.text "children", .null)]])]),
      (.text "layout", .object [(.text "hasSidebar", .text "yes"), (.text "layoutStyle", .text "form"),
        (.text "hasNavbar", .bool true)])]

theorem validate_advice_bare :
    SameTrusted advised bare ∧
      ∃ plan plan', validate advised = .ok plan ∧ validate bare = .ok plan' ∧
        plan.root = plan'.root ∧ plan.layout.style = plan'.layout.style ∧
        ChangesOf (advised.get "changes") plan.changes := by
  have below : SameChildren (rawChildren? (advised.get "root")) (rawChildren? (bare.get "root")) :=
    .present (.cons (.node rfl rfl rfl rfl .absent) .nil)
  have same : SameTrusted advised bare := ⟨rfl, rfl, rfl, .node rfl rfl rfl rfl below⟩
  obtain ⟨outcomes, -, log, -⟩ := validate_advice same
  refine ⟨same, ?_⟩
  rcases outcomes with ⟨e, refused, -⟩ | ⟨plan, plan', read, read', root, style⟩
  · cases refused
  · exact ⟨plan, plan', read, read', root, style, log plan read⟩

end InterfacePlan.Plan
