import InterfacePlan.Proofs.Plan.Regular
import InterfacePlan.Proofs.Source.Lines
import InterfacePlan.Proofs.Json.Admitted
import InterfacePlan.Widget.Tree

set_option autoImplicit false

namespace InterfacePlan

open Source
open Text (Code)

mutual

/-- The lines that show a widget: one tag that closes itself, or two tags of one name and indent
with the lines of the widgets inside between them. -/
inductive Shows : Nat → Widget → List Line → Prop
  | leaf {depth : Nat} {kind : Kind} {props : Members} (leaf : kind.isContainer = false) :
      Shows depth (.mk kind props []) [⟨depth, .single kind.tag (attributes props)⟩]
  | container {depth : Nat} {kind : Kind} {props : Members} {children : List Widget}
      {lines : List Line} (container : kind.isContainer)
      (below : ShowsAll (depth + 1) children lines) :
      Shows depth (.mk kind props children)
        (⟨depth, .opening kind.tag (attributes props)⟩ :: lines ++ [⟨depth, .closing kind.tag⟩])

inductive ShowsAll : Nat → List Widget → List Line → Prop
  | nil {depth : Nat} : ShowsAll depth [] []
  | cons {depth : Nat} {w : Widget} {ws : List Widget} {first others : List Line}
      (head : Shows depth w first) (tail : ShowsAll depth ws others) :
      ShowsAll depth (w :: ws) (first ++ others)

end

/-- Where a widget begins in the source: a depth, a tag, and attributes. -/
def Source.Line.start? : Line → Option (Nat × String × List Attribute)
  | ⟨depth, .opening tag attributes⟩ | ⟨depth, .single tag attributes⟩ =>
    some (depth, tag, attributes)
  | _ => none

mutual

theorem Shows.starts : ∀ {depth : Nat} {w : Widget} {lines : List Line}, Shows depth w lines →
    lines.filterMap Line.start? =
      (w.walk depth).map fun e => (e.1, e.2.kind.tag, attributes e.2.props)
  | _, _, _, .leaf _ => by
      rw [Widget.walk, Widget.walkAll]
      rfl
  | _, _, _, .container _ below => by
      rw [Widget.walk, List.map_cons, ← below.starts, List.cons_append, List.filterMap_cons,
        List.filterMap_append]
      simp only [Line.start?, List.filterMap_cons, List.filterMap_nil, List.append_nil]
      rfl

theorem ShowsAll.starts : ∀ {depth : Nat} {ws : List Widget} {lines : List Line},
    ShowsAll depth ws lines → lines.filterMap Line.start? =
      (Widget.walkAll depth ws).map fun e => (e.1, e.2.kind.tag, attributes e.2.props)
  | _, _, _, .nil => rfl
  | _, _, _, .cons head tail => by
      rw [Widget.walkAll, List.map_append, ← head.starts, ← tail.starts, List.filterMap_append]

end

mutual

theorem Shows.isTag : ∀ {depth : Nat} {w : Widget} {lines : List Line}, Shows depth w lines →
    ∀ line ∈ lines, line.element.IsTag
  | _, _, _, .leaf _, line, inside => by
      rw [List.mem_singleton.mp inside]
      exact .single _ _
  | _, _, _, .container _ below, line, inside => by
      rw [List.cons_append, List.mem_cons, List.mem_append, List.mem_singleton] at inside
      rcases inside with rfl | inside | rfl
      · exact .opening _ _
      · exact below.isTag line inside
      · exact .closing _

theorem ShowsAll.isTag : ∀ {depth : Nat} {ws : List Widget} {lines : List Line},
    ShowsAll depth ws lines → ∀ line ∈ lines, line.element.IsTag
  | _, _, _, .nil, _, inside => nomatch inside
  | _, _, _, .cons head tail, line, inside => by
      rcases List.mem_append.mp inside with inside | inside
      · exact head.isTag line inside
      · exact tail.isTag line inside

end

theorem Shows.mem_attributes {depth : Nat} {w : Widget} {lines : List Line}
    (shows : Shows depth w lines) {line : Line} (inside : line ∈ lines) {a : Attribute}
    (held : a ∈ line.element.attributes) :
    ∃ e ∈ w.walk depth, a ∈ attributes e.2.props := by
  have starts : ∃ tag, line.start? = some (line.depth, tag, line.element.attributes) := by
    obtain ⟨d, element⟩ := line
    cases element with
    | opening tag as => exact ⟨tag, rfl⟩
    | single tag as => exact ⟨tag, rfl⟩
    | closing tag => cases held
    | placeholder kind => cases held
  obtain ⟨tag, start⟩ := starts
  have found : (line.depth, tag, line.element.attributes) ∈ lines.filterMap Line.start? :=
    List.mem_filterMap.mpr ⟨line, inside, start⟩
  rw [shows.starts] at found
  obtain ⟨e, walked, same⟩ := List.mem_map.mp found
  have those : attributes e.2.props = line.element.attributes :=
    (Prod.mk.inj (Prod.mk.inj same).2).2
  exact ⟨e, walked, those ▸ held⟩

namespace Node

theorem mem_preorder_self (n : Node) : n ∈ n.preorder := by
  obtain ⟨id, kind, props, - | children⟩ := n
  · exact List.mem_singleton_self _
  · exact List.mem_cons_self

theorem mem_preorderAll {nodes : List Node} {child n : Node} (inside : child ∈ nodes)
    (below : n ∈ child.preorder) : n ∈ preorderAll nodes := by
  induction nodes with
  | nil => cases inside
  | cons first rest ih =>
      rw [preorderAll, List.mem_append]
      rcases List.mem_cons.mp inside with rfl | inside
      · exact .inl below
      · exact .inr (ih inside)

/-- A widget whose lines are those of a node, and whose props come from it and the nodes below. -/
structure ShownBy (n : Node) (w : Widget) : Prop where
  widget : n.widget = (some w, [])
  lines : ∀ depth, Shows depth w (n.lines depth)
  props : ∀ depth, ∀ e ∈ w.walk depth, ∃ m ∈ n.preorder, m.props = e.2.props

theorem widgets_of_each {nodes : List Node} (each : ∀ child ∈ nodes, ∃ w, child.ShownBy w) :
    ∃ ws, widgets nodes = (ws, []) ∧ (∀ depth, ShowsAll depth ws (linesAll depth nodes)) ∧
      ∀ depth, ∀ e ∈ Widget.walkAll depth ws, ∃ m ∈ preorderAll nodes, m.props = e.2.props := by
  induction nodes with
  | nil => exact ⟨[], rfl, fun depth => .nil, fun depth e inside => nomatch inside⟩
  | cons n rest ih =>
      obtain ⟨w, shown⟩ := each n List.mem_cons_self
      obtain ⟨ws, widgetsAre, linesAre, propsAre⟩ :=
        ih fun child inside => each child (List.mem_cons_of_mem n inside)
      refine ⟨w :: ws, ?_, ?_, ?_⟩
      · rw [widgets, shown.widget, widgetsAre]
        rfl
      · intro depth
        rw [linesAll]
        exact .cons (shown.lines depth) (linesAre depth)
      · intro depth e inside
        rw [Widget.walkAll, List.mem_append] at inside
        rcases inside with inside | inside
        · obtain ⟨m, below, same⟩ := shown.props depth e inside
          exact ⟨m, mem_preorderAll List.mem_cons_self below, same⟩
        · obtain ⟨m, below, same⟩ := propsAre depth e inside
          refine ⟨m, ?_, same⟩
          rw [preorderAll]
          exact List.mem_append_right n.preorder below

theorem shownBy_of_known {n : Node} (known : n.Known) : ∃ w, n.ShownBy w := by
  induction known with
  | @node id kind props children below ih =>
      -- A leaf is shown without its children, a container without children like one with none.
      have alone : ∀ depth, ∀ e ∈ (Widget.mk kind props []).walk depth,
          ∃ m ∈ (Node.mk id (.known kind) props children).preorder, m.props = e.2.props := by
        intro depth e inside
        rw [Widget.walk, Widget.walkAll, List.mem_singleton] at inside
        rw [inside]
        exact ⟨_, mem_preorder_self _, rfl⟩
      cases container : kind.isContainer with
      | false =>
          refine ⟨.mk kind props [], ⟨?_, ?_, alone⟩⟩
          · cases children <;> simp [widget, container]
          · intro depth
            cases children <;> simp only [lines, container, Bool.false_eq_true, ↓reduceIte] <;>
              exact .leaf container
      | true =>
          cases children with
          | none =>
              refine ⟨.mk kind props [], ⟨rfl, ?_, alone⟩⟩
              intro depth
              rw [lines, if_pos container]
              exact .container container .nil
          | some nodes =>
              obtain ⟨ws, widgetsAre, linesAre, propsAre⟩ := widgets_of_each (ih nodes rfl)
              refine ⟨.mk kind props ws, ⟨?_, ?_, ?_⟩⟩
              · rw [widget, if_pos container, widgetsAre]
              · intro depth
                rw [lines, if_pos container]
                exact .container container (linesAre (depth + 1))
              · intro depth e inside
                rw [Widget.walk, List.mem_cons] at inside
                rcases inside with rfl | inside
                · exact ⟨_, mem_preorder_self _, rfl⟩
                · obtain ⟨m, further, same⟩ := propsAre (depth + 1) e inside
                  refine ⟨m, ?_, same⟩
                  rw [preorder]
                  exact List.mem_cons_of_mem _ further

end Node

/-- A letter and then letters and digits. -/
def isName : List Char → Bool
  | [] => false
  | c :: rest => c.isAlpha && rest.all Char.isAlphanum

/-- A prop with such a name and a JSON value. -/
def isProp (m : Key × Value) : Bool :=
  match m.1 with
  | .text s => isName s.toList && m.2.isJson .any
  | _ => false

theorem isProp_iff {m : Key × Value} :
    isProp m ↔ (∃ s, m.1 = .text s ∧ isName s.toList) ∧ m.2.isJson .any := by
  obtain ⟨key, v⟩ := m
  cases key <;> simp [isProp]

theorem not_mem_of_isName {name : List Char} (named : isName name) {c : Char}
    (other : c.isAlphanum = false) : .char c ∉ name.map Code.char := by
  rw [List.mem_map_of_injective fun _ _ => Code.char.inj]
  cases name with
  | nil => exact List.not_mem_nil
  | cons first rest =>
      rw [isName, Bool.and_eq_true, List.all_eq_true] at named
      intro inside
      have one : c.isAlphanum := by
        rcases List.mem_cons.mp inside with rfl | inside
        · rw [Char.isAlphanum, named.1]
          rfl
        · exact named.2 c inside
      rw [one] at other
      cases other

theorem Source.literal?_isSome {v : Value} (json : v.isJson .any) (some : v ≠ .null) :
    (literal? v).isSome := by
  cases v with
  | null => exact absurd rfl some
  | tuple items => rfl
  | illFormed codes => cases json
  | foreign => cases json
  | _ => rfl

/-- The props of a widget that show in the source, each with the literal of its value. -/
def Widget.shownProps (w : Widget) : List (List Code × Option (List Code)) :=
  (w.props.filter fun m => m.1 ≠ .text "id" && m.2 ≠ .null).map fun m => (m.1.plain, literal? m.2)

theorem shownProps_eq {props : Members} (each : ∀ m ∈ props, isProp m) (kind : Kind)
    (children : List Widget) :
    (Widget.mk kind props children).shownProps =
      (attributes props).map fun a => (a.name, some a.literal) := by
  rw [Widget.shownProps, Widget.props]
  induction props with
  | nil => rfl
  | cons m rest ih =>
      have others := ih fun other inside => each other (List.mem_cons_of_mem m inside)
      have prop := isProp_iff.mp (each m List.mem_cons_self)
      obtain ⟨key, v⟩ := m
      rw [attributes, List.filterMap_cons]
      by_cases own : key = .text "id"
      · simp only [own, List.filter_cons, ne_eq, not_true_eq_false, decide_false, Bool.false_and,
          Bool.false_eq_true, ↓reduceIte]
        exact others
      · by_cases null : v = .null
        · subst null
          simp only [own, List.filter_cons, ne_eq, not_true_eq_false, decide_false, Bool.and_false,
            Bool.false_eq_true, ↓reduceIte]
          exact others
        · obtain ⟨text, literal⟩ := Option.isSome_iff_exists.mp (literal?_isSome prop.2 null)
          simp only [own, null, List.filter_cons, ne_eq, not_false_eq_true, decide_true,
            Bool.and_self, ↓reduceIte, literal, Option.map_some, List.map_cons]
          rw [← attributes, ← others]

theorem mem_attributes_iff {props : Members} {a : Attribute} :
    a ∈ attributes props ↔ ∃ m ∈ props,
      m.1 ≠ .text "id" ∧ literal? m.2 = some a.literal ∧ m.1.plain = a.name := by
  rw [attributes, List.mem_filterMap]
  constructor
  · rintro ⟨⟨key, v⟩, member, made⟩
    simp only at made
    split at made
    · cases made
    · rename_i other
      obtain ⟨text, literal, rfl⟩ := Option.map_eq_some_iff.mp made
      exact ⟨(key, v), member, other, literal, rfl⟩
  · rintro ⟨⟨key, v⟩, member, other, literal, name⟩
    refine ⟨(key, v), member, ?_⟩
    simp only at other literal name
    simp only [if_neg other, literal, Option.map_some, name]

theorem sealed_of_mem_attributes {props : Members} {a : Attribute} (inside : a ∈ attributes props) :
    Sealed a.literal := by
  obtain ⟨m, -, -, literal, -⟩ := mem_attributes_iff.mp inside
  exact sealed_literalBy literal

theorem exists_name_of_mem_attributes {props : Members} (each : ∀ m ∈ props, isProp m)
    {a : Attribute} (inside : a ∈ attributes props) :
    ∃ name : List Char, a.name = name.map .char ∧ isName name := by
  obtain ⟨m, member, -, -, name⟩ := mem_attributes_iff.mp inside
  obtain ⟨⟨s, same, named⟩, -⟩ := isProp_iff.mp (each m member)
  refine ⟨s.toList, ?_, named⟩
  rw [← name, same]
  rfl

/-- The source of a plan and its widgets show the same tree, depth for depth, tag for tag and prop
for prop: the lines of the source are read back as lines that show the widgets, and those that begin
a widget are the widgets in pre-order. -/
theorem treeLines_show_widgets {raw : Value} {plan : Plan} (read : Plan.validate raw = .ok plan)
    (props : ∀ n ∈ plan.root.preorder, ∀ m ∈ n.props, isProp m) :
    ∃ w lines, plan.root.widget = (some w, []) ∧
      (treeLines (code plan)).map readLine? = lines.map some ∧
      Shows 0 w lines ∧
      (lines.filterMap Line.start?).map
          (fun s => (s.1, s.2.1, s.2.2.map fun a => (a.name, some a.literal))) =
        (w.walk 0).map fun e => (e.1, e.2.kind.tag, e.2.shownProps) := by
  obtain ⟨w, shown⟩ := Node.shownBy_of_known (Plan.known_of_validate read)
  have shows := shown.lines 0
  have propsAre : ∀ e ∈ w.walk 0, ∀ m ∈ e.2.props, isProp m := by
    intro e walked m member
    obtain ⟨n, inside, same⟩ := shown.props 0 e walked
    exact props n inside m (same ▸ member)
  have attributesAre : ∀ line ∈ plan.root.lines 0, ∀ a ∈ line.element.attributes,
      (∃ name : List Char, a.name = name.map .char ∧ isName name) ∧ Sealed a.literal := by
    intro line inside a held
    obtain ⟨e, walked, own⟩ := shows.mem_attributes inside held
    exact ⟨exists_name_of_mem_attributes (propsAre e walked) own, sealed_of_mem_attributes own⟩
  refine ⟨w, plan.root.lines 0, shown.widget, ?_, shows, ?_⟩
  · have whole : ∀ line ∈ plan.root.lines 0, .char '\n' ∉ line.text := by
      intro line inside broken
      have sealed : ∀ a ∈ line.element.attributes, Sealed a.literal := fun a held =>
        (attributesAre line inside a held).2
      obtain ⟨a, held, newline⟩ := (newline_mem_text (shows.isTag line inside) sealed).mp broken
      obtain ⟨name, same, named⟩ := (attributesAre line inside a held).1
      exact not_mem_of_isName named (by decide) (same ▸ newline)
    rw [treeLines_code whole, List.map_map]
    apply List.map_congr_left
    intro line inside
    apply readLine?_text (shows.isTag line inside)
    intro a held
    obtain ⟨⟨name, same, named⟩, literal⟩ := attributesAre line inside a held
    exact ⟨same ▸ not_mem_of_isName named (by decide), literal⟩
  · rw [shows.starts, List.map_map]
    apply List.map_congr_left
    rintro ⟨depth, kind, own, children⟩ walked
    have each : ∀ m ∈ own, isProp m := propsAre _ walked
    simp only [Function.comp_apply, Widget.kind, Widget.props]
    rw [shownProps_eq each]

/-- A page with props whose texts look like source, and a leaf that holds nodes. -/
def trickyPlan : Value :=
  .object
    [(.text "layout", .object [(.text "layoutStyle", .text "custom")]),
      (.text "root", .object
        [(.text "id", .text "r"), (.text "kind", .text "page"),
          (.text "props", .object
            [(.text "id", .text "own"), (.text "none", .null),
              (.text "title", .text "\x7d />\n\"\\ <Modal x=\x7b"),
              (.text "rows", .list [.object [(.text "\x7d\"", .null)], .int (-7), .bool true])]),
          (.text "children", .list
            [.object
              [(.text "id", .text "b"), (.text "kind", .text "button"),
                (.text "children", .list
                  [.object [(.text "id", .text "c"), (.text "kind", .text "card")]])],
              .object
                [(.text "id", .text "s"), (.text "kind", .text "stack"),
                  (.text "children", .list [])]])])]

theorem treeLines_show_widgets_tricky : ∃ plan w lines, Plan.validate trickyPlan = .ok plan ∧
    plan.root.widget = (some w, []) ∧
    (treeLines (code plan)).map readLine? = lines.map some ∧ Shows 0 w lines ∧
    (lines.filterMap Line.start?).map
        (fun s => (s.1, s.2.1, s.2.2.map fun a => (a.name, some a.literal))) =
      (w.walk 0).map fun e => (e.1, e.2.kind.tag, e.2.shownProps) := by
  obtain ⟨plan, read, props⟩ : ∃ plan, Plan.validate trickyPlan = .ok plan ∧
      ∀ n ∈ plan.root.preorder, ∀ m ∈ n.props, isProp m := ⟨_, rfl, by decide⟩
  obtain ⟨w, lines, shown⟩ := treeLines_show_widgets read props
  exact ⟨plan, w, lines, read, shown⟩

end InterfacePlan
