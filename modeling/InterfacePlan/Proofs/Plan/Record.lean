import InterfacePlan.Plan.Record
import InterfacePlan.Proofs.Plan.Regular

set_option autoImplicit false

namespace InterfacePlan

open Schema

theorem readWord_name {α : Type} {ofName? : String → Option α} {name : α → String}
    (named : ∀ {s a}, ofName? s = some a ↔ s = name a) (a : α) :
    readWord ofName? (.text (name a)) = .ok a := by
  rw [readWord, named.mpr rfl]
  rfl

theorem readEach_map {α : Type} {read : Value → Checked α} {toWire : α → Value} {parts : List α}
    (each : ∀ a ∈ parts, read (toWire a) = .ok a) (i : Nat) :
    readEach read i (parts.map toWire) = .ok parts := by
  induction parts generalizing i with
  | nil => rfl
  | cons a rest ih =>
      rw [List.map_cons, readEach, each a List.mem_cons_self,
        ih fun b inside => each b (List.mem_cons_of_mem a inside)]
      rfl

theorem Layout.ofRecord_toWire (layout : Layout) : ofRecord layout.toWire = .ok layout := by
  obtain ⟨style, hasSidebar, hasNavbar⟩ := layout
  have styleIs : ∀ rest, required ((.text "layoutStyle", .text style.name) :: rest)
      ["layoutStyle", "layout_style"] (readWord LayoutStyle.ofName?) = .ok style := by
    intro rest
    change ((readWord LayoutStyle.ofName? (.text style.name)).under _) = .ok style
    rw [readWord_name LayoutStyle.ofName?_iff]
    rfl
  -- Each flag has two spellings, and its place in the record depends on the other flag.
  rw [toWire, ofRecord, model, List.cons_append, styleIs]
  cases hasSidebar <;> cases hasNavbar <;> rfl

theorem Change.ofRecord_toWire (change : Change) : ofRecord change.toWire = .ok change := by
  obtain ⟨kind, description, targetId⟩ := change
  have kindIs : ∀ rest, required ((.text "kind", .text kind.name) :: rest) ["kind"]
      (readWord ChangeKind.ofName?) = .ok kind :=
    fun rest => required_eq_ok_iff.mpr ⟨_, rfl, readWord_name ChangeKind.ofName?_iff kind⟩
  have targetIs : ∀ codes, nullable string (.ofCodes codes) = .ok (some codes) := by
    intro codes
    rw [nullable_of_ne_null (Value.ofCodes_ne_null codes), string_eq_ok_iff.mpr (Value.text?_ofCodes _)]
    rfl
  have described : ∀ rest, required ((.text "kind", .text kind.name) ::
      (.text "description", .ofCodes description) :: rest) ["description"] string = .ok description :=
    fun rest =>
      required_eq_ok_iff.mpr ⟨_, rfl, string_eq_ok_iff.mpr (Value.text?_ofCodes description)⟩
  have targeted : optional none ((.text "kind", .text kind.name) ::
      (.text "description", .ofCodes description) :: member? "targetId" Value.ofCodes targetId)
      ["targetId", "target_id"] (nullable string) = .ok targetId := by
    cases targetId with
    | none => rfl
    | some codes =>
        change (nullable string (.ofCodes codes)).under _ = .ok (some codes)
        rw [targetIs]
        rfl
  rw [toWire, ofRecord, model, kindIs, described, targeted]
  rfl

namespace Node

theorem ofRecords_eq_readEach (i : Nat) (items : List Value) :
    ofRecords i items = readEach ofRecord i items := by
  induction items generalizing i with
  | nil => rfl
  | cons v rest ih => rw [ofRecords, readEach, ih]

/-- A tree as reading leaves it is read from its wire form as a record too. -/
theorem ofRecord_toWire {n : Node} (regular : n.Regular) : ofRecord n.toWire = .ok n := by
  induction regular with
  | @node id kind props children trimmed record below ih =>
      have filled : id ≠ "" := by
        rintro rfl
        exact trimmed.nonempty rfl
      have idIs : ∀ rest, required ((.text "id", .text id) :: rest) ["id"] nonEmptyString =
          .ok id := fun rest =>
        required_eq_ok_iff.mpr ⟨_, rfl, nonEmptyString_eq_ok_iff.mpr ⟨rfl, filled⟩⟩
      have kindIs : ∀ rest, required
          ((.text "id", .text id) :: (.text "kind", .text kind.name) :: rest) ["kind"]
          (readWord Kind.ofName?) = .ok kind :=
        fun rest => required_eq_ok_iff.mpr ⟨_, rfl, readWord_name Kind.ofName?_iff kind⟩
      have propsAre : ∀ rest, optional [] ((.text "id", .text id) ::
          (.text "kind", .text kind.name) :: (.text "props", .object props) :: rest) ["props"]
          Schema.record = .ok props :=
        fun rest => optional_eq_ok_iff.mpr (.inr ⟨_, rfl, record⟩)
      have childrenAre : ofChildren ([(.text "id", .text id), (.text "kind", .text kind.name),
          (.text "props", .object props)] ++
            member? "children" (fun nodes => .list (nodes.map toWire)) children) =
          .ok children := by
        cases children with
        | none => rfl
        | some nodes =>
            change Checked.under _ ((ofRecords 0 (nodes.map toWire)).map some) = .ok (some nodes)
            rw [ofRecords_eq_readEach, readEach_map (ih nodes rfl)]
            rfl
      rw [toWire_mk, NodeKind.name, ofRecord, childrenAre]
      simp only [List.cons_append, List.nil_append, idIs, kindIs, propsAre]
      rfl

end Node

namespace Plan

theorem ofRecord_toWire {plan : Plan} (regular : plan.Regular) :
    ofRecord plan.toWire = .ok plan := by
  obtain ⟨summary, layout, root, changes⟩ := plan
  have summaryIs : ∀ rest, optional [] ((.text "summary", .ofCodes summary) :: rest) ["summary"]
      string = .ok summary :=
    fun rest =>
      optional_eq_ok_iff.mpr (.inr ⟨_, rfl, string_eq_ok_iff.mpr (Value.text?_ofCodes summary)⟩)
  have layoutIs : ∀ rest, required
      ((.text "summary", .ofCodes summary) :: (.text "layout", layout.toWire) :: rest) ["layout"]
      Layout.ofRecord = .ok layout :=
    fun rest => required_eq_ok_iff.mpr ⟨_, rfl, layout.ofRecord_toWire⟩
  have rootIs : ∀ rest, required ((.text "summary", .ofCodes summary) ::
      (.text "layout", layout.toWire) :: (.text "root", root.toWire) :: rest) ["root"]
      Node.ofRecord = .ok root :=
    fun rest => required_eq_ok_iff.mpr ⟨_, rfl, Node.ofRecord_toWire regular.root⟩
  have changesAre : optional none ((.text "summary", .ofCodes summary) ::
      (.text "layout", layout.toWire) :: (.text "root", root.toWire) ::
        member? "changes" (fun log => .list (log.map Change.toWire)) changes) ["changes"]
      (nullable (readList Change.ofRecord)) = .ok changes := by
    cases changes with
    | none => rfl
    | some log =>
        refine optional_eq_ok_iff.mpr (.inr ⟨_, rfl, ?_⟩)
        change (readEach Change.ofRecord 0 (log.map Change.toWire)).map some = .ok (some log)
        rw [readEach_map fun change _ => change.ofRecord_toWire]
        rfl
  rw [toWire, ofRecord, model, summaryIs, layoutIs, rootIs, changesAre]
  rfl

/-- A raw plan with padded ids, a flag that is no flag, children that are null or an empty list, and a
log of which one entry is kept. -/
def untidyPlan : Value :=
  .object
    [(.text "changes", .list
        [.object [(.text "kind", .text "add"), (.text "description", .text " \n")],
          .object
            [(.text "description", .text "\u2003a chart\t"), (.text "kind", .text "update"),
              (.text "targetId", .int 1)],
          .text "add"]),
      (.text "summary", .null),
      (.text "layout", .object
        [(.text "hasSidebar", .text "true"), (.text "layoutStyle", .text "dashboard"),
          (.text "hasNavbar", .bool false)]),
      (.text "root", .object
        [(.text "id", .text "\u00a0r "), (.text "kind", .text "page"),
          (.text "children", .list
            [.object
              [(.text "id", .text "a b"), (.text "kind", .text "empty-state"),
                (.text "props", .object [(.text "x", .float .nan), (.text "", .tuple [])]),
                (.text "children", .null)],
              .object
                [(.text "id", .text "a b "), (.text "kind", .text "modal"),
                  (.text "props", .list []), (.text "children", .list [])]])])]

end Plan

end InterfacePlan
