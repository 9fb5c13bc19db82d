import InterfacePlan.Proofs.Plan.Regular

set_option autoImplicit false

namespace InterfacePlan

variable {numbers : Json.Numbers}

/-- A tree of known kinds with trimmed ids, and with JSON values for props. -/
inductive Node.Canonical (numbers : Json.Numbers) : Node → Prop
  | node {id : String} {kind : Kind} {props : Members} {children : Option (List Node)}
      (trimmed : IsTrimmed (Text.codes id)) (json : (Value.object props).isJson numbers)
      (below : ∀ nodes, children = some nodes → ∀ child ∈ nodes, Canonical numbers child) :
      Canonical numbers (.mk id (.known kind) props children)

/-- A change in texts, with a trimmed description. -/
structure Change.Canonical (change : Change) : Prop where
  trimmed : IsTrimmed change.description
  description : Text.WellFormed change.description
  target : ∀ codes, change.targetId = some codes → Text.WellFormed codes

structure Plan.Canonical (numbers : Json.Numbers) (plan : Plan) : Prop where
  summary : Text.WellFormed plan.summary
  root : plan.root.Canonical numbers
  changes : ∀ log, plan.changes = some log → ∀ change ∈ log, change.Canonical

theorem Node.Canonical.regular {n : Node} (canonical : n.Canonical numbers) : n.Regular := by
  induction canonical with
  | node trimmed json below ih => exact .node trimmed (Schema.record_of_isJson json) ih

theorem Plan.Canonical.regular {plan : Plan} (canonical : plan.Canonical numbers) : plan.Regular :=
  ⟨canonical.root.regular, fun log same change inside =>
    (canonical.changes log same change inside).trimmed⟩

namespace Node

theorem toWire_isJson {n : Node} (canonical : n.Canonical numbers) :
    n.toWire.isJson numbers := by
  induction canonical with
  | @node id kind props children trimmed json below ih =>
      rw [toWire_mk]
      cases children with
      | none =>
          refine Value.isJson_of_names ["id", "kind", "props"] rfl (by decide) ?_
          simp only [member?, List.append_nil, List.all_cons, List.all_nil, Value.isJson_text, json,
            Bool.and_self]
      | some nodes =>
          have items : (Value.list (nodes.map toWire)).isJson numbers := by
            rw [Value.isJson_list]
            intro v inside
            obtain ⟨child, member, rfl⟩ := List.mem_map.mp inside
            exact ih nodes rfl child member
          refine Value.isJson_of_names ["id", "kind", "props", "children"] rfl
            (by decide) ?_
          simp only [member?, List.cons_append, List.nil_append, List.all_cons, List.all_nil,
            Value.isJson_text, json, items, Bool.and_self]

end Node

theorem Layout.toWire_isJson (layout : Layout) : layout.toWire.isJson numbers := by
  obtain ⟨style, hasSidebar, hasNavbar⟩ := layout
  refine Value.isJson_of_names
    ("layoutStyle" :: ((hasSidebar.map fun _ => "hasSidebar").toList ++
      (hasNavbar.map fun _ => "hasNavbar").toList)) ?_ ?_ ?_
  · cases hasSidebar <;> cases hasNavbar <;> rfl
  · cases hasSidebar <;> cases hasNavbar <;> simp
  · cases hasSidebar <;> cases hasNavbar <;> rfl

theorem Change.toWire_isJson {change : Change} (canonical : change.Canonical) :
    change.toWire.isJson numbers := by
  obtain ⟨kind, description, targetId⟩ := change
  have described : (Value.ofCodes description).isJson numbers :=
    Value.ofCodes_isJson canonical.description
  refine Value.isJson_of_names
    ("kind" :: "description" :: (targetId.map fun _ => "targetId").toList) ?_ ?_ ?_
  · cases targetId <;> rfl
  · cases targetId <;> simp
  · cases targetId with
    | none =>
        simp only [member?, List.all_cons, List.all_nil, Value.isJson_text, described, Bool.and_self]
    | some target =>
        have targeted : (Value.ofCodes target).isJson numbers :=
          Value.ofCodes_isJson (canonical.target target rfl)
        simp only [member?, List.all_cons, List.all_nil, Value.isJson_text, described, targeted,
          Bool.and_self]

namespace Plan

theorem toWire_isJson {plan : Plan} (canonical : plan.Canonical numbers) :
    plan.toWire.isJson numbers := by
  obtain ⟨summary, layout, root, changes⟩ := plan
  have layoutIs : layout.toWire.isJson numbers := layout.toWire_isJson
  have summaryIs : (Value.ofCodes summary).isJson numbers := Value.ofCodes_isJson canonical.summary
  have rootIs : root.toWire.isJson numbers := Node.toWire_isJson canonical.root
  cases changes with
  | none =>
      refine Value.isJson_of_names ["summary", "layout", "root"] rfl (by decide) ?_
      simp only [member?, List.all_cons, List.all_nil, summaryIs, layoutIs, rootIs,
        Bool.and_self]
  | some log =>
      have logIs : (Value.list (log.map Change.toWire)).isJson numbers := by
        rw [Value.isJson_list]
        intro v inside
        obtain ⟨change, member, rfl⟩ := List.mem_map.mp inside
        exact Change.toWire_isJson (canonical.changes log rfl change member)
      refine Value.isJson_of_names ["summary", "layout", "root", "changes"] rfl
        (by decide) ?_
      simp only [member?, List.all_cons, List.all_nil, summaryIs, layoutIs, rootIs, logIs,
        Bool.and_self]

theorem exists_of_correspondInOrder {items : List Value} {nodes : List Node}
    (each : CorrespondInOrder items nodes) {n : Node} (inside : n ∈ nodes) :
    ∃ raw ∈ items, Corresponds raw n := by
  induction items generalizing nodes with
  | nil =>
      cases each
      cases inside
  | cons raw rest ih =>
      cases each with
      | cons head tail =>
          rcases List.mem_cons.mp inside with rfl | inside
          · exact ⟨raw, List.mem_cons_self, head⟩
          · obtain ⟨other, member, correspond⟩ := ih tail inside
            exact ⟨other, List.mem_cons_of_mem raw member, correspond⟩

theorem canonical_of_corresponds {raw : Value} (isNode : IsNode raw) (json : raw.isJson numbers)
    {n : Node} (correspond : Corresponds raw n) : n.Canonical numbers := by
  induction isNode generalizing n with
  | @node raw own below ih =>
      cases correspond with
      | @node _ codes id kind props children text trimmed kindIs propsAre childrenCorrespond =>
          obtain ⟨codes, given, nonblank⟩ := own.id
          rw [text] at given
          cases given
          refine .node (trimmed ▸ .of_trim nonblank) ?_ ?_
          · rcases propsAre with same | ⟨-, rfl⟩
            · rw [← same]
              exact Value.isJson_get json "props"
            · rfl
          · rintro nodes rfl child inside
            cases items : rawChildren? raw with
            | none =>
                rw [items] at childrenCorrespond
                cases childrenCorrespond
            | some items' =>
                rw [items] at childrenCorrespond
                cases childrenCorrespond with
                | present each =>
                    obtain ⟨item, member, correspond⟩ := exists_of_correspondInOrder each inside
                    have list : (Value.list items').isJson numbers := by
                      have children := Value.isJson_get json "children"
                      rw [rawChildren?] at items
                      split at items
                      · rename_i vs same
                        cases items
                        rwa [same] at children
                      · cases items
                    exact ih items' items item member (Value.isJson_list.mp list item member)
                      correspond

theorem canonical_of_isEntry {entry : Value} {change : Change} (isEntry : IsEntry entry change)
    (json : entry.isJson numbers) : change.Canonical := by
  obtain ⟨codes, text, filled, trimmed⟩ := isEntry.description
  obtain ⟨s, -, rfl⟩ := Value.eq_text_of_isJson (Value.isJson_get json "description") text
  refine ⟨trimmed ▸ .of_trim filled, trimmed ▸ Text.WellFormed.trim ⟨s, rfl⟩, ?_⟩
  intro target targetIs
  obtain ⟨t, -, same⟩ := Value.eq_text_of_isJson (Value.isJson_get json "targetId")
    (isEntry.target.symm.trans targetIs)
  exact ⟨t, same⟩

/-- Every plan that is read from a JSON value is canonical, with numbers of the same class. -/
theorem canonical_of_validate {raw : Value} (json : raw.isJson numbers) {plan : Plan}
    (read : validate raw = .ok plan) : plan.Canonical numbers := by
  have parts := readFrom_of_validate read
  refine ⟨?_, canonical_of_corresponds (isPlan_of_validate read).root
    (Value.isJson_get json "root") (corresponds_of_validate read), ?_⟩
  · rw [← parts.summary]
    cases text : (raw.get "summary").text? with
    | none => exact ⟨"", rfl⟩
    | some codes =>
        obtain ⟨s, -, same⟩ := Value.eq_text_of_isJson (Value.isJson_get json "summary") text
        exact ⟨s, same⟩
  · intro log same change inside
    have logJson := Value.isJson_get json "changes"
    have changes := parts.changes.trans same
    cases rawLog : raw.get "changes" with
    | list entries =>
        rw [rawLog] at changes logJson
        cases changes
        obtain ⟨entry, member, readEntry⟩ := List.mem_filterMap.mp inside
        exact canonical_of_isEntry (readChange?_iff.mp readEntry)
          (Value.isJson_list.mp logJson entry member)
    | _ =>
        rw [rawLog] at changes
        cases changes

end Plan

end InterfacePlan
