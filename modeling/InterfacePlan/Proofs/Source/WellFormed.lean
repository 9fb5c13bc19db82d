import InterfacePlan.Proofs.Plan.Canonical
import InterfacePlan.Source.Component

set_option autoImplicit false

namespace InterfacePlan

open Text (WellFormed)

namespace Source

variable {numbers : Json.Numbers}

theorem wellFormed_brackets (left right : List Char) {parts : List (List Text.Code)}
    (each : ∀ part ∈ parts, WellFormed part) : WellFormed (brackets left right parts) :=
  ((Text.wellFormed_chars left).append (.join (Text.wellFormed_chars [',', ' ']) each)).append
    (Text.wellFormed_chars right)

mutual

theorem wellFormed_literal : ∀ {v : Value}, v.isJson numbers →
    WellFormed ((literal? v).getD (nullLiteral.map .char))
  | .null, _ | .bool _, _ | .int _, _ | .float _, _ => Text.wellFormed_chars _
  | .text s, _ => Text.wellFormed_quoteCodes s
  | .list _, json => wellFormed_brackets ['['] [']'] (wellFormed_items json)
  | .object _, json =>
      wellFormed_brackets ['\x7b', ' '] [' ', '\x7d']
        (wellFormed_members (Value.isJson_object.mp json).2)
  | .tuple _, json | .illFormed _, json | .foreign, json => nomatch json

theorem wellFormed_items : ∀ {items : List Value}, Value.itemsAreJson numbers items →
    ∀ part ∈ itemsBy Key.plain items, WellFormed part
  | [], _ => fun _ inside => nomatch inside
  | _ :: _, json => by
      rw [Value.itemsAreJson, Bool.and_eq_true] at json
      exact List.forall_mem_cons.mpr ⟨wellFormed_literal json.1, wellFormed_items json.2⟩

theorem wellFormed_members : ∀ {members : Members}, Value.membersAreJson numbers members →
    ∀ part ∈ membersBy Key.plain members, WellFormed part
  | [], _ => fun _ inside => nomatch inside
  | (key, _) :: _, json => by
      cases key with
      | text s =>
          rw [Value.membersAreJson, Bool.and_eq_true] at json
          have colon : WellFormed [.char ':', .char ' '] := Text.wellFormed_chars [':', ' ']
          exact List.forall_mem_cons.mpr
            ⟨(Text.wellFormed_quoteCodes s).append (colon.append (wellFormed_literal json.1)),
              wellFormed_members json.2⟩
      | _ => cases json

end

theorem wellFormed_attribute {props : Members} (json : (Value.object props).isJson numbers) :
    ∀ a ∈ attributes props, WellFormed (.char ' ' :: a.text) := by
  intro a inside
  obtain ⟨⟨key, v⟩, member, given⟩ := List.mem_filterMap.mp inside
  obtain ⟨⟨name, rfl⟩, own⟩ := Value.membersAreJson_iff.mp (Value.isJson_object.mp json).2 _ member
  have whole := wellFormed_literal own
  simp only at given
  split at given
  · cases given
  · obtain ⟨literal, written, rfl⟩ := Option.map_eq_some_iff.mp given
    rw [written, Option.getD_some] at whole
    have start : WellFormed (.char ' ' :: Text.codes name) :=
      (Text.wellFormed_chars [' ']).append ⟨name, rfl⟩
    have middle : WellFormed (.char '=' :: .char '\x7b' :: literal) :=
      (Text.wellFormed_chars ['=', '\x7b']).append whole
    exact (start.append middle).append (Text.wellFormed_chars ['\x7d'])

theorem wellFormed_attributesText {props : Members} (json : (Value.object props).isJson numbers) :
    WellFormed (attributesText (attributes props)) := by
  rw [Text.wellFormed_iff]
  intro unit alone
  obtain ⟨a, inside, among⟩ := List.mem_flatMap.mp alone
  exact Text.wellFormed_iff.mp (wellFormed_attribute json a inside) unit among

theorem wellFormed_tags {props : Members} (json : (Value.object props).isJson numbers) (tag : String) :
    WellFormed (Element.opening tag (attributes props)).text ∧ WellFormed (Element.closing tag).text ∧
      WellFormed (Element.single tag (attributes props)).text := by
  have name : WellFormed (Text.codes tag) := ⟨tag, rfl⟩
  have start : WellFormed (.char '<' :: Text.codes tag ++ attributesText (attributes props)) :=
    ((Text.wellFormed_chars ['<']).append name).append (wellFormed_attributesText json)
  exact ⟨start.append (Text.wellFormed_chars ['>']),
    ((Text.wellFormed_chars ['<', '/']).append name).append (Text.wellFormed_chars ['>']),
    start.append (Text.wellFormed_chars [' ', '/', '>'])⟩

theorem mem_linesAll {line : Line} {depth : Nat} {nodes : List Node} :
    line ∈ Node.linesAll depth nodes ↔ ∃ child ∈ nodes, line ∈ child.lines depth := by
  induction nodes with
  | nil => simp [Node.linesAll]
  | cons n rest ih => simp [Node.linesAll, ih]

theorem wellFormed_lines {n : Node} (canonical : n.Canonical numbers) (depth : Nat) :
    ∀ line ∈ n.lines depth, WellFormed line.element.text := by
  induction canonical generalizing depth with
  | @node id kind props children trimmed json below ih =>
      obtain ⟨opening, closing, single⟩ := wellFormed_tags json kind.tag
      cases container : kind.isContainer with
      | false =>
          have alone : (Node.mk id (.known kind) props children).lines depth =
              [⟨depth, .single kind.tag (attributes props)⟩] := by
            cases children <;> simp [Node.lines, container]
          rw [alone]
          exact List.forall_mem_singleton.mpr single
      | true =>
          have lines : ∃ inner, (Node.mk id (.known kind) props children).lines depth =
              ⟨depth, .opening kind.tag (attributes props)⟩ :: inner ++ [⟨depth, .closing kind.tag⟩] ∧
              ∀ line ∈ inner, WellFormed line.element.text := by
            cases children with
            | none => exact ⟨[], by simp [Node.lines, container], List.forall_mem_nil _⟩
            | some nodes =>
                refine ⟨_, by rw [Node.lines, if_pos container], fun line inside => ?_⟩
                obtain ⟨child, member, own⟩ := mem_linesAll.mp inside
                exact ih nodes rfl child member _ line own
          obtain ⟨inner, same, each⟩ := lines
          rw [same]
          exact List.forall_mem_append.mpr
            ⟨List.forall_mem_cons.mpr ⟨opening, each⟩, List.forall_mem_singleton.mpr closing⟩

theorem wellFormed_code {plan : Plan} (canonical : plan.Canonical numbers) :
    WellFormed (code plan) := by
  have tree : WellFormed (treeText plan.root) := by
    refine .join (Text.wellFormed_chars ['\n']) fun part inside => ?_
    obtain ⟨line, member, rfl⟩ := List.mem_map.mp inside
    have blank := Text.wellFormed_chars (List.replicate (rootIndent + indentStep * line.depth) ' ')
    rw [List.map_replicate] at blank
    exact blank.append (wellFormed_lines canonical.root 0 line member)
  exact (Text.wellFormed_chars _).append
    (((Text.wellFormed_chars _).append tree).append (Text.wellFormed_chars _))

end Source

end InterfacePlan
