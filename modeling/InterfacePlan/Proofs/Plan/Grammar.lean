import InterfacePlan.Plan.Validation
import InterfacePlan.Proofs.Json.Admitted
import InterfacePlan.Proofs.Schema

set_option autoImplicit false

namespace InterfacePlan

theorem Kind.ofName?_iff {s : String} {kind : Kind} : ofName? s = some kind ↔ s = kind.name :=
  find_name_iff (fun a => by cases a <;> decide) (by decide)

theorem LayoutStyle.ofName?_iff {s : String} {style : LayoutStyle} :
    ofName? s = some style ↔ s = style.name :=
  find_name_iff (fun a => by cases a <;> decide) (by decide)

theorem ChangeKind.ofName?_iff {s : String} {kind : ChangeKind} :
    ofName? s = some kind ↔ s = kind.name :=
  find_name_iff (fun a => by cases a <;> decide) (by decide)

namespace Plan

theorem word?_iff {v : Value} {s : String} : word? v = some s ↔ v = .text s := by
  cases v <;> simp [word?]

theorem filledText?_iff {v : Value} {trimmed : List Text.Code} :
    filledText? v = some trimmed ↔
      ∃ codes, v.text? = some codes ∧ Text.trim codes ≠ [] ∧ Text.trim codes = trimmed := by
  rw [filledText?]
  cases v.text? with
  | none => simp
  | some codes => by_cases blank : Text.trim codes = [] <;> simp [blank]

theorem word_iff {α : Type} {ofName? : String → Option α} {name : α → String}
    (named : ∀ {s a}, ofName? s = some a ↔ s = name a) {v : Value} {a : α} :
    (word? v).bind ofName? = some a ↔ v = .text (name a) := by
  rw [Option.bind_eq_some_iff]
  constructor
  · rintro ⟨s, text, found⟩
    rw [word?_iff.mp text, named.mp found]
  · intro same
    exact ⟨name a, word?_iff.mpr same, named.mpr rfl⟩

/-- The items of the `children` of a raw node, if they are a list. -/
def rawChildren? (raw : Value) : Option (List Value) :=
  match raw.get "children" with
  | .list items => some items
  | _ => none

/-- The own checks of a raw node: an object with an id that is not blank, well-formed or not, and a kind
of the vocabulary. -/
structure Sound (raw : Value) : Prop where
  isObject : raw.isObject
  id : ∃ codes, (raw.get "id").text? = some codes ∧ Text.trim codes ≠ []
  kind : ∃ kind : Kind, raw.get "kind" = .text kind.name

/-- A raw node whose own checks hold, and those of all raw nodes below it. -/
inductive IsNode : Value → Prop
  | node {raw : Value} (own : Sound raw)
      (below : ∀ items, rawChildren? raw = some items → ∀ child ∈ items, IsNode child) :
      IsNode raw

def HasStyle (raw : Value) : Prop :=
  ∃ style : LayoutStyle, (raw.get "layout").get "layoutStyle" = .text style.name

structure IsPlan (raw : Value) : Prop where
  isObject : raw.isObject
  layout : (raw.get "layout").isObject
  style : HasStyle raw
  root : IsNode (raw.get "root")

mutual

/-- The node that a raw node stands for: its id trimmed, its kind, its props in their order, and
children if and only if the raw node has a list of them. -/
inductive Corresponds : Value → Node → Prop
  | node {raw : Value} {codes : List Text.Code} {id : String} {kind : Kind} {props : Members}
      {children : Option (List Node)} (text : (raw.get "id").text? = some codes)
      (trimmed : Text.codes id = Text.trim codes) (kindIs : raw.get "kind" = .text kind.name)
      (propsAre : raw.get "props" = .object props ∨
        (raw.get "props").isObject = false ∧ props = [])
      (below : ChildrenCorrespond (rawChildren? raw) children) :
      Corresponds raw (.mk id (.known kind) props children)

inductive ChildrenCorrespond : Option (List Value) → Option (List Node) → Prop
  | absent : ChildrenCorrespond none none
  | present {items : List Value} {nodes : List Node} (each : CorrespondInOrder items nodes) :
      ChildrenCorrespond (some items) (some nodes)

inductive CorrespondInOrder : List Value → List Node → Prop
  | nil : CorrespondInOrder [] []
  | cons {raw : Value} {n : Node} {items : List Value} {nodes : List Node}
      (head : Corresponds raw n) (tail : CorrespondInOrder items nodes) :
      CorrespondInOrder (raw :: items) (n :: nodes)

end

mutual

/-- The raw nodes of a tree in pre-order, each with the indices of children that lead to it. -/
def rawNodes : Value → List (List Nat × Value)
  | .object members => ([], .object members) :: rawBelow members
  | raw => [([], raw)]

def rawBelow : Members → List (List Nat × Value)
  | [] => []
  | (key, v) :: rest =>
    if key = .text "children" then
      match v with
      | .list items => rawSiblings 0 items
      | _ => []
    else rawBelow rest

def rawSiblings (i : Nat) : List Value → List (List Nat × Value)
  | [] => []
  | raw :: rest => (rawNodes raw).map (fun n => (i :: n.1, n.2)) ++ rawSiblings (i + 1) rest

end

/-- The raw node that indices of children lead to. -/
def follow : List Nat → Value → Option Value
  | [], raw => some raw
  | i :: way, raw => ((rawChildren? raw).bind fun items => items[i]?).bind (follow way)

def wayText (way : List Nat) : String :=
  "root" ++ String.join (way.map fun i => ".children[" ++ toString i ++ "]")

/-- The place of the first thing wrong with a raw plan: the plan itself, its layout, the style of
the layout, and then the raw nodes in pre-order. -/
inductive FirstFault (raw : Value) : String → Prop
  | plan (noObject : raw.isObject = false) : FirstFault raw "plan"
  | layout (isObject : raw.isObject) (noObject : (raw.get "layout").isObject = false) :
      FirstFault raw "layout"
  | style (isObject : raw.isObject) (layout : (raw.get "layout").isObject)
      (noStyle : ¬ HasStyle raw) : FirstFault raw "layout.layoutStyle"
  | node {before after : List (List Nat × Value)} {way : List Nat} {offender : Value}
      (isObject : raw.isObject) (layout : (raw.get "layout").isObject) (style : HasStyle raw)
      (nodes : rawNodes (raw.get "root") = before ++ (way, offender) :: after)
      (sound : ∀ n ∈ before, Sound n.2) (unsound : ¬ Sound offender)
      (place : follow way (raw.get "root") = some offender) :
      FirstFault raw (wayText way)

end Plan

end InterfacePlan
