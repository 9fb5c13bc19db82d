import InterfacePlan.Proofs.Plan.Reading
import InterfacePlan.Proofs.Json.Objects

set_option autoImplicit false

namespace InterfacePlan.Plan

/-- A raw node with an id of ill-formed text, or with props that have a key which is no text. -/
def Refused (raw : Value) : Prop :=
  (∃ codes, (raw.get "id").text? = some codes ∧ Text.wellFormed? codes = none) ∨
    ∃ props, raw.get "props" = .object props ∧ ∃ m ∈ props, m.1.isName = false

def idIssues (raw : Value) : List Schema.Issue :=
  match (raw.get "id").text? with
  | none => []
  | some codes =>
    if Text.wellFormed? codes = none then [⟨[.name "id"], .stringIllFormed⟩] else []

/-- The issues of a raw node: that of its id, then one for each key of its props that is no text. -/
def refusal (raw : Value) : List Schema.Issue :=
  idIssues raw ++ (Schema.keyIssues (readProps raw)).map fun issue =>
    { issue with location := .name "props" :: issue.location }

theorem keyIssues_eq_nil_iff {members : Members} :
    Schema.keyIssues members = [] ↔ ∀ m ∈ members, m.1.isName := by
  rw [Schema.keyIssues, List.filterMap_eq_nil_iff]
  refine forall₂_congr ?_
  rintro ⟨key, v⟩ -
  cases key <;> simp [Key.isName]

theorem idIssues_eq_nil_iff {raw : Value} :
    idIssues raw = [] ↔
      ¬ ∃ codes, (raw.get "id").text? = some codes ∧ Text.wellFormed? codes = none := by
  rw [idIssues]
  cases (raw.get "id").text? <;> simp

theorem refusal_eq_nil_iff {raw : Value} : refusal raw = [] ↔ ¬ Refused raw := by
  have props : Schema.keyIssues (readProps raw) = [] ↔
      ¬ ∃ props, raw.get "props" = .object props ∧ ∃ m ∈ props, m.1.isName = false := by
    rw [keyIssues_eq_nil_iff]
    rcases readProps_are raw with same | ⟨noObject, empty⟩
    · simp [same]
    · rw [empty]
      refine iff_of_true (fun m inside => nomatch inside) ?_
      rintro ⟨members, same, -⟩
      rw [same] at noObject
      cases noObject
  rw [refusal, List.append_eq_nil_iff, List.map_eq_nil_iff, idIssues_eq_nil_iff, props, Refused, not_or]

theorem nonEmptyString_trim {codes : List Text.Code} (filled : Text.trim codes ≠ []) :
    (∃ s, Schema.nonEmptyString (.ofCodes (Text.trim codes)) = .ok s ∧
        Text.wellFormed? codes ≠ none) ∨
      Schema.nonEmptyString (.ofCodes (Text.trim codes)) = .fail .stringIllFormed ∧
        Text.wellFormed? codes = none := by
  rw [ne_eq, ← Text.wellFormed?_trim_eq_none_iff]
  cases made : Text.wellFormed? (Text.trim codes) with
  | none =>
      refine .inr ⟨?_, rfl⟩
      rw [Schema.nonEmptyString, Schema.constrained, Schema.string_eq_ok_iff.mpr (Value.text?_ofCodes _)]
      simp only [made]
  | some s =>
      have same := Text.wellFormed?_eq_some_iff.mp made
      refine .inl ⟨s, Schema.nonEmptyString_eq_ok_iff.mpr ⟨?_, ?_⟩, Option.some_ne_none s⟩
      · rw [Value.text?_ofCodes, same]
      · rintro rfl
        exact filled same

theorem exists_buildNode {raw : Value} {codes : List Text.Code}
    (text : (raw.get "id").text? = some codes) (filled : Text.trim codes ≠ []) (kind : Kind)
    (children : Option (List Node)) :
    ∃ n, buildNode (Text.trim codes) kind (readProps raw) children =
      if refusal raw = [] then .ok n else .error (.unreadable (refusal raw)) := by
  rw [refusal, idIssues, text, buildNode, Schema.record]
  rcases nonEmptyString_trim filled with ⟨s, given, made⟩ | ⟨given, unmade⟩
  · simp only [given, if_neg made]
    cases Schema.keyIssues (readProps raw) with
    | nil => exact ⟨_, rfl⟩
    | cons first rest => exact ⟨.mk s (.known kind) [] none, rfl⟩
  · simp only [given, if_pos unmade]
    cases Schema.keyIssues (readProps raw) <;> exact ⟨.mk "" (.known kind) [] none, rfl⟩

/-- A raw node that gives a node: its own checks hold, nothing of it is refused, and its children give
nodes. -/
inductive Builds : Value → Prop
  | node {raw : Value} (own : Sound raw) (kept : ¬ Refused raw)
      (below : ∀ items, rawChildren? raw = some items → ∀ child ∈ items, Builds child) : Builds raw

/-- A raw node from which issues escape: its own checks hold, and it is refused after all of its children
were built, or issues escape from one of them after those before it were built. -/
inductive Escapes : Value → List Schema.Issue → Prop
  | here {raw : Value} (own : Sound raw) (refused : Refused raw)
      (built : ∀ items, rawChildren? raw = some items → ∀ child ∈ items, Builds child) :
      Escapes raw (refusal raw)
  | further {raw child : Value} {before after : List Value} {issues : List Schema.Issue}
      (own : Sound raw) (children : rawChildren? raw = some (before ++ child :: after))
      (built : ∀ other ∈ before, Builds other) (escapes : Escapes child issues) :
      Escapes raw issues

/-- What reading comes to when it does not end with a violation. -/
structure Ends {α : Type} (result : Except PlanError α) (builds : Prop)
    (escapes : List Schema.Issue → Prop) : Prop where
  ok_iff : (∃ a, result = .ok a) ↔ builds
  unreadable_iff : ∀ issues, result = .error (.unreadable issues) ↔ escapes issues

theorem buildNode_ends {raw : Value} {codes : List Text.Code}
    (text : (raw.get "id").text? = some codes) (filled : Text.trim codes ≠ []) (kind : Kind)
    (children : Option (List Node)) :
    Ends (buildNode (Text.trim codes) kind (readProps raw) children) (refusal raw = [])
      fun issues => refusal raw ≠ [] ∧ refusal raw = issues := by
  obtain ⟨n, built⟩ := exists_buildNode text filled kind children
  rw [built]
  by_cases none : refusal raw = [] <;> constructor <;> simp [none]

/-- Whether an element follows elements of another kind only, from the first element on. -/
theorem exists_after_cons {α : Type} {earlier here : α → Prop} {first : α} {rest : List α} :
    (∃ before x after, first :: rest = before ++ x :: after ∧ (∀ y ∈ before, earlier y) ∧ here x) ↔
      here first ∨ earlier first ∧
        ∃ before x after, rest = before ++ x :: after ∧ (∀ y ∈ before, earlier y) ∧ here x := by
  constructor
  · rintro ⟨before, x, after, split, all, holds⟩
    rcases List.cons_eq_append_iff.mp split with ⟨rfl, same⟩ | ⟨before, rfl, rfl⟩
    · cases same
      exact .inl holds
    · rw [List.forall_mem_cons] at all
      exact .inr ⟨all.1, before, x, after, rfl, all.2, holds⟩
  · rintro (holds | ⟨first_earlier, before, x, after, rfl, all, holds⟩)
    · exact ⟨[], first, rest, rfl, (fun y inside => nomatch inside), holds⟩
    · exact ⟨first :: before, x, after, rfl, List.forall_mem_cons.mpr ⟨first_earlier, all⟩, holds⟩

/-- Siblings are read one after the other, until one of them ends the reading. -/
theorem readNodes_ends {items : List Value} (path : NodePath) (i : Nat)
    (each : ∀ child ∈ items, ∀ path, Ends (readNode path child) (Builds child) (Escapes child)) :
    Ends (readNodes path i items) (∀ child ∈ items, Builds child) fun issues =>
      ∃ before child after, items = before ++ child :: after ∧ (∀ other ∈ before, Builds other) ∧
        Escapes child issues := by
  induction items generalizing i with
  | nil =>
      refine ⟨iff_of_true ⟨[], rfl⟩ (fun child inside => nomatch inside), ?_⟩
      intro issues
      refine iff_of_false (fun error => nomatch error) ?_
      rintro ⟨before, child, after, split, -⟩
      exact List.append_ne_nil_of_right_ne_nil before (List.cons_ne_nil child after) split.symm
  | cons first rest ih =>
      have head := each first List.mem_cons_self (path.child i)
      have tail := ih (i + 1) fun child inside => each child (List.mem_cons_of_mem first inside)
      rw [List.forall_mem_cons, readNodes]
      simp only [exists_after_cons, ← tail.ok_iff, ← tail.unreadable_iff, ← head.ok_iff,
        ← head.unreadable_iff]
      cases readNode (path.child i) first with
      | ok n => cases readNodes path (i + 1) rest <;> constructor <;> simp [Except.map]
      | error e => constructor <;> simp

theorem builds_iff {raw : Value} (own : Sound raw) :
    Builds raw ↔ refusal raw = [] ∧
      ∀ items, rawChildren? raw = some items → ∀ child ∈ items, Builds child := by
  rw [refusal_eq_nil_iff]
  constructor
  · rintro ⟨-, kept, below⟩
    exact ⟨kept, below⟩
  · rintro ⟨kept, below⟩
    exact ⟨own, kept, below⟩

theorem escapes_iff {raw : Value} (own : Sound raw) (issues : List Schema.Issue) :
    Escapes raw issues ↔
      ((∀ items, rawChildren? raw = some items → ∀ child ∈ items, Builds child) ∧
        refusal raw ≠ [] ∧ refusal raw = issues) ∨
      ∃ before child after, rawChildren? raw = some (before ++ child :: after) ∧
        (∀ other ∈ before, Builds other) ∧ Escapes child issues := by
  rw [ne_eq, refusal_eq_nil_iff, not_not]
  constructor
  · intro escapes
    cases escapes with
    | here _ refused built => exact .inl ⟨built, refused, rfl⟩
    | further _ children built escapes => exact .inr ⟨_, _, _, children, built, escapes⟩
  · rintro (⟨built, refused, rfl⟩ | ⟨before, child, after, children, built, escapes⟩)
    · exact .here own refused built
    · exact .further own children built escapes

theorem readNode_of_own {raw : Value} (own : Sound raw) (path : NodePath) :
    ∃ build : Option (List Node) → Except PlanError Node,
      (∀ children, Ends (build children) (refusal raw = [])
        fun issues => refusal raw ≠ [] ∧ refusal raw = issues) ∧
      readNode path raw = around build ((rawChildren? raw).map (readNodes path 0)) := by
  obtain ⟨id, kind, idRead, -, read⟩ := readNode_of_sound own path
  obtain ⟨codes, text, filled, rfl⟩ := readId?_iff.mp idRead
  exact ⟨_, buildNode_ends text filled kind, read⟩

theorem readNode_of_not_sound {raw : Value} (fails : ¬ Sound raw) (path : NodePath) :
    ∃ v, readNode path raw = .error (.violation v) := by
  cases fault : ownFault? path raw with
  | none => exact absurd (ownFault?_eq_none_iff.mp fault) fails
  | some v => exact ⟨v, readNode_of_ownFault? fault⟩

/-- A tree gives nodes if each raw node does, and else it ends with a violation or with the issues that
escape from the first raw node that has some. -/
theorem readNode_ends (raw : Value) (path : NodePath) :
    Ends (readNode path raw) (Builds raw) (Escapes raw) := by
  induction raw using rawTree_induction generalizing path with
  | step raw ih =>
      by_cases own : Sound raw
      · obtain ⟨build, built, read⟩ := readNode_of_own own path
        rw [read]
        -- A node is built after its children, so that what escapes from one of them comes first.
        cases children : rawChildren? raw with
        | none =>
            have whole := built none
            change Ends (build none) _ _
            constructor
            · rw [builds_iff own, whole.ok_iff, children]
              simp
            · intro issues
              rw [escapes_iff own, whole.unreadable_iff, children]
              simp
        | some items =>
            have among := readNodes_ends path 0 fun child inside => ih items children child inside
            constructor
            · rw [builds_iff own, children]
              simp only [Option.map_some, Option.some.injEq, forall_eq', ← among.ok_iff]
              cases readNodes path 0 items with
              | ok nodes => simp [around, (built (some nodes)).ok_iff]
              | error e => simp [around]
            · intro issues
              rw [escapes_iff own, children]
              simp only [Option.map_some, Option.some.injEq, forall_eq', ← among.ok_iff,
                ← among.unreadable_iff]
              cases readNodes path 0 items with
              | ok nodes => simp [around, (built (some nodes)).unreadable_iff]
              | error e => simp [around]
      · obtain ⟨v, read⟩ := readNode_of_not_sound own path
        rw [read]
        constructor
        · refine iff_of_false (fun ⟨n, error⟩ => nomatch error) ?_
          rintro ⟨sound, -, -⟩
          exact own sound
        · intro issues
          refine iff_of_false (fun error => nomatch error) ?_
          intro escapes
          cases escapes with
          | here sound | further sound => exact own sound

/-- What is checked of a raw plan before its tree. -/
structure Framed (raw : Value) : Prop where
  isObject : raw.isObject
  layout : (raw.get "layout").isObject
  style : HasStyle raw

theorem validate_of_not_framed {raw : Value} (unframed : ¬ Framed raw) :
    ∃ v, validate raw = .error (.violation v) := by
  rw [validate]
  cases isObject : raw.isObject with
  | false => exact ⟨_, rfl⟩
  | true =>
      cases layout : (raw.get "layout").isObject with
      | false => exact ⟨_, by rw [readLayout, layout]; rfl⟩
      | true =>
          have noStyle : ¬ HasStyle raw := fun style => unframed ⟨isObject, layout, style⟩
          exact ⟨_, by rw [readLayout_of_no_style layout noStyle]; rfl⟩

theorem validate_ends (raw : Value) :
    Ends (validate raw) (Framed raw ∧ Builds (raw.get "root"))
      fun issues => Framed raw ∧ Escapes (raw.get "root") issues := by
  by_cases framed : Framed raw
  · have tree := readNode_ends (raw.get "root") ⟨"root", []⟩
    obtain ⟨style, styleIs⟩ := framed.style
    rw [validate, if_pos framed.isObject, readLayout_of_style framed.layout styleIs]
    simp only [framed, true_and, ← tree.ok_iff, ← tree.unreadable_iff]
    cases readNode ⟨"root", []⟩ (raw.get "root") <;> constructor <;> simp
  · obtain ⟨v, refused⟩ := validate_of_not_framed framed
    rw [refused]
    constructor <;> simp [framed]

theorem validateResult_eq_error_iff {raw : Value} {issues : List Schema.Issue} :
    validateResult raw = .error issues ↔ validate raw = .error (.unreadable issues) := by
  rw [validateResult]
  cases validate raw with
  | ok plan => simp
  | error e => cases e <;> simp

theorem Escapes.exists_refused {raw : Value} {issues : List Schema.Issue}
    (escapes : Escapes raw issues) : ∃ n ∈ rawNodes raw, Refused n.2 ∧ issues = refusal n.2 := by
  induction escapes with
  | @here raw own refused built =>
      rw [rawNodes_eq]
      exact ⟨([], raw), List.mem_cons_self, refused, rfl⟩
  | @further raw child before after issues own children built escapes ih =>
      obtain ⟨n, inside, refused, same⟩ := ih
      refine ⟨((0 + before.length) :: n.1, n.2), ?_, refused, same⟩
      have place : (before ++ child :: after)[before.length]? = some child := by
        rw [List.getElem?_append_right (Nat.le_refl _), Nat.sub_self, List.getElem?_cons_zero]
      rw [rawNodes_eq, children, Option.elim_some, List.mem_cons, mem_rawSiblings]
      exact .inr ⟨before.length, child, n, place, inside, rfl⟩

theorem not_refused_of_isJson {numbers : Json.Numbers} {raw : Value} (json : raw.isJson numbers) :
    ¬ Refused raw := by
  rintro (⟨codes, text, unmade⟩ | ⟨props, isProps, m, inside, noName⟩)
  · obtain ⟨s, -, rfl⟩ := Value.eq_text_of_isJson (Value.isJson_get json "id") text
    rw [Text.wellFormed?_eq_some_iff.mpr rfl] at unmade
    cases unmade
  · have record := Value.isJson_get json "props"
    rw [isProps] at record
    have keys := Value.membersAreJson_iff.mp (Value.isJson_object.mp record).2
    obtain ⟨s, key⟩ := (keys m inside).1
    rw [key] at noName
    cases noName

theorem kept_of_isJson {numbers : Json.Numbers} {raw : Value} (json : raw.isJson numbers) :
    ∀ n ∈ rawNodes (raw.get "root"), ¬ Refused n.2 :=
  fun n inside =>
    not_refused_of_isJson (isJson_of_mem_rawNodes (Value.isJson_get json "root") n inside)

/-- Props with a number as a key. -/
example : validateResult (.object
    [(.text "layout", .object [(.text "layoutStyle", .text "custom")]),
      (.text "root", .object
        [(.text "id", .text "r"), (.text "kind", .text "page"),
          (.text "props", .object [(.int 1, .int 2)])])]) =
    .error [⟨[.name "props", .name "1", .name "[key]"], .stringType⟩] := by
  rfl

end InterfacePlan.Plan
