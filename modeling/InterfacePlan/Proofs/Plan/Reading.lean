import InterfacePlan.Proofs.Plan.Tree
import InterfacePlan.Proofs.Results

set_option autoImplicit false

namespace InterfacePlan

namespace NodePath

def descend (path : NodePath) (way : List Nat) : NodePath :=
  way.foldl child path

@[simp] theorem descend_nil (path : NodePath) : path.descend [] = path := rfl

@[simp] theorem descend_cons (path : NodePath) (i : Nat) (way : List Nat) :
    path.descend (i :: way) = (path.child i).descend way := rfl

theorem descend_eq (path : NodePath) (way : List Nat) :
    path.descend way = ⟨path.start, way.reverse ++ path.indices⟩ := by
  induction way generalizing path with
  | nil => rfl
  | cons i way ih =>
      rw [descend_cons, ih]
      simp only [child, List.reverse_cons, List.append_assoc, List.singleton_append]

end NodePath

namespace Plan

theorem text_descend (way : List Nat) :
    (NodePath.descend ⟨"root", []⟩ way).text = wayText way := by
  rw [NodePath.descend_eq, NodePath.text, wayText, List.append_nil, List.reverse_reverse]

theorem readId?_iff {raw : Value} {id : List Text.Code} :
    readId? raw = some id ↔
      ∃ codes, (raw.get "id").text? = some codes ∧ Text.trim codes ≠ [] ∧ Text.trim codes = id :=
  filledText?_iff

theorem exists_readId?_iff {raw : Value} :
    (∃ id, readId? raw = some id) ↔
      ∃ codes, (raw.get "id").text? = some codes ∧ Text.trim codes ≠ [] := by
  simp only [readId?_iff]
  constructor
  · rintro ⟨id, codes, text, filled, -⟩
    exact ⟨codes, text, filled⟩
  · rintro ⟨codes, text, filled⟩
    exact ⟨_, codes, text, filled, rfl⟩

theorem readKind?_iff {raw : Value} {kind : Kind} :
    readKind? raw = some kind ↔ raw.get "kind" = .text kind.name :=
  word_iff Kind.ofName?_iff

theorem readProps_are (raw : Value) :
    raw.get "props" = .object (readProps raw) ∨
      (raw.get "props").isObject = false ∧ readProps raw = [] := by
  rw [readProps]
  cases raw.get "props" <;> simp [Value.isObject]

/-- What the own checks of a raw node find. -/
def ownFault? (path : NodePath) (raw : Value) : Option Violation :=
  if raw.isObject then
    match readId? raw, readKind? raw with
    | none, _ => some (.nodeId path)
    | some _, none => some (.nodeKind path (raw.get "kind").plain)
    | some _, some _ => none
  else some (.nodeNotObject path)

theorem ownFault?_eq_none_iff {path : NodePath} {raw : Value} :
    ownFault? path raw = none ↔ Sound raw := by
  rw [ownFault?]
  constructor
  · intro none
    split at none
    · rename_i isObject
      split at none
      · cases none
      · cases none
      · rename_i id kind idRead kindRead
        exact ⟨isObject, exists_readId?_iff.mp ⟨id, idRead⟩, ⟨kind, readKind?_iff.mp kindRead⟩⟩
    · cases none
  · rintro ⟨isObject, id, ⟨kind, kindIs⟩⟩
    obtain ⟨id, idRead⟩ := exists_readId?_iff.mpr id
    simp only [isObject, idRead, readKind?_iff.mpr kindIs, ↓reduceIte]

theorem path_of_ownFault? {path : NodePath} {raw : Value} {v : Violation}
    (fault : ownFault? path raw = some v) : v.path = path.text := by
  rw [ownFault?] at fault
  split at fault
  · split at fault <;> cases fault <;> rfl
  · cases fault
    rfl

/-- What the own checks find first along raw nodes. -/
def firstFault? (path : NodePath) (nodes : List (List Nat × Value)) : Option Violation :=
  nodes.findSome? fun n => ownFault? (path.descend n.1) n.2

theorem firstFault?_cons (path : NodePath) (raw : Value) (rest : List (List Nat × Value)) :
    firstFault? path (([], raw) :: rest) = (ownFault? path raw).or (firstFault? path rest) := by
  rw [firstFault?, List.findSome?_cons, NodePath.descend_nil]
  cases ownFault? path raw <;> rfl

theorem firstFault?_siblings (path : NodePath) (i : Nat) (raw : Value) (rest : List Value) :
    firstFault? path (rawSiblings i (raw :: rest)) =
      (firstFault? (path.child i) (rawNodes raw)).or
        (firstFault? path (rawSiblings (i + 1) rest)) := by
  rw [rawSiblings, firstFault?, List.findSome?_append, List.findSome?_map]
  rfl

theorem readChildren_of_ne {key : Key} (other : key ≠ .text "children") (path : NodePath)
    (v : Value) (rest : Members) :
    readChildren path ((key, v) :: rest) = readChildren path rest := by
  cases v <;> simp only [readChildren, other, ↓reduceIte]

theorem readChildren_eq (path : NodePath) (members : Members) :
    readChildren path members =
      match rawChildren? (.object members) with
      | none => .ok none
      | some items => (readNodes path 0 items).map some := by
  induction members with
  | nil => rfl
  | cons m rest ih =>
      obtain ⟨key, v⟩ := m
      rw [rawChildren?_cons]
      by_cases here : key = .text "children"
      · subst here
        cases v <;> rfl
      · rw [readChildren_of_ne here, if_neg here, ih]

/-- What comes of the children, if there are any: they end the reading, or a node is built around them. -/
def around (build : Option (List Node) → Except PlanError Node) :
    Option (Except PlanError (List Node)) → Except PlanError Node
  | none => build none
  | some (.error e) => .error e
  | some (.ok nodes) => build (some nodes)

/-- A node is read by what its members of certain names are. -/
theorem readNode_eq (path : NodePath) (raw : Value) :
    readNode path raw =
      if raw.isObject then
        match readId? raw with
        | none => .error (.violation (.nodeId path))
        | some id =>
          match readKind? raw with
          | none => .error (.violation (.nodeKind path (raw.get "kind").plain))
          | some kind =>
            around (buildNode id kind (readProps raw)) ((rawChildren? raw).map (readNodes path 0))
      else .error (.violation (.nodeNotObject path)) := by
  cases raw with
  | object members =>
      rw [readNode, readChildren_eq]
      cases readId? (.object members) with
      | none => rfl
      | some id =>
          cases readKind? (.object members) with
          | none => rfl
          | some kind =>
              cases rawChildren? (.object members) with
              | none => rfl
              | some items =>
                  simp only [Value.isObject, ↓reduceIte, Option.map_some]
                  cases readNodes path 0 items <;> rfl
  | _ => rfl

theorem readNode_of_ownFault? {path : NodePath} {raw : Value} {v : Violation}
    (fault : ownFault? path raw = some v) : readNode path raw = .error (.violation v) := by
  rw [ownFault?] at fault
  rw [readNode_eq]
  split at fault
  · rename_i isObject
    rw [if_pos isObject]
    split at fault
    · rename_i noId
      cases fault
      rw [noId]
    · rename_i idRead noKind
      cases fault
      rw [idRead, noKind]
    · cases fault
  · rename_i noObject
    cases fault
    rw [if_neg noObject]

theorem buildNode_eq_ok_iff {id : List Text.Code} {kind : Kind} {props : Members}
    {children : Option (List Node)} {n : Node} :
    buildNode id kind props children = .ok n ↔
      ∃ s, id = Text.codes s ∧ s ≠ "" ∧ Schema.record (.object props) = .ok props ∧
        n = .mk s (.known kind) props children := by
  constructor
  · intro built
    have parts := ok_of_mapError built
    rw [Schema.Checked.ap_eq_ok_iff] at parts
    obtain ⟨make, taken, first, second, rfl⟩ := parts
    rw [Schema.Checked.ap_eq_ok_iff] at first
    obtain ⟨whole, s, made, idIs, rfl⟩ := first
    cases made
    have record := Schema.Checked.under_eq_ok_iff.mp second
    obtain rfl := Schema.record_eq_ok record
    obtain ⟨text, nonempty⟩ :=
      Schema.nonEmptyString_eq_ok_iff.mp (Schema.Checked.under_eq_ok_iff.mp idIs)
    rw [Value.text?_ofCodes, Option.some.injEq] at text
    exact ⟨s, text, nonempty, record, rfl⟩
  · rintro ⟨s, rfl, nonempty, record, rfl⟩
    have id : Schema.nonEmptyString (.ofCodes (Text.codes s)) = .ok s :=
      Schema.nonEmptyString_eq_ok_iff.mpr ⟨Value.text?_ofCodes _, nonempty⟩
    rw [buildNode, id, record]
    rfl

/-- What a node refuses is no violation of the grammar. -/
theorem buildNode_ne_violation (id : List Text.Code) (kind : Kind) (props : Members)
    (children : Option (List Node)) (v : Violation) :
    buildNode id kind props children ≠ .error (.violation v) := by
  rw [buildNode]
  cases Schema.Checked.ap _ _ <;> exact fun same => nomatch same

theorem readNode_of_sound {raw : Value} (sound : Sound raw) (path : NodePath) :
    ∃ id kind, readId? raw = some id ∧ raw.get "kind" = .text (Kind.name kind) ∧
      readNode path raw =
        around (buildNode id kind (readProps raw)) ((rawChildren? raw).map (readNodes path 0)) := by
  obtain ⟨id, idRead⟩ := exists_readId?_iff.mpr sound.id
  obtain ⟨kind, kindIs⟩ := sound.kind
  refine ⟨id, kind, idRead, kindIs, ?_⟩
  rw [readNode_eq, if_pos sound.isObject, idRead, readKind?_iff.mpr kindIs]

/-- What a result says about the faults of what was read: one that is there was read of something
without faults, and a violation is the first fault. Other issues say nothing about them. -/
structure Tells {α : Type} (result : Except PlanError α) (fault : Option Violation)
    (good : α → Prop) : Prop where
  ok : ∀ a, result = .ok a → fault = none ∧ good a
  violation : ∀ v, result = .error (.violation v) → fault = some v

theorem readNodes_tells {items : List Value} (path : NodePath) (i : Nat)
    (each : ∀ child ∈ items, ∀ path,
      Tells (readNode path child) (firstFault? path (rawNodes child)) (Corresponds child)) :
    Tells (readNodes path i items) (firstFault? path (rawSiblings i items))
      (CorrespondInOrder items) := by
  induction items generalizing i with
  | nil =>
      refine ⟨?_, fun v none => nomatch none⟩
      rintro nodes ⟨⟩
      exact ⟨rfl, .nil⟩
  | cons raw rest ih =>
      have head := each raw List.mem_cons_self (path.child i)
      have tail := ih (i + 1) fun child inside => each child (List.mem_cons_of_mem raw inside)
      rw [firstFault?_siblings, readNodes]
      cases read : readNode (path.child i) raw with
      | error e =>
          constructor
          · rintro nodes ⟨⟩
          · rintro v ⟨⟩
            rw [head.violation v read, Option.some_or]
      | ok n =>
          obtain ⟨none, correspond⟩ := head.ok n read
          rw [none, Option.none_or]
          constructor
          · intro nodes all
            obtain ⟨others, readOthers, rfl⟩ := exists_of_map all
            obtain ⟨noneBehind, correspondOthers⟩ := tail.ok others readOthers
            exact ⟨noneBehind, .cons correspond correspondOthers⟩
          · intro v refused
            cases readOthers : readNodes path (i + 1) rest with
            | ok others =>
                rw [readOthers] at refused
                cases refused
            | error e =>
                rw [readOthers] at refused
                cases refused
                exact tail.violation v readOthers

/-- A node that is read corresponds to its raw node, and no raw node of the tree is at fault; a violation
is what the first of them in pre-order is at fault for. -/
theorem readNode_tells (raw : Value) (path : NodePath) :
    Tells (readNode path raw) (firstFault? path (rawNodes raw)) (Corresponds raw) := by
  induction raw using rawTree_induction generalizing path with
  | step raw ih =>
      rw [rawNodes_eq, firstFault?_cons]
      cases own : ownFault? path raw with
      | some v =>
          rw [readNode_of_ownFault? own]
          constructor
          · rintro n ⟨⟩
          · rintro w ⟨⟩
            rfl
      | none =>
          obtain ⟨id, kind, idRead, kindIs, read⟩ :=
            readNode_of_sound (ownFault?_eq_none_iff.mp own) path
          obtain ⟨codes, text, -, rfl⟩ := readId?_iff.mp idRead
          rw [read, Option.none_or]
          cases children : rawChildren? raw with
          | none =>
              refine ⟨?_, fun v refused => (buildNode_ne_violation _ _ _ _ v refused).elim⟩
              intro n built
              obtain ⟨s, same, -, -, rfl⟩ := buildNode_eq_ok_iff.mp built
              exact ⟨rfl, .node text same.symm kindIs (readProps_are raw) (children ▸ .absent)⟩
          | some items =>
              have among := readNodes_tells path 0 fun child inside => ih items children child inside
              rw [Option.map_some, Option.elim_some]
              cases readItems : readNodes path 0 items with
              | error e =>
                  constructor
                  · rintro n ⟨⟩
                  · rintro v ⟨⟩
                    exact among.violation v readItems
              | ok nodes =>
                  obtain ⟨none, correspond⟩ := among.ok nodes readItems
                  refine ⟨?_, fun v refused => (buildNode_ne_violation _ _ _ _ v refused).elim⟩
                  intro n built
                  obtain ⟨s, same, -, -, rfl⟩ := buildNode_eq_ok_iff.mp built
                  exact ⟨none,
                    .node text same.symm kindIs (readProps_are raw) (children ▸ .present correspond)⟩

/-- The first fault belongs to the first raw node in pre-order whose own checks fail, and names the
way to it. -/
theorem offender_of_firstFault? {raw : Value} {v : Violation}
    (fault : firstFault? ⟨"root", []⟩ (rawNodes raw) = some v) :
    ∃ before way offender after, rawNodes raw = before ++ (way, offender) :: after ∧
      (∀ n ∈ before, Sound n.2) ∧ ¬ Sound offender ∧ follow way raw = some offender ∧
      v.path = wayText way := by
  rw [firstFault?, List.findSome?_eq_some_iff] at fault
  obtain ⟨before, ⟨way, offender⟩, after, nodes, own, earlier⟩ := fault
  have here : (way, offender) ∈ rawNodes raw := by
    rw [nodes]
    exact List.mem_append_right before List.mem_cons_self
  refine ⟨before, way, offender, after, nodes, ?_, ?_, follow_of_mem _ here, ?_⟩
  · exact fun n inside => ownFault?_eq_none_iff.mp (earlier n inside)
  · intro sound
    rw [ownFault?_eq_none_iff.mpr sound] at own
    cases own
  · rw [path_of_ownFault? own, text_descend]

theorem readLayout_of_style {raw : Value} (isObject : raw.isObject) {style : LayoutStyle}
    (styleIs : raw.get "layoutStyle" = .text style.name) :
    readLayout raw =
      .ok ⟨style, bool? (raw.get "hasSidebar"), bool? (raw.get "hasNavbar")⟩ := by
  rw [readLayout, if_pos isObject, (word_iff LayoutStyle.ofName?_iff).mpr styleIs]

theorem readLayout_of_no_style {raw : Value} (isObject : raw.isObject)
    (noStyle : ¬ ∃ style : LayoutStyle, raw.get "layoutStyle" = .text style.name) :
    readLayout raw = .error .layoutStyle := by
  have unread : (word? (raw.get "layoutStyle")).bind LayoutStyle.ofName? = none := by
    rw [Option.eq_none_iff_forall_ne_some]
    intro style found
    exact noStyle ⟨style, (word_iff LayoutStyle.ofName?_iff).mp found⟩
  rw [readLayout, if_pos isObject, unread]

/-- A plan that was read, part by part. -/
structure ReadFrom (raw : Value) (plan : Plan) : Prop where
  isObject : raw.isObject
  layout : readLayout (raw.get "layout") = .ok plan.layout
  root : readNode ⟨"root", []⟩ (raw.get "root") = .ok plan.root
  summary : (raw.get "summary").text?.getD [] = plan.summary
  changes : readChanges (raw.get "changes") = plan.changes

theorem readFrom_of_validate {raw : Value} {plan : Plan} (read : validate raw = .ok plan) :
    ReadFrom raw plan := by
  rw [validate] at read
  split at read
  · rename_i isObject
    split at read
    · cases read
    · rename_i layout
      split at read
      · cases read
      · rename_i root
        cases read
        exact ⟨isObject, layout, root, rfl, rfl⟩
  · cases read

end Plan

end InterfacePlan
