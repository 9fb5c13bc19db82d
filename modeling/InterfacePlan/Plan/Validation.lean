import InterfacePlan.Plan.Basic
import InterfacePlan.Schema.Issue
import InterfacePlan.Text.Blank

set_option autoImplicit false

namespace InterfacePlan

/-- The way to a node: a starting point and indices of children, the innermost first. -/
structure NodePath where
  start : String
  indices : List Nat := []
  deriving DecidableEq

namespace NodePath

def child (path : NodePath) (i : Nat) : NodePath :=
  { path with indices := i :: path.indices }

def text (path : NodePath) : String :=
  path.start ++ String.join (path.indices.reverse.map fun i => ".children[" ++ toString i ++ "]")

end NodePath

inductive Violation where
  | planNotObject
  | layoutNotObject
  | layoutStyle
  | nodeNotObject (path : NodePath)
  | nodeId (path : NodePath)
  | nodeKind (path : NodePath) (shown : List Text.Code)
  deriving DecidableEq

namespace Violation

def path : Violation → String
  | .planNotObject => "plan"
  | .layoutNotObject => "layout"
  | .layoutStyle => "layout.layoutStyle"
  | .nodeNotObject path | .nodeId path | .nodeKind path _ => path.text

def message : Violation → List Text.Code
  | .planNotObject => Text.codes "UiPlan must be an object"
  | .layoutNotObject => Text.codes "UiPlan.layout must be an object"
  | .layoutStyle =>
    Text.codes ("UiPlan.layout.layoutStyle must be one of "
      ++ String.intercalate "|" (LayoutStyle.all.map LayoutStyle.name))
  | .nodeNotObject path => Text.codes ("UiNode at " ++ path.text ++ " must be an object")
  | .nodeId path => Text.codes ("UiNode at " ++ path.text ++ " is missing a valid id")
  | .nodeKind path shown =>
    Text.codes ("UiNode at " ++ path.text ++ " has unsupported kind \"") ++ shown ++ Text.codes "\""

end Violation

/-- Why a raw value gave no plan. Props whose keys are not text and an id of ill-formed text are no
violations of the plan grammar: the node that is to hold them refuses them with the issues it has. -/
inductive PlanError where
  | violation (v : Violation)
  | unreadable (issues : List Schema.Issue)
  deriving DecidableEq

namespace Plan

def word? : Value → Option String
  | .text s => some s
  | _ => none

def bool? : Value → Option Bool
  | .bool b => some b
  | _ => none

/-- Text that is not blank, trimmed. -/
def filledText? (v : Value) : Option (List Text.Code) :=
  match v.text? with
  | none => none
  | some codes => if Text.trim codes = [] then none else some (Text.trim codes)

def readLayout (raw : Value) : Except Violation Layout :=
  if raw.isObject then
    match (word? (raw.get "layoutStyle")).bind LayoutStyle.ofName? with
    | none => .error .layoutStyle
    | some style =>
      .ok ⟨style, bool? (raw.get "hasSidebar"), bool? (raw.get "hasNavbar")⟩
  else .error .layoutNotObject

def readId? (raw : Value) : Option (List Text.Code) :=
  filledText? (raw.get "id")

def readKind? (raw : Value) : Option Kind :=
  (word? (raw.get "kind")).bind Kind.ofName?

def readProps (raw : Value) : Members :=
  match raw.get "props" with
  | .object members => members
  | _ => []

/-- A node of checked parts. It looks at its id and its props once more: the id must be well-formed, and
the props must be a record. -/
def buildNode (id : List Text.Code) (kind : Kind) (props : Members)
    (children : Option (List Node)) : Except PlanError Node :=
  ((Schema.Checked.ap (.ok fun id props => .mk id (.known kind) props children)
    ((Schema.nonEmptyString (.ofCodes id)).under (.name "id"))).ap
      ((Schema.record (.object props)).under (.name "props"))).mapError .unreadable

mutual

/-- A node and all nodes below it. A node's own checks come before those of its children. -/
def readNode (path : NodePath) : Value → Except PlanError Node
  | .object members =>
    match readId? (.object members) with
    | none => .error (.violation (.nodeId path))
    | some id =>
      match readKind? (.object members) with
      | none => .error (.violation (.nodeKind path ((Value.object members).get "kind").plain))
      | some kind =>
        match readChildren path members with
        | .error e => .error e
        | .ok children => buildNode id kind (readProps (.object members)) children
  | _ => .error (.violation (.nodeNotObject path))

def readChildren (path : NodePath) : Members → Except PlanError (Option (List Node))
  | [] => .ok none
  | (key, v) :: rest =>
    if key = .text "children" then
      match v with
      | .list items => (readNodes path 0 items).map some
      | _ => .ok none
    else readChildren path rest

def readNodes (path : NodePath) (i : Nat) : List Value → Except PlanError (List Node)
  | [] => .ok []
  | v :: rest =>
    match readNode (path.child i) v with
    | .error e => .error e
    | .ok n => (readNodes path (i + 1) rest).map (n :: ·)

end

/-- An entry of the change log, unless it is malformed. -/
def readChange? (raw : Value) : Option Change :=
  match (word? (raw.get "kind")).bind ChangeKind.ofName?, filledText? (raw.get "description") with
  | some kind, some description => some ⟨kind, description, (raw.get "targetId").text?⟩
  | _, _ => none

def readChanges : Value → Option (List Change)
  | .list entries => some (entries.filterMap readChange?)
  | _ => none

/-- The plan that a raw value is, or the first reason why it is none. Layout and nodes are read strictly;
the summary, the change log and the flags of the layout are advice, of which the malformed is dropped. -/
def validate (raw : Value) : Except PlanError Plan :=
  if raw.isObject then
    match readLayout (raw.get "layout") with
    | .error v => .error (.violation v)
    | .ok layout =>
      match readNode ⟨"root", []⟩ (raw.get "root") with
      | .error e => .error e
      | .ok root =>
        .ok ⟨(raw.get "summary").text?.getD [], layout, root, readChanges (raw.get "changes")⟩
  else .error (.violation .planNotObject)

/-- The outcome of validation as a value: a plan, or the violation that was found. What a node refuses is
neither. -/
def validateResult (raw : Value) : Except (List Schema.Issue) (Except Violation Plan) :=
  match validate raw with
  | .ok plan => .ok (.ok plan)
  | .error (.violation v) => .ok (.error v)
  | .error (.unreadable issues) => .error issues

/-- A plan that is given in place of a raw value is read again from its wire form. -/
def revalidate (plan : Plan) : Except PlanError Plan :=
  validate plan.toWire

end Plan

end InterfacePlan
