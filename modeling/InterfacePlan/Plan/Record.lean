import InterfacePlan.Plan.Basic
import InterfacePlan.Schema.Lax

set_option autoImplicit false

namespace InterfacePlan

open Schema

def readWord {α : Type} (ofName? : String → Option α) : Value → Checked α
  | .text s => ofOption .enumeration (ofName? s)
  | _ => .fail .enumeration

namespace Node

def ofParts (id : String) (kind : Kind) (props : Members) (children : Option (List Node)) : Node :=
  .mk id (.known kind) props children

mutual

def ofRecord : Value → Checked Node
  | .object members =>
    (((Checked.ap (.ok ofParts) (required members ["id"] nonEmptyString)).ap
      (required members ["kind"] (readWord Kind.ofName?))).ap
      (optional [] members ["props"] record)).ap
      (ofChildren members)
  | _ => .fail .modelType

def ofChildren : Members → Checked (Option (List Node))
  | [] => .ok none
  | (key, v) :: rest =>
    if key = .text "children" then
      match v with
      | .null => .ok none
      | .list items | .tuple items =>
        Checked.under (.name "children") ((ofRecords 0 items).map some)
      | _ => Checked.under (.name "children") (.fail .listType)
    else ofChildren rest

def ofRecords (i : Nat) : List Value → Checked (List Node)
  | [] => .ok []
  | v :: rest =>
    (Checked.ap (.ok List.cons) ((ofRecord v).under (.index i))).ap (ofRecords (i + 1) rest)

end

end Node

def Layout.ofRecord : Value → Checked Layout :=
  model fun members =>
    ((Checked.ap (.ok Layout.mk)
      (required members ["layoutStyle", "layout_style"] (readWord LayoutStyle.ofName?))).ap
      (optional none members ["hasSidebar", "has_sidebar"] (nullable laxBool))).ap
      (optional none members ["hasNavbar", "has_navbar"] (nullable laxBool))

def Change.ofRecord : Value → Checked Change :=
  model fun members =>
    ((Checked.ap (.ok fun kind targetId description => ⟨kind, description, targetId⟩)
      (required members ["kind"] (readWord ChangeKind.ofName?))).ap
      (optional none members ["targetId", "target_id"] (nullable string))).ap
      (required members ["description"] string)

/-- Each item of a list by one reader, the issues under the place of the item. -/
def readEach {α : Type} (read : Value → Checked α) (i : Nat) : List Value → Checked (List α)
  | [] => .ok []
  | v :: rest =>
    (Checked.ap (.ok List.cons) ((read v).under (.index i))).ap (readEach read (i + 1) rest)

def readList {α : Type} (read : Value → Checked α) (v : Value) : Checked (List α) :=
  match laxList v with
  | .ok items => readEach read 0 items
  | .error e => .error e

def Plan.ofRecord : Value → Checked Plan :=
  model fun members =>
    (((Checked.ap (.ok Plan.mk) (optional [] members ["summary"] string)).ap
      (required members ["layout"] Layout.ofRecord)).ap
      (required members ["root"] Node.ofRecord)).ap
      (optional none members ["changes"] (nullable (readList Change.ofRecord)))

end InterfacePlan
