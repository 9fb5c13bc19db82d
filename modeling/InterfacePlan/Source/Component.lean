import InterfacePlan.Plan.Basic
import InterfacePlan.Source.Literal

set_option autoImplicit false

namespace InterfacePlan

open Text (Code codes)

namespace Source

structure Attribute where
  name : List Code
  literal : List Code
  deriving DecidableEq

def Attribute.text (a : Attribute) : List Code :=
  a.name ++ .char '=' :: .char '\x7b' :: a.literal ++ [.char '\x7d']

/-- The attributes that props give. The name `id` is kept for the node, and props without a literal
give none. -/
def attributes (props : Members) : List Attribute :=
  props.filterMap fun (key, v) =>
    if key = .text "id" then none else (literal? v).map (⟨key.plain, ·⟩)

/-- Attributes as they stand in a tag, a space before each. -/
def attributesText (attributes : List Attribute) : List Code :=
  attributes.flatMap fun a => .char ' ' :: a.text

/-- What a line of the tree holds. -/
inductive Element where
  | opening (tag : String) (attributes : List Attribute)
  | closing (tag : String)
  | single (tag : String) (attributes : List Attribute)
  | placeholder (kind : String)
  deriving DecidableEq

def Element.text : Element → List Code
  | .opening tag attributes => .char '<' :: codes tag ++ attributesText attributes ++ [.char '>']
  | .closing tag => .char '<' :: .char '/' :: codes tag ++ [.char '>']
  | .single tag attributes =>
    .char '<' :: codes tag ++ attributesText attributes ++ [.char ' ', .char '/', .char '>']
  | .placeholder kind =>
    .char '\x7b' :: codes "/* Unsupported node type: " ++ codes kind ++ codes " */" ++ [.char '\x7d']

structure Line where
  depth : Nat
  element : Element
  deriving DecidableEq

def rootIndent : Nat := 4

def indentStep : Nat := 2

def Line.text (line : Line) : List Code :=
  List.replicate (rootIndent + indentStep * line.depth) (.char ' ') ++ line.element.text

end Source

namespace Node

open Source

mutual

/-- The lines of a node and the nodes below it. A node outside the vocabulary leaves a placeholder;
children of a leaf are not shown. -/
def lines (depth : Nat) : Node → List Line
  | .mk _ (.unknown name) _ _ => [⟨depth, .placeholder name⟩]
  | .mk _ (.known kind) props none =>
    if kind.isContainer then
      [⟨depth, .opening kind.tag (attributes props)⟩, ⟨depth, .closing kind.tag⟩]
    else [⟨depth, .single kind.tag (attributes props)⟩]
  | .mk _ (.known kind) props (some children) =>
    if kind.isContainer then
      ⟨depth, .opening kind.tag (attributes props)⟩
        :: linesAll (depth + 1) children ++ [⟨depth, .closing kind.tag⟩]
    else [⟨depth, .single kind.tag (attributes props)⟩]

def linesAll (depth : Nat) : List Node → List Line
  | [] => []
  | n :: rest => lines depth n ++ linesAll depth rest

end

end Node

namespace Source

/-- The import of the components, one a line in the order of the vocabulary. -/
def imports : List Char :=
  "import React from \"react\";\nimport ".toList ++ '\x7b' :: '\n'
    :: Text.join [',', '\n'] (Kind.all.map fun kind => ' ' :: ' ' :: kind.tag.toList)
    ++ '\n' :: '\x7d' :: " from \"@/components/ui\";".toList

def opening : List Char :=
  "\n\nexport function GeneratedUI() ".toList ++ '\x7b' :: "\n  return (\n".toList

def closing : List Char :=
  "\n  );\n".toList ++ ['\x7d', '\n']

def treeText (root : Node) : List Code :=
  Text.join [.char '\n'] ((root.lines 0).map Line.text)

def body (plan : Plan) : List Code :=
  opening.map .char ++ treeText plan.root ++ closing.map .char

def code (plan : Plan) : List Code :=
  imports.map .char ++ body plan

end Source

end InterfacePlan
