import InterfacePlan.Json.Encode
import InterfacePlan.Plan.Basic

set_option autoImplicit false

namespace InterfacePlan.Prompt

open Text (Code codes)

def ofLines (lines : List String) : List Code :=
  codes (String.intercalate "\n" lines)

def kindUnion : List String :=
  "type NodeKind =" :: alternatives (Kind.all.map Kind.name)
where
  /-- One line for each name, the last one closed. -/
  alternatives : List String → List String
    | [] => []
    | [name] => ["  | \"" ++ name ++ "\";"]
    | name :: rest => ("  | \"" ++ name ++ "\"") :: alternatives rest

def plannerSystem : List Code :=
  ofLines
    ([ "You are a UI planner for a deterministic React UI generator.",
       "You MUST obey these rules:",
       "- Use ONLY the allowed node kinds: "
         ++ String.intercalate ", " (Kind.all.map Kind.name) ++ ".",
       "- Never invent new node kinds or props that look like CSS or style attributes.",
       "- Do NOT use inline styles, CSS, class names, or Tailwind utilities. "
         ++ "The renderer controls all styling.",
       "- You are not allowed to change or extend the component library.",
       "- You must preserve existing layout and node ids unless the user clearly asks for "
         ++ "a full redesign.",
       "",
       "Output format:",
       "- You MUST return a single JSON object that matches the UiPlan schema.",
       "- Do NOT include any explanations, comments, or markdown.",
       "",
       "UiPlan schema (TypeScript-style):" ]
      ++ kindUnion
      ++ [ "",
           "type UiNode = \x7b",
           "  id: string;",
           "  kind: NodeKind;",
           "  props?: Record<string, unknown>;",
           "  children?: UiNode[];  // only for page, stack, section, sidebar, card",
           "\x7d;",
           "",
           "type UiPlan = \x7b",
           "  summary: string;",
           "  layout: \x7b",
           "    hasSidebar?: boolean;",
           "    hasNavbar?: boolean;",
           "    layoutStyle: \"dashboard\" | \"form\" | \"table\" | \"custom\";",
           "  \x7d;",
           "  root: UiNode;",
           "  changes?: \x7b",
           "    kind: \"add\" | \"remove\" | \"update\";",
           "    targetId?: string;",
           "    description: string;",
           "  \x7d[];",
           "\x7d;",
           "",
           "Never output anything except this JSON object." ])

def explainerSystem : List Code :=
  ofLines
    [ "You are an assistant explaining UI layout decisions to a front-end engineer.",
      "Explain changes between the previous and next plan, referencing components by name.",
      "Mention what stayed the same vs what changed.",
      "Do not talk about JSON or schemas; describe the UI.",
      "Do not claim to change the component library or styling rules." ]

/-- The prompt of the planner, with a text for the plan that there is and with what is to be done. -/
def plannerAsk (message : List Code) (mode : String) (shown : List Code) (orders : List String) :
    List Code :=
  Text.join [.char '\n']
    ([codes "User instruction:", message, [], codes ("Mode: " ++ mode), [],
      codes "Current plan (if any) as JSON:", shown, []] ++ orders.map codes)

/-- What is asked about a plan with this text. -/
def showing (message : List Code) (mode : String) (text : List Code) : List Code :=
  plannerAsk message mode text
    ["Update this plan minimally to satisfy the new instruction.",
      "Reuse existing node ids whenever possible."]

/-- What the planner is asked: the instruction, the mode, and the plan to update if there is one. -/
def plannerUser (message : List Code) (mode : String) (current : Option Plan) :
    Except Json.EncodeError (List Code) :=
  match current with
  | none => .ok (plannerAsk message mode (codes "null") ["Create a new plan for this instruction."])
  | some plan => (Json.encode (some 2) plan.toWire).map (showing message mode)

def retryInstruction : String :=
  "Your previous response was not strict JSON. Reply again with ONLY a JSON object."

def plannerRetry (prompt : List Code) : List Code :=
  prompt ++ codes ("\n\n" ++ retryInstruction)

def explainerUser (message : List Code) (diff : String) : List Code :=
  Text.join [.char '\n']
    [codes "Latest user instruction:", message, [],
      codes "High-level diff between previous and next plan:", codes diff]

end InterfacePlan.Prompt
