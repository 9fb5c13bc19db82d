import InterfacePlan.Plan.Basic

set_option autoImplicit false

namespace InterfacePlan

/-- Each element once, in the order of first occurrence. -/
def firstOccurrences {α : Type} [DecidableEq α] : List α → List α
  | [] => []
  | x :: rest => x :: (firstOccurrences rest).filter (· ≠ x)

namespace Plan

def addedIds (previous next : Plan) : List String :=
  (firstOccurrences next.ids).filter fun id => !previous.ids.contains id

def initialSummary : String :=
  "Created initial layout using components based on the instruction."

def unchangedSummary : String :=
  "Adjusted props and layout while keeping the same set of nodes."

/-- A list of ids under a heading, if there are any. -/
def summaryPart (heading : String) (ids : List String) : List String :=
  if ids = [] then [] else [heading ++ ": " ++ String.intercalate ", " ids]

def diffSummary (previous : Option Plan) (next : Plan) : String :=
  match previous with
  | none => initialSummary
  | some previous =>
    let parts := summaryPart "Added nodes" (addedIds previous next)
      ++ summaryPart "Removed nodes" (addedIds next previous)
    if parts = [] then unchangedSummary else String.intercalate " | " parts

end Plan

end InterfacePlan
