import InterfacePlan.Display
import InterfacePlan.Log.Setup
import InterfacePlan.Text.Blank

set_option autoImplicit false

namespace InterfacePlan.Log

/-- Names that the logger itself gives to every event, and the one under which it expects the failure
that an event is about. Fields of these names do not show. -/
def ownNames : List String :=
  ["event", "logger", "level", "timestamp", "exc_info"]

def shownFields (event : Event) : Context :=
  event.fields.filter fun f => !ownNames.contains f.1

/-- The name that a logger goes by; the nameless one is the root. -/
def shownName (logger : String) : String :=
  if logger = "" then "root" else logger

/-- An event as a record, the time of it apart. -/
def Event.record (event : Event) (logger : String) : Context :=
  ("event", .text event.name) :: ("logger", .text (shownName logger)) :: ("level", .text event.level.name)
    :: shownFields event

/-- Characters that keep a text from standing bare on a console line. -/
def needsQuotes (c : Char) : Bool :=
  c = ' ' || c = '\t' || c = '=' || c = '\r' || c = '\n' || c = '"' || c = '\''

def consoleValue : Value → List Char
  | .text s => if s.toList.any needsQuotes then Text.display s.toList else s.toList
  | v => v.display

/-- Each run of blanks as one space, and none at the ends. -/
def singleSpaced (s : List Char) : List Char :=
  squeeze false (Text.trimChars s)
where
  /-- Writes one space for a run of blanks, `after` being whether the run has begun. -/
  squeeze (after : Bool) : List Char → List Char
    | [] => []
    | c :: rest =>
      if Text.isBlank c then (if after then squeeze true rest else ' ' :: squeeze true rest)
      else c :: squeeze false rest

/-- A value as it stands in brackets: text bare, anything else as it is displayed. -/
def bracketed : Value → List Char
  | .text s => '[' :: s.toList ++ [']']
  | v => '[' :: v.display ++ [']']

/-- What an event says below its fields: a text in the field of that name. -/
def below? (event : Event) (name : String) : Option (List Char) :=
  match Context.get? event.fields name with
  | some (.text s) => some s.toList
  | _ => none

def rule : List Char :=
  List.replicate 79 '='

/-- The texts below the fields, the trace of the call first. -/
def belowFields (event : Event) : List (List Char) :=
  match below? event "stack", below? event "exception" with
  | some stack, some failure => [stack, rule, failure]
  | some text, none | none, some text => [text]
  | none, none => []

def isPlainField (event : Event) (name : String) : Bool :=
  if name = "stack" || name = "exception" then (below? event name).isNone
  else name ≠ "logger_name"

def Event.consoleLine (event : Event) (logger : String) : List Char :=
  let fields := ((shownFields event).filter fun f => isPlainField event f.1).mergeSort
    fun f g => f.1 ≤ g.1
  let brackets := ((Context.get? event.fields "logger_name").map bracketed).toList
  let parts :=
    ['[' :: event.level.name.toList ++ " ]".toList, event.name.toList,
      '[' :: (shownName logger).toList ++ [']']]
      ++ brackets ++ (fields.map fun f => f.1.toList ++ '=' :: consoleValue f.2)
      ++ belowFields event
  singleSpaced (parts.flatMap fun part => part ++ [' '])

/-- Whether a logger lets an event through. -/
def Setup.passes (setup : Setup) (logger : String) (event : Event) : Bool :=
  setup.threshold logger ≤ event.level.number

end InterfacePlan.Log
