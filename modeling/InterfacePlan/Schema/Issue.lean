import InterfacePlan.Display

set_option autoImplicit false

namespace InterfacePlan.Schema

inductive Problem where
  | missing
  | stringType
  | stringTooShort
  | stringPattern
  | stringIllFormed
  | enumeration
  | literal
  | dictType
  | listType
  | modelType
  | boolType
  | boolParsing
  | intType
  | intParsing
  | intParsingSize
  | intFromFloat
  | finiteNumber
  | floatType
  | floatParsing
  | greaterThan
  | greaterThanEqual
  | lessThan
  | lessThanEqual
  | valueError
  deriving DecidableEq

def Problem.name : Problem → String
  | .missing => "missing"
  | .stringType => "string_type"
  | .stringTooShort => "string_too_short"
  | .stringPattern => "string_pattern_mismatch"
  | .stringIllFormed => "string_unicode"
  | .enumeration => "enum"
  | .literal => "literal_error"
  | .dictType => "dict_type"
  | .listType => "list_type"
  | .modelType => "model_type"
  | .boolType => "bool_type"
  | .boolParsing => "bool_parsing"
  | .intType => "int_type"
  | .intParsing => "int_parsing"
  | .intParsingSize => "int_parsing_size"
  | .intFromFloat => "int_from_float"
  | .finiteNumber => "finite_number"
  | .floatType => "float_type"
  | .floatParsing => "float_parsing"
  | .greaterThan => "greater_than"
  | .greaterThanEqual => "greater_than_equal"
  | .lessThan => "less_than"
  | .lessThanEqual => "less_than_equal"
  | .valueError => "value_error"

/-- A step from a value to a part of it: a name or the place in a list. -/
inductive Step where
  | name (s : String)
  | index (n : Nat)
  deriving DecidableEq

def Step.text : Step → String
  | .name s => s
  | .index n => toString n

/-- A problem and the way to it, from the outermost step inwards. -/
structure Issue where
  location : List Step
  problem : Problem
  deriving DecidableEq

def Issue.place (issue : Issue) : String :=
  String.intercalate "." (issue.location.map Step.text)

abbrev Checked (α : Type) := Except (List Issue) α

namespace Checked

variable {α β : Type}

def fail (problem : Problem) : Checked α :=
  .error [⟨[], problem⟩]

/-- Applies a checked function to a checked argument; issues of both are kept. -/
def ap (f : Checked (α → β)) (a : Checked α) : Checked β :=
  match f, a with
  | .ok f, .ok a => .ok (f a)
  | .error e, .ok _ => .error e
  | .ok _, .error e => .error e
  | .error e, .error e' => .error (e ++ e')

/-- Issues of a part are issues of the whole, one step further down. -/
def under (step : Step) (a : Checked α) : Checked α :=
  a.mapError fun issues => issues.map fun i => { i with location := step :: i.location }

end Checked

/-- The first of several names that a record has, with its value. -/
def lookup? (members : Members) : List String → Option (String × Value)
  | [] => none
  | name :: names =>
    match members.get? name with
    | some v => some (name, v)
    | none => lookup? members names

/-- A field under one of several names, the first of which is its proper one. -/
def field {α : Type} (members : Members) (names : List String) (absent : Checked α)
    (read : Value → Checked α) : Checked α :=
  match lookup? members names with
  | some (name, v) => (read v).under (.name name)
  | none => absent.under (.name (names.headD ""))

def required {α : Type} (members : Members) (names : List String) (read : Value → Checked α) :
    Checked α :=
  field members names (.fail .missing) read

def optional {α : Type} (default : α) (members : Members) (names : List String)
    (read : Value → Checked α) : Checked α :=
  field members names (.ok default) read

/-- A value that may be null. -/
def nullable {α : Type} (read : Value → Checked α) : Value → Checked (Option α)
  | .null => .ok none
  | v => (read v).map some

/-- Any text, ill-formed or not. -/
def string (v : Value) : Checked (List Text.Code) :=
  match v.text? with
  | some codes => .ok codes
  | none => .fail .stringType

/-- Text that must have some form, which is looked for in well-formed text alone. -/
def constrained {α : Type} (read : String → Checked α) (v : Value) : Checked α :=
  match string v with
  | .error issues => .error issues
  | .ok codes =>
    match Text.wellFormed? codes with
    | none => .fail .stringIllFormed
    | some s => read s

def nonEmptyString : Value → Checked String :=
  constrained fun s => if s = "" then .fail .stringTooShort else .ok s

/-- A key as a step: booleans count as the numbers they equal. -/
def keyStep : Key → Step
  | .bool b => .name (if b then "1" else "0")
  | key => .name (String.ofList key.display)

/-- The keys of a record must be text; values may be anything. -/
def keyIssues (members : Members) : List Issue :=
  members.filterMap fun (key, _) =>
    match key with
    | .text _ | .illFormed _ => none
    | key => some ⟨[keyStep key, .name "[key]"], .stringType⟩

def record : Value → Checked Members
  | .object members =>
    match keyIssues members with
    | [] => .ok members
    | issues => .error issues
  | _ => .fail .dictType

/-- The members of a value that is to be read as a record of known fields. -/
def model {α : Type} (read : Members → Checked α) : Value → Checked α
  | .object members => read members
  | _ => .fail .modelType

end InterfacePlan.Schema
