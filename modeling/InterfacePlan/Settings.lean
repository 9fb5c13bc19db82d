import InterfacePlan.Log.Setup
import InterfacePlan.Ollama.Config

set_option autoImplicit false

namespace InterfacePlan

open Schema

structure Settings where
  host : List Text.Code := Text.codes "127.0.0.1"
  port : Int := 8000
  ollamaUrl : List Text.Code := Text.codes "http://localhost:11434/api/chat"
  ollamaModel : List Text.Code := Text.codes "qwen2.5:1.5b"
  oracleTimeout : Double := Double.ofInt 120
  oracleTemperature : Option Double := none
  maxMessageLength : Int := 4000
  plannerRepairJson : Bool := false
  logLevel : String := "INFO"
  jsonLogs : Bool := false
  deriving DecidableEq

namespace Settings

def names : List String :=
  ["host", "port", "ollama_url", "ollama_model", "oracle_timeout", "oracle_temperature",
    "max_message_length", "planner_repair_json", "log_level", "json_logs"]

def logLevels : List String :=
  ["DEBUG", "INFO", "WARNING", "ERROR", "CRITICAL"]

def isHttpUrl (s : List Text.Code) : Bool :=
  (Text.codes "http://").isPrefixOf s || (Text.codes "https://").isPrefixOf s

def readUrl (v : Value) : Checked (List Text.Code) :=
  guard .valueError isHttpUrl (string v)

/-- A level in any case, kept in capitals. -/
def readLogLevel (v : Value) : Checked String :=
  match string v with
  | .error issues => .error issues
  | .ok codes =>
    guard .valueError logLevels.contains
      (ofOption .valueError ((Text.wellFormed? codes).map Log.capitals))

def ofMembers (members : Members) : Checked Settings :=
  let default : Settings := {}
  (((((((((Checked.ap (.ok Settings.mk)
    (optional default.host members ["host"] string)).ap
    (optional default.port members ["port"] fun v =>
      guard .greaterThan (fun n => decide (0 < n))
        (guard .lessThan (fun n => decide (n < 65536)) (laxInt v)))).ap
    (optional default.ollamaUrl members ["ollama_url"] readUrl)).ap
    (optional default.ollamaModel members ["ollama_model"] string)).ap
    (optional default.oracleTimeout members ["oracle_timeout"] fun v => positive (laxFloat v))).ap
    (optional default.oracleTemperature members ["oracle_temperature"]
      Ollama.Config.readTemperature)).ap
    (optional default.maxMessageLength members ["max_message_length"] fun v =>
      guard .greaterThan (fun n => decide (0 < n)) (laxInt v))).ap
    (optional default.plannerRepairJson members ["planner_repair_json"] laxBool)).ap
    (optional default.logLevel members ["log_level"] readLogLevel)).ap
    (optional default.jsonLogs members ["json_logs"] laxBool)

/-- What the environment says about a name: the last variable of that name, in any case, counts. -/
def fromEnvironment? (environment : List (String × String)) (name : String) : Option String :=
  (environment.reverse.find? fun e => e.1.toLower = "uiplan_" ++ name).map (·.2)

/-- The members with their names in lower case, all of them kept: the first of a name counts. -/
def lowered (members : Members) : Members :=
  members.map fun (key, v) =>
    match key with
    | .text name => (.text name.toLower, v)
    | key => (key, v)

/-- The settings that explicit values and an environment give. -/
def load (environment : List (String × String)) (explicit : Members) : Checked Settings :=
  let explicit := lowered explicit
  ofMembers (explicit ++ names.filterMap fun name =>
    match explicit.get? name with
    | some _ => none
    | none => (fromEnvironment? environment name).map fun s => (.text name, .text s))

def ollama (settings : Settings) : Ollama.Config :=
  { url := settings.ollamaUrl
    modelName := settings.ollamaModel
    timeout := settings.oracleTimeout
    temperature := settings.oracleTemperature }

end Settings

end InterfacePlan
