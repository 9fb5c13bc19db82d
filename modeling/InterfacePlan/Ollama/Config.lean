import InterfacePlan.Schema.Lax

set_option autoImplicit false

namespace InterfacePlan.Schema

def positive (a : Checked Double) : Checked Double :=
  guard .greaterThan (fun x => (Double.zero false).lt x) a

/-- A number from zero to `limit`; `nan` already fails the upper bound. -/
def withinLimit (limit : Double) (a : Checked Double) : Checked Double :=
  guard .greaterThanEqual (fun x => (Double.zero false).lt x || x.eqInt 0)
    (guard .lessThanEqual (fun x => x.lt limit || x.numEq limit) a)

end InterfacePlan.Schema

namespace InterfacePlan.Ollama

open Schema

structure Config where
  url : List Text.Code := Text.codes "http://localhost:11434/api/chat"
  modelName : List Text.Code := Text.codes "qwen2.5:1.5b"
  timeout : Double := Double.ofInt 120
  temperature : Option Double := none
  breakerFailMax : Int := 5
  breakerResetTimeout : Double := Double.ofInt 30
  deriving DecidableEq

namespace Config

/-- The temperature at which a model samples: from zero to two, or none. -/
def readTemperature : Value → Checked (Option Double) :=
  nullable fun v => withinLimit (Double.ofInt 2) (laxFloat v)

/-- A configuration from named values; what is not named has its default. -/
def ofMembers (members : Members) : Checked Config :=
  let default : Config := {}
  (((((Checked.ap (.ok Config.mk)
    (optional default.url members ["url"] string)).ap
    (optional default.modelName members ["model_name"] string)).ap
    (optional default.timeout members ["timeout"] fun v => positive (laxFloat v))).ap
    (optional default.temperature members ["temperature"] readTemperature)).ap
    (optional default.breakerFailMax members ["breaker_fail_max"] fun v =>
      guard .greaterThanEqual (fun n => decide (1 ≤ n)) (laxInt v))).ap
    (optional default.breakerResetTimeout members ["breaker_reset_timeout"] fun v =>
      positive (laxFloat v))

def toMembers (config : Config) : Members :=
  [(.text "url", .ofCodes config.url), (.text "model_name", .ofCodes config.modelName),
    (.text "timeout", .float config.timeout),
    (.text "temperature", config.temperature.elim .null Value.float),
    (.text "breaker_fail_max", .int config.breakerFailMax),
    (.text "breaker_reset_timeout", .float config.breakerResetTimeout)]

/-- The configuration with some values replaced, checked like a new one. -/
def update (config : Config) (updates : Members) : Checked Config :=
  ofMembers (updates.foldl (fun ms m => Members.insert ms m.1 m.2) config.toMembers)

end Config

end InterfacePlan.Ollama
