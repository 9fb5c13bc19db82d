import InterfacePlan.Agent.Basic
import InterfacePlan.Ollama.Client
import InterfacePlan.Settings

set_option autoImplicit false

namespace InterfacePlan.Service

/-- The parts of a service. Planner and explainer share the one client. -/
structure Parts where
  agent : Agent
  client : Ollama.Config
  deriving DecidableEq

namespace Parts

def ofSettings (settings : Settings) : Parts :=
  ⟨⟨settings.plannerRepairJson, settings.maxMessageLength⟩, settings.ollama⟩

def events (parts : Parts) : List Log.Event :=
  [⟨.info, "client_init",
    [("url", .ofCodes parts.client.url), ("model", .ofCodes parts.client.modelName)]⟩]

end Parts

structure Launch where
  title : String := "UI Planner"
  version : String := "0.1.0"
  host : List Text.Code
  port : Int
  logLevel : String
  log : Log.Setup
  deriving DecidableEq

def Launch.ofSettings (settings : Settings) : Except Log.LevelError Launch :=
  (Log.Setup.ofLevel settings.logLevel settings.jsonLogs).map fun log =>
    { host := settings.host
      port := settings.port
      logLevel := settings.logLevel.toLower
      log := log }

end InterfacePlan.Service
