import InterfacePlan.Agent.Session
import InterfacePlan.Log.Lines
import InterfacePlan.Main
import InterfacePlan.Proofs.Agent.Echo
import InterfacePlan.Proofs.Agent.Lifecycle
import InterfacePlan.Proofs.Agent.Warning
import InterfacePlan.Proofs.Agent.Whole
import InterfacePlan.Proofs.Instruction
import InterfacePlan.Proofs.Json.Agreement
import InterfacePlan.Proofs.Json.Prose
import InterfacePlan.Proofs.Json.Readable
import InterfacePlan.Proofs.Json.RoundTrip
import InterfacePlan.Proofs.Json.Traversal
import InterfacePlan.Proofs.Log.Nesting
import InterfacePlan.Proofs.Ollama.Circuit
import InterfacePlan.Proofs.Plan.Advice
import InterfacePlan.Proofs.Plan.Outcome
import InterfacePlan.Proofs.Plan.Record
import InterfacePlan.Proofs.Service.Encodable
import InterfacePlan.Proofs.Service.Handback
import InterfacePlan.Proofs.Source.Boundary
import InterfacePlan.Proofs.Source.Meaning
import InterfacePlan.Proofs.Source.Outline
import InterfacePlan.Proofs.Source.Pruning
import InterfacePlan.Service.Basic
import InterfacePlan.Service.Launch
import InterfacePlan.Widget.Tree
