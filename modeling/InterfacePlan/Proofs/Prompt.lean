import InterfacePlan.Oracle.Basic
import InterfacePlan.Proofs.Json.Written
import InterfacePlan.Proofs.Plan.Canonical
import InterfacePlan.Prompt

set_option autoImplicit false

namespace InterfacePlan

/-- A plan of JSON values can be shown to the planner, whatever its numbers are. -/
theorem Prompt.plannerUser_isOk {plan : Plan} (json : plan.toWire.isJson .any)
    (message : List Text.Code) (mode : String) :
    ∃ prompt, plannerUser message mode (some plan) = .ok prompt := by
  obtain ⟨shown, written⟩ := Json.encode_isOk (some 2) json
  exact ⟨_, by rw [plannerUser, written]; rfl⟩

/-- Neither a canonical plan nor none keeps the planner from being asked. -/
theorem Prompt.exists_plannerUser {current : Option Plan} {numbers : Json.Numbers}
    (canonical : ∀ plan, current = some plan → plan.Canonical numbers) (message : List Text.Code)
    (mode : String) :
    ∃ prompt, plannerUser message mode current = .ok prompt := by
  cases current with
  | none => exact ⟨_, rfl⟩
  | some plan =>
      have wire := Plan.toWire_isJson (canonical plan rfl)
      exact plannerUser_isOk (Value.isJson_mono (Json.Numbers.within_any numbers) wire) message mode

theorem Prompt.exists_plannerUser_of_read {current : Option Plan}
    (trusted : ∀ plan, current = some plan →
      ∃ raw : Value, raw.isJson .any ∧ Plan.validate raw = .ok plan) (message : List Text.Code)
    (mode : String) : ∃ prompt, plannerUser message mode current = .ok prompt := by
  have canonical : ∀ plan, current = some plan → plan.Canonical .any := by
    intro plan same
    obtain ⟨raw, json, read⟩ := trusted plan same
    exact Plan.canonical_of_validate json read
  exact exists_plannerUser canonical message mode

def Prompt.planner (prompt : List Text.Code) : List ChatMessage :=
  [⟨.system, plannerSystem⟩, ⟨.user, prompt⟩]

def Prompt.explainer (message : List Text.Code) (diff : String) : List ChatMessage :=
  [⟨.system, explainerSystem⟩, ⟨.user, explainerUser message diff⟩]

end InterfacePlan
