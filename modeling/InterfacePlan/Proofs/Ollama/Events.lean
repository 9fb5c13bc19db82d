import InterfacePlan.Ollama.Client

set_option autoImplicit false

namespace InterfacePlan.Ollama

open Log (Event)

/-- The name of an event and the names that it gives a value to. -/
def kind (event : Event) : String × List String :=
  (event.name, event.fields.map (·.1))

def kinds : List (String × List String) :=
  [("oracle_call", ["model", "messages"]),
    ("breaker_state_change", ["breaker", "from_state", "to_state"]),
    ("oracle_response", ["chars"]),
    ("oracle_unavailable", ["error"]),
    ("oracle_status_error", ["status"]),
    ("oracle_transport_error", ["error"])]

theorem called_mem_kinds (config : Config) (messages : Nat) :
    kind (called config messages) ∈ kinds :=
  List.mem_cons_self

theorem stateChange_mem_kinds (before after : BreakerState) :
    ∀ event ∈ stateChange before after, kind event ∈ kinds := by
  unfold stateChange
  split
  · exact List.forall_mem_nil _
  · refine List.forall_mem_singleton.mpr ?_
    show ("breaker_state_change", ["breaker", "from_state", "to_state"]) ∈ kinds
    decide

theorem ended_mem_kinds (result : Except Fault (List Text.Code)) :
    ∀ event ∈ ended result, kind event ∈ kinds := by
  rw [ended.eq_def]
  split
  · refine List.forall_mem_singleton.mpr ?_
    show ("oracle_response", ["chars"]) ∈ kinds
    decide
  · refine List.forall_mem_singleton.mpr ?_
    show ("oracle_unavailable", ["error"]) ∈ kinds
    decide
  · refine List.forall_mem_singleton.mpr ?_
    show ("oracle_status_error", ["status"]) ∈ kinds
    decide
  · refine List.forall_mem_singleton.mpr ?_
    show ("oracle_transport_error", ["error"]) ∈ kinds
    decide
  all_goals exact List.forall_mem_nil _

namespace Client

variable {τ : Type}

theorem chat_mem_kinds (platform : Platform) (transport : Transport τ) (messages : List ChatMessage)
    (client : Client τ) :
    ∀ event ∈ (chat platform transport messages client).2.1, kind event ∈ kinds := by
  have first := called_mem_kinds client.config messages.length
  unfold chat
  simp only
  split
  · exact List.forall_mem_cons.mpr ⟨first, ended_mem_kinds _⟩
  · exact List.forall_mem_singleton.mpr first
  · refine List.forall_mem_append.mpr ⟨List.forall_mem_append.mpr ⟨?_, ?_⟩, ended_mem_kinds _⟩
    · exact List.forall_mem_cons.mpr ⟨first, stateChange_mem_kinds _ _⟩
    · exact stateChange_mem_kinds _ _

/-- What holds of every kind of event holds of the events of every call. -/
theorem forall_events_of_kinds {P : String × List String → Prop} (all : ∀ k ∈ kinds, P k)
    (platform : Platform) (transport : Transport τ) (messages : List ChatMessage)
    (client : Client τ) :
    ∀ event ∈ ((oracle platform transport).chat messages client).events, P (kind event) := by
  intro event inside
  apply all
  exact chat_mem_kinds platform transport messages client event inside

end Client

end InterfacePlan.Ollama
