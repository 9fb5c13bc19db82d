import InterfacePlan.Proofs.Agent.Ending
import InterfacePlan.Proofs.Json.Extraction
import InterfacePlan.Proofs.Plan.Diff

set_option autoImplicit false

namespace InterfacePlan

variable {σ : Type}

/-- An oracle that gives two replies one after the other, whatever it is asked. -/
structure Oracle.Replies (oracle : Oracle σ) (state : σ) (first second : List Text.Code) :
    Prop where
  first : ∀ messages, (oracle.chat messages state).result = .ok first
  second : ∀ messages more,
    (oracle.chat more (oracle.chat messages state).state).result = .ok second

namespace Agent

/-- The current plan sent back, under any indent and with any prose around it, is the plan that the
agent gives, after two calls, the second of which is told that nothing changed. -/
theorem run_echo (raw : Value) (json : raw.isJson .shortIntegers) (plan : Plan)
    (read : Plan.validate raw = .ok plan) (agent : Agent) (mode : String) (message : List Text.Code)
    (indent : Option Int) (prose rest : List Text.Code) (noOpen : .char '\x7b' ∉ prose)
    (noClose : .char '\x7d' ∉ rest) (explanation : List Text.Code) :
    ∃ text prompt, Json.encode indent plan.toWire = .ok text ∧
      Prompt.plannerUser (Instruction.sanitize agent.maxMessageLength message) mode (some plan) =
        .ok prompt ∧
      ∀ (oracle : Oracle σ) (journal : Journal σ),
        oracle.Replies journal.oracle (prose ++ text ++ rest) explanation →
        ∃ state, (agent.run oracle mode message (some plan)).Gives journal
          ⟨plan, Source.code plan, explanation⟩
          [Prompt.planner prompt,
            Prompt.explainer (Instruction.sanitize agent.maxMessageLength message)
              Plan.unchangedSummary] state := by
  have canonical := Plan.canonical_of_validate json read
  have wire := Plan.toWire_isJson canonical
  have wireAny := Value.isJson_mono (Json.Numbers.within_any _) wire
  obtain ⟨text, written⟩ := Json.encode_isOk indent wireAny
  obtain ⟨prompt, asked⟩ := Prompt.plannerUser_isOk wireAny
    (Instruction.sanitize agent.maxMessageLength message) mode
  refine ⟨text.map .char, prompt, written, asked, ?_⟩
  intro oracle journal replies
  have extracted := Json.extract_written (Json.writes_of_encode written) wire agent.repairJson
    noOpen noClose
  exact ⟨_, run_gives rfl asked (replies.first _) extracted
    (Plan.validate_toWire canonical.regular) (Plan.diffSummary_self plan) (replies.second _ _)⟩

/-- A raw plan with braces in its texts, an integer beyond 64 bits and an empty list of children. -/
def bracedPlan : Value :=
  .object
    [(.text "summary", .text "\x7d\"\x7b"),
      (.text "layout", .object
        [(.text "layoutStyle", .text "form"), (.text "hasNavbar", .bool true)]),
      (.text "root", .object
        [(.text "id", .text " r\n"), (.text "kind", .text "stack"), (.text "props", .null),
          (.text "children", .list
            [.object
              [(.text "id", .text "größe"), (.text "kind", .text "table"),
                (.text "props", .object
                  [(.text "rows", .list [.int 1180591620717411303424, .null]),
                    (.text "\t", .text "\x7b<\\")]),
                (.text "children", .list [])]])]),
      (.text "changes", .list
        [.object [(.text "kind", .text "add"), (.text "description", .text " a table ")], .int 0])]

theorem run_echo_braced : ∃ plan text prompt, Plan.validate bracedPlan = .ok plan ∧
    Json.encode none plan.toWire = .ok text ∧
    Prompt.plannerUser (Text.codes "Keep it.") "edit" (some plan) = .ok prompt ∧
    ∃ state,
      (({ } : Agent).run Synthesis.textOracle "edit" (Text.codes "Keep it.") (some plan)).Gives
        { oracle := [Text.codes "Here \x7d" ++ text ++ Text.codes "\x7b.", Text.codes "Same."] }
        ⟨plan, Source.code plan, Text.codes "Same."⟩
        [Prompt.planner prompt,
          Prompt.explainer (Text.codes "Keep it.") Plan.unchangedSummary] state := by
  obtain ⟨plan, read⟩ : ∃ plan, Plan.validate bracedPlan = .ok plan := ⟨_, rfl⟩
  obtain ⟨text, prompt, written, asked, echoed⟩ := @run_echo (List (List Text.Code)) bracedPlan
    (by decide) plan read { } "edit" (Text.codes "Keep it.") none (Text.codes "Here \x7d")
    (Text.codes "\x7b.") (by decide) (by decide) (Text.codes "Same.")
  have same : Instruction.sanitize ({ } : Agent).maxMessageLength (Text.codes "Keep it.") =
      Text.codes "Keep it." := by
    decide
  rw [same] at asked echoed
  exact ⟨plan, text, prompt, read, written, asked,
    echoed _ _ ⟨fun _ => rfl, fun _ _ => rfl⟩⟩

def propPlan (v : Value) : Value :=
  .object
    [(.text "layout", .object [(.text "layoutStyle", .text "custom")]),
      (.text "root", .object
        [(.text "id", .text "r"), (.text "kind", .text "page"),
          (.text "props", .object [(.text "n", v)])])]

/-- A plan whose prop cannot be received is given by no run, whatever the model replies. -/
theorem plan_ne_of_run {v : Value} (unreceived : ¬ v.isJson .received) {plan : Plan}
    (root : plan.root = .mk "r" (.known .page) [(.text "n", v)] none) {agent : Agent}
    {oracle : Oracle σ} {mode : String} {message : List Text.Code} {current : Option Plan}
    {journal after : Journal σ} {result : AgentResult}
    (ran : agent.run oracle mode message current journal = (.ok result, after)) :
    result.plan ≠ plan := by
  rintro rfl
  have canonical := (sound_of_run ran).canonical.root
  rw [root] at canonical
  cases canonical with
  | node trimmed props below =>
      rw [Value.isJson_object, Value.membersAreJson, Bool.and_eq_true] at props
      exact unreceived props.2.1

/-- A negative integer of 4300 digits: with its sign, one character too many for the reader. -/
def longInteger : Value :=
  .int (Decimal.negativePower 4299)

/-- Plans with a long integer or with a lone surrogate can be written but not sent back. -/
theorem run_echo_long_integer : (propPlan longInteger).isJson .integers ∧
    ∀ v ∈ [longInteger, .illFormed [.surrogate 0xD800]],
      ∃ plan text, Plan.validate (propPlan v) = .ok plan ∧
        Json.encode none plan.toWire = .ok text ∧
        ∀ result after,
          ({ } : Agent).run Synthesis.textOracle "edit" (Text.codes "Keep it.") (some plan)
            { oracle := [text, Text.codes "Same."] } = (.ok result, after) →
          result.plan ≠ plan := by
  have json : (propPlan longInteger).isJson .integers := rfl
  refine ⟨json, List.forall_mem_cons.mpr ⟨?_, List.forall_mem_singleton.mpr ?_⟩⟩
  · obtain ⟨plan, read, root⟩ : ∃ plan, Plan.validate (propPlan longInteger) = .ok plan ∧
        plan.root = .mk "r" (.known .page) [(.text "n", longInteger)] none := ⟨_, rfl, rfl⟩
    have wire := Plan.toWire_isJson (Plan.canonical_of_validate json read)
    obtain ⟨text, written⟩ := Json.encode_isOk none
      (Value.isJson_mono (Json.Numbers.within_any _) wire)
    refine ⟨plan, text.map .char, read, written, fun result after => plan_ne_of_run ?_ root⟩
    have long := Decimal.lt_length_negativePower 4299
    rw [longInteger, Value.isJson_received_int]
    exact fun short => absurd (Nat.lt_of_lt_of_le long short) (by decide)
  · have alone : ¬ (Value.illFormed [.surrogate 0xD800]).isJson .received := nofun
    exact ⟨_, _, rfl, rfl, fun result after => plan_ne_of_run alone rfl⟩

end Agent

end InterfacePlan
