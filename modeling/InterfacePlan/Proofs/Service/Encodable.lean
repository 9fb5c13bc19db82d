import InterfacePlan.Proofs.Json.Codes
import InterfacePlan.Proofs.Service.Answer

set_option autoImplicit false

namespace InterfacePlan

variable {σ : Type}

namespace Value

theorem finite_of_isJson {x : Double} (json : (Value.float x).isJson .received) :
    x ≠ .nan ∧ ∀ negative, x ≠ .infinity negative := by
  cases x with
  | finite negative m q onGrid => exact ⟨Double.noConfusion, fun _ => Double.noConfusion⟩
  | _ => cases json

end Value

namespace AgentResult

variable {result : AgentResult}

/-- What the wire form of a result holds: its plan, and texts. -/
theorem inside_toWire {v : Value} (inside : v.Inside result.toWire) :
    v = result.toWire ∨ v.Inside result.plan.toWire ∨ v = .ofCodes result.code ∨
      v = .ofCodes result.explanation := by
  rw [toWire] at inside
  cases inside with
  | here => exact .inl rfl
  | field member deeper =>
      simp only [List.mem_cons, List.not_mem_nil, or_false] at member
      rcases member with rfl | rfl | rfl
      · exact .inr (.inl deeper)
      · exact .inr (.inr (.inl deeper.eq_of_codes))
      · exact .inr (.inr (.inr deeper.eq_of_codes))

theorem inside_plan_of_text? {v : Value} (inside : v.Inside result.toWire) (noText : v.text? = none) :
    v = result.toWire ∨ v.Inside result.plan.toWire := by
  rcases inside_toWire inside with whole | deeper | code | explanation
  · exact .inl whole
  · exact .inr deeper
  · exact absurd code.symm (Value.ofCodes_ne_of_text? noText)
  · exact absurd explanation.symm (Value.ofCodes_ne_of_text? noText)

/-- An explanation that is no text is the one thing that a result cannot be written for. -/
theorem encodeBody_eq_error_iff (sound : result.Sound) (e : Json.EncodeError) :
    Json.encodeBody result.toWire = .error e ↔
      e = .illFormed ∧ ¬ ∃ text, result.explanation = Text.codes text := by
  by_cases textual : ∃ text, result.explanation = Text.codes text
  · obtain ⟨body, written⟩ := Json.encodeBody_isOk (toWire_isJson sound textual)
    rw [written]
    constructor
    · intro refused
      cases refused
    · rintro ⟨-, noText⟩
      exact absurd textual noText
  · have inside : (Value.ofCodes result.explanation).Inside result.toWire :=
      .field (List.mem_cons_of_mem _ (List.mem_cons_of_mem _ List.mem_cons_self)) .here
    obtain ⟨unit, holds⟩ := Value.exists_holdsSurrogate inside textual
    -- The plain writer has a text for it, but bytes have no form for the surrogate.
    obtain ⟨codes, written⟩ : ∃ codes, Json.Plain.write { layout := .compact, nonFinite := false } 0
        result.toWire = .ok codes := by
      obtain ⟨part, written⟩ := Json.Plain.write_isOk (Json.Plain.Style.takes_received
        { layout := .compact, nonFinite := false }) 1 (Plan.toWire_isJson sound.canonical)
      simp only [toWire, Json.Plain.write, Json.Plain.writeMembers, Json.Plain.writeKey, written,
        Json.Plain.write_ofCodes, Except.map]
      exact ⟨_, rfl⟩
    rw [Json.encodeBody_of_surrogate holds written]
    constructor
    · rintro ⟨⟩
      exact ⟨rfl, textual⟩
    · rintro ⟨rfl, -⟩
      rfl

/-- The wire form of a result holds only finite floats and only objects with text keys, and it has a
body unless the explanation is no text. -/
structure Encodable (result : AgentResult) : Prop where
  finite : ∀ x, Value.Inside (.float x) result.toWire → x ≠ .nan ∧ ∀ negative, x ≠ .infinity negative
  named : ∀ members, Value.Inside (.object members) result.toWire →
    ∀ m ∈ members, ∃ name, m.1 = .text name
  refused : ∀ e, Json.encodeBody result.toWire = .error e ↔
    e = .illFormed ∧ ¬ ∃ text, result.explanation = Text.codes text

theorem encodable_of_sound (sound : result.Sound) : result.Encodable where
  finite x inside := by
    rcases inside_plan_of_text? inside rfl with whole | deeper
    · cases whole
    · exact Value.finite_of_isJson (deeper.isJson (Plan.toWire_isJson sound.canonical))
  named members inside := by
    rcases inside_plan_of_text? inside rfl with whole | deeper
    · cases whole
      intro m member
      simp only [List.mem_cons, List.not_mem_nil, or_false] at member
      rcases member with rfl | rfl | rfl <;> exact ⟨_, rfl⟩
    · have json := deeper.isJson (Plan.toWire_isJson sound.canonical)
      intro m member
      exact (Value.membersAreJson_iff.mp (Value.isJson_object.mp json).2 m member).1
  refused := encodeBody_eq_error_iff sound

end AgentResult

namespace Service

variable {oracle : Oracle σ}

theorem crash_ofTexts {status : Nat} {members : List (String × List Text.Code)} {e : Json.EncodeError}
    (crash : (Response.ofTexts status members).crash = some (.body e)) : e = .illFormed := by
  obtain ⟨codes, written⟩ := Json.Plain.exists_write_texts
    { layout := .compact, nonFinite := false } 0 members
  rw [Response.ofTexts, Response.ofValue, Json.encodeBody, written] at crash
  simp only [Json.toBytes] at crash
  split at crash
  · cases crash
  · rename_i refused
    split at refused
    · cases refused
    · cases refused
      cases crash
      rfl

theorem crash_refused {refusal : Refusal} {e : Json.EncodeError}
    (crash : (Response.refused refusal).crash = some (.body e)) : e = .illFormed := by
  rw [Response.refused] at crash
  split at crash
  · exact crash_ofTexts crash
  · cases crash

theorem crash_ofResult {result : AgentResult} (encodable : result.Encodable) {e : Json.EncodeError}
    (crash : (Response.ofResult result).crash = some (.body e)) : e = .illFormed := by
  rw [Response.ofResult, Response.ofValue] at crash
  split at crash
  · cases crash
  · rename_i cause refused
    cases crash
    exact ((encodable.refused e).mp refused).1

theorem crash_run (agent : Agent) (order : Order) {journal : Journal σ} {e : Json.EncodeError}
    (crash : (run agent oracle order journal).1.crash = some (.body e)) : e = .illFormed := by
  rw [run] at crash
  split at crash
  · rename_i result after ran
    exact crash_ofResult (AgentResult.encodable_of_sound (Agent.sound_of_run ran)) crash
  · split at crash
    · cases crash
    · exact crash_ofTexts crash

/-- Every result of a run can be written as far as numbers and names go, and so no request ends with a
number that cannot be written. -/
theorem answer_encodable (platform : Platform) (agent : Agent) (oracle : Oracle σ) :
    (∀ mode message current journal result after,
      agent.run oracle mode message current journal = (.ok result, after) → result.Encodable) ∧
    ∀ body journal e, (answer platform agent oracle body journal).1.crash = some (.body e) →
      e = .illFormed := by
  constructor
  · intro mode message current journal result after ran
    exact AgentResult.encodable_of_sound (Agent.sound_of_run ran)
  · intro body journal e crash
    rw [answer] at crash
    split at crash
    · split at crash <;> exact crash_refused crash
    · exact crash_run agent _ crash

/-- A plan with numbers that JSON does not know. -/
def unboundedPlan : Plan :=
  ⟨[], ⟨.custom, none, none⟩,
    .mk "r" (.known .page)
      [(.text "a", .list [.float .nan]), (.text "b", .float (.infinity true))] none, none⟩

def unboundedRequest : List UInt8 :=
  ("\x7b\"mode\":\"modify\",\"message\":\"Hi\",\"currentPlan\":"
    ++ "\x7b\"layout\":\x7b\"layoutStyle\":\"custom\"\x7d,\"root\":\x7b\"id\":\"r\","
    ++ "\"kind\":\"page\",\"props\":\x7b\"a\":[NaN],\"b\":-1e999\x7d\x7d\x7d\x7d").toUTF8.data.toList

def unboundedOrder : Order :=
  ⟨.modify, "Hi", some unboundedPlan⟩

/-- A reply with a float near the end of their range. -/
def boundedReply : String :=
  "\x7b\"layout\":\x7b\"layoutStyle\":\"custom\"\x7d,"
    ++ "\"root\":\x7b\"id\":\"r\",\"kind\":\"page\",\"props\":\x7b\"a\":-1.5e308\x7d\x7d\x7d"

def boundedMembers : Members :=
  [(.text "layout", .object [(.text "layoutStyle", .text "custom")]),
    (.text "root", .object
      [(.text "id", .text "r"), (.text "kind", .text "page"),
        (.text "props", .object [(.text "a", .float (Double.ofDecimal true 15 307))])])]

/-- A request is accepted with such numbers, and its result has none of them. -/
theorem answer_encodable_unbounded : gate (.bare 990) unboundedRequest = .ok unboundedOrder ∧
    Value.Inside (.float .nan) unboundedPlan.toWire ∧
    ∃ result after,
      ({ } : Agent).run Oracle.scripted "modify" (Text.codes "Hi") (some unboundedPlan)
        { oracle := [.ok boundedReply, .ok "z"] } = (.ok result, after) ∧ result.Encodable := by
  have passes : gate (.bare 990) unboundedRequest = .ok unboundedOrder := by decide +kernel
  have nan : Value.Inside (.float .nan) unboundedPlan.toWire :=
    .field (.tail _ (.tail _ (.head _)))
      (.field (.tail _ (.tail _ (.head _))) (.field (.head _) (.item (.head _) .here)))
  have canonical : ∀ plan, some unboundedPlan = some plan → plan.Canonical .any := by
    rintro plan ⟨⟩
    refine ⟨⟨"", rfl⟩, ?_, fun log none => nomatch none⟩
    exact .node ⟨rfl, by decide⟩ rfl fun nodes none => nomatch none
  obtain ⟨prompt, asked⟩ := Prompt.exists_plannerUser canonical (Text.codes "Hi") "modify"
  have extracted : Json.extract false (Text.codes boundedReply) = .ok boundedMembers := by
    decide +kernel
  obtain ⟨plan, valid⟩ : ∃ plan, Plan.validate (.object boundedMembers) = .ok plan := ⟨_, rfl⟩
  obtain ⟨events, ran⟩ := @Agent.run_gives _ { } "modify" _ (Text.codes "Hi") _ prompt
    (some unboundedPlan) plan boundedMembers Oracle.scripted
    { oracle := [.ok boundedReply, .ok "z"] } (Text.codes boundedReply) (Text.codes "z") (by decide)
    asked rfl extracted valid rfl rfl
  refine ⟨passes, nan, _, _, ran, ?_⟩
  exact (answer_encodable (.bare 990) { } Oracle.scripted).1 _ _ _ _ _ _ ran

end Service

end InterfacePlan
