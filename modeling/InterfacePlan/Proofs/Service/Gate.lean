import InterfacePlan.Proofs.Json.Body
import InterfacePlan.Proofs.Json.Written
import InterfacePlan.Proofs.Plan.Acceptance
import InterfacePlan.Proofs.Schema
import InterfacePlan.Service.Gate

set_option autoImplicit false

namespace InterfacePlan

open Schema

theorem Mode.ofName?_iff {s : String} {mode : Mode} : ofName? s = some mode ↔ s = mode.name :=
  find_name_iff (fun a => by cases a <;> decide) (by decide)

theorem Value.isJson_of_get? {members : Members} (json : (Value.object members).isJson .any)
    {name : String} {v : Value} (held : members.get? name = some v) : v.isJson .any := by
  have inside := Value.isJson_get json name
  rw [Members.get?, Option.map_eq_some_iff] at held
  obtain ⟨m, found, rfl⟩ := held
  rwa [Value.get, found] at inside

namespace Request

theorem readMode_eq_ok_iff {v : Value} {mode : Mode} :
    readMode v = .ok mode ↔ v = .text mode.name := by
  cases v with
  | text s =>
      rw [readMode, Value.text.injEq, ← Mode.ofName?_iff]
      cases Mode.ofName? s <;> simp [Checked.fail]
  | _ => simp [readMode, Checked.fail]

/-- Whether members name a mode and a message. -/
structure Asks (members : Members) (mode : Mode) (message : String) : Prop where
  modeIs : members.get? "mode" = some (.text mode.name)
  messageIs : members.get? "message" = some (.text message)
  nonempty : message ≠ ""

/-- The value that members have for the current plan, under either of its names. -/
def sentPlan (members : Members) : Value :=
  match members.get? "currentPlan" with
  | some v => v
  | none => (members.get? "current_plan").getD .null

/-- A reader of one field whose issues are about the field as a whole. -/
def Plain {α : Type} (read : Value → Checked α) : Prop :=
  ∀ v issues, read v = .error issues → ∃ problem, issues = [⟨[], problem⟩]

theorem plain_readMode : Plain readMode := by
  intro v issues refused
  rw [readMode.eq_def] at refused
  split at refused
  · split at refused
    · cases refused
    · cases refused
      exact ⟨_, rfl⟩
  · cases refused
    exact ⟨_, rfl⟩

theorem plain_nonEmptyString : Plain nonEmptyString := by
  intro v issues refused
  rw [nonEmptyString, constrained, string] at refused
  cases told : v.text? with
  | none =>
      rw [told] at refused
      cases refused
      exact ⟨_, rfl⟩
  | some codes =>
      simp only [told] at refused
      split at refused
      · cases refused
        exact ⟨_, rfl⟩
      · split at refused
        · cases refused
          exact ⟨_, rfl⟩
        · cases refused

theorem issues_required {α : Type} {read : Value → Checked α} (plain : Plain read)
    {members : Members} {name : String} {issues : List Issue}
    (refused : required members [name] read = .error issues) :
    ∃ problem, issues = [⟨[.name name], problem⟩] := by
  rw [required, field, lookup?] at refused
  cases held : members.get? name with
  | none =>
      rw [held] at refused
      cases refused
      exact ⟨_, rfl⟩
  | some v =>
      rw [held] at refused
      cases read_v : read v with
      | ok a =>
          simp only [read_v] at refused
          cases refused
      | error e =>
          obtain ⟨problem, rfl⟩ := plain v e read_v
          simp only [read_v] at refused
          cases refused
          exact ⟨problem, rfl⟩

theorem planField_eq (members : Members) :
    ∃ name, (name = "currentPlan" ∨ name = "current_plan") ∧
      Schema.optional none members ["currentPlan", "current_plan"] (nullable record) =
        (nullable record (sentPlan members)).under (.name name) := by
  rw [Schema.optional, field, sentPlan, lookup?]
  cases members.get? "currentPlan" with
  | some v => exact ⟨_, .inl rfl, rfl⟩
  | none =>
      simp only [lookup?]
      cases members.get? "current_plan" with
      | some v => exact ⟨_, .inr rfl, rfl⟩
      | none => exact ⟨_, .inl rfl, rfl⟩

/-- What comes of the current plan: none, its members, or an issue that is not about mode or message. -/
theorem planField_cases {members : Members} (json : (sentPlan members).isJson .any) :
    (sentPlan members = .null ∧
      Schema.optional none members ["currentPlan", "current_plan"] (nullable record) = .ok none) ∨
    (∃ plan, sentPlan members = .object plan ∧
      Schema.optional none members ["currentPlan", "current_plan"] (nullable record) = .ok (some plan)) ∨
    (sentPlan members ≠ .null ∧ (sentPlan members).isObject = false ∧
      ∃ issues, Schema.optional none members ["currentPlan", "current_plan"] (nullable record) =
        .error issues ∧ issues.any Service.isAboutModeOrMessage = false) := by
  obtain ⟨name, known, same⟩ := planField_eq members
  have elsewhere : ([⟨[.name name], .dictType⟩] : List Issue).any Service.isAboutModeOrMessage =
      false := by
    rcases known with rfl | rfl <;> rfl
  rw [same]
  cases sent : sentPlan members with
  | null => exact .inl ⟨rfl, rfl⟩
  | object plan =>
      rw [sent] at json
      refine .inr (.inl ⟨plan, rfl, ?_⟩)
      rw [nullable_of_ne_null Value.noConfusion, record_of_isJson json]
      rfl
  | _ => exact .inr (.inr ⟨Value.noConfusion, rfl, _, rfl, elsewhere⟩)

theorem issues_ofRecord (members : Members) :
    (ofRecord (.object members)).issues =
      (required members ["mode"] readMode).issues ++
        (required members ["message"] nonEmptyString).issues ++
        (Schema.optional none members ["currentPlan", "current_plan"] (nullable record)).issues := by
  rw [ofRecord, model, Checked.issues_ap, Checked.issues_ap, Checked.issues_ap]
  rfl

theorem ofRecord_of_not_asks {members : Members} (json : (Value.object members).isJson .any)
    (silent : ¬ ∃ mode message, Asks members mode message) :
    ∃ issues, ofRecord (.object members) = .error issues ∧
      issues.any Service.isAboutModeOrMessage := by
  apply Checked.eq_error_of_any
  rw [issues_ofRecord, List.any_append, List.any_append]
  cases modeField : required members ["mode"] readMode with
  | error issues =>
      obtain ⟨problem, rfl⟩ := issues_required plain_readMode modeField
      rfl
  | ok mode =>
      cases messageField : required members ["message"] nonEmptyString with
      | error issues =>
          obtain ⟨problem, rfl⟩ := issues_required plain_nonEmptyString messageField
          rfl
      | ok message =>
          obtain ⟨v, heldMode, readMode⟩ := required_eq_ok_iff.mp modeField
          obtain ⟨w, heldMessage, readMessage⟩ := required_eq_ok_iff.mp messageField
          rw [readMode_eq_ok_iff.mp readMode] at heldMode
          obtain ⟨told, nonempty⟩ := nonEmptyString_eq_ok_iff.mp readMessage
          obtain ⟨s, rfl, same⟩ := Value.eq_text_of_isJson (Value.isJson_of_get? json heldMessage) told
          rw [← Text.codes_injective same] at heldMessage
          exact absurd ⟨mode, message, heldMode, heldMessage, nonempty⟩ silent

theorem ofRecord_of_asks {members : Members} {mode : Mode} {message : String}
    (asks : Asks members mode message) :
    ofRecord (.object members) =
      (Schema.optional none members ["currentPlan", "current_plan"] (nullable record)).map
        fun plan => ⟨mode, message, plan⟩ := by
  have modeIs : required members ["mode"] readMode = .ok mode :=
    required_eq_ok_iff.mpr ⟨_, asks.modeIs, readMode_eq_ok_iff.mpr rfl⟩
  have messageIs : required members ["message"] nonEmptyString = .ok message :=
    required_eq_ok_iff.mpr ⟨_, asks.messageIs, nonEmptyString_eq_ok_iff.mpr ⟨rfl, asks.nonempty⟩⟩
  rw [ofRecord, model, modeIs, messageIs]
  cases Schema.optional none members ["currentPlan", "current_plan"] (nullable record) <;> rfl

end Request

namespace Service

open Request (Asks sentPlan)

/-- The bodies that are refused, stage by stage, with the message of the answer and what it says
beside that. -/
inductive Refused (platform : Platform) (body : List UInt8) :
    List Text.Code → Option (List Text.Code) → Prop
  | notJson {cause : Json.BodyError} (unread : Json.decodeBody platform.room body = .error cause)
      (other : cause ≠ .exhausted) :
      Refused platform body (Text.codes "Request body must be JSON") none
  | notObject {v : Value} (read : Json.decodeBody platform.room body = .ok v)
      (other : v.isObject = false) :
      Refused platform body (Text.codes "Request body must be a JSON object") none
  | modeOrMessage {members : Members}
      (read : Json.decodeBody platform.room body = .ok (.object members))
      (silent : ¬ ∃ mode message, Asks members mode message) :
      Refused platform body (Text.codes "Missing mode or message") none
  | request {members : Members} {mode : Mode} {message : String} {issues : List Issue}
      (read : Json.decodeBody platform.room body = .ok (.object members))
      (asks : Asks members mode message) (given : sentPlan members ≠ .null)
      (other : (sentPlan members).isObject = false)
      (unread : Request.ofRecord (.object members) = .error issues) :
      Refused platform body (Text.codes "Invalid request")
        (some (Text.codes (platform.prose (.object members) issues)))
  | payload {members payload : Members} {mode : Mode} {message : String} {cause : Json.LimitError}
      (read : Json.decodeBody platform.room body = .ok (.object members))
      (asks : Asks members mode message) (sent : sentPlan members = .object payload)
      (exceeds : Payload.check payload = .error (.limit cause)) :
      Refused platform body (Text.codes cause.message) none
  | plan {members payload : Members} {mode : Mode} {message : String} {v : Violation}
      (read : Json.decodeBody platform.room body = .ok (.object members))
      (asks : Asks members mode message) (sent : sentPlan members = .object payload)
      (fits : Payload.check payload = .ok ())
      (invalid : Plan.validate (.object payload) = .error (.violation v)) :
      Refused platform body v.message none

/-- The bodies that are orders. -/
inductive Ordered (platform : Platform) (body : List UInt8) : Order → Prop
  | fresh {members : Members} {mode : Mode} {message : String}
      (read : Json.decodeBody platform.room body = .ok (.object members))
      (asks : Asks members mode message) (unsent : sentPlan members = .null) :
      Ordered platform body ⟨mode, message, none⟩
  | change {members payload : Members} {mode : Mode} {message : String} {plan : Plan}
      (read : Json.decodeBody platform.room body = .ok (.object members))
      (asks : Asks members mode message) (sent : sentPlan members = .object payload)
      (fits : Payload.check payload = .ok ()) (valid : Plan.validate (.object payload) = .ok plan) :
      Ordered platform body ⟨mode, message, some plan⟩

theorem check_cases {payload : Members} (json : (Value.object payload).isJson .any) :
    Payload.check payload = .ok () ∨ ∃ cause, Payload.check payload = .error (.limit cause) := by
  obtain ⟨text, written⟩ := Json.encode_isOk none json
  rw [Payload.check]
  simp only [written, Json.toBytes, Text.wellFormed?_chars]
  split
  · exact .inr ⟨_, rfl⟩
  · cases Json.checkDepth Payload.maxDepth (.object payload) with
    | ok _ => exact .inl rfl
    | error cause => exact .inr ⟨cause, rfl⟩

theorem sentPlan_isJson {members : Members} (json : (Value.object members).isJson .any) :
    (sentPlan members).isJson .any := by
  rw [sentPlan]
  split
  · rename_i v found
    exact Value.isJson_of_get? json found
  · cases found : members.get? "current_plan" with
    | none => rfl
    | some v => exact Value.isJson_of_get? json found

/-- What the gate can make of a body. -/
inductive Gated (platform : Platform) (body : List UInt8) : Except Refusal Order → Prop
  | refused {refusal : Refusal} (isAnswer : refusal.isAnswer)
      (row : Refused platform body refusal.message refusal.detail?) :
      Gated platform body (.error refusal)
  | exhausted (unread : Json.decodeBody platform.room body = .error .exhausted) :
      Gated platform body (.error .exhausted)
  | ordered {order : Order} (row : Ordered platform body order) : Gated platform body (.ok order)

section asking

variable {platform : Platform} {body : List UInt8} {members payload : Members} {mode : Mode}
  {message : String} (read : Json.decodeBody platform.room body = .ok (.object members))
  (asks : Asks members mode message) (json : (sentPlan members).isJson .any)
include read asks json

theorem gate_of_payload (sent : sentPlan members = .object payload) :
    gate platform body = (readCurrentPlan payload).map fun plan => ⟨mode, message, some plan⟩ := by
  rw [gate, read]
  simp only [Value.isObject, ↓reduceIte, Request.ofRecord_of_asks asks]
  rcases Request.planField_cases json with ⟨unsent, -⟩ | ⟨found, same, field⟩ | ⟨-, other, -⟩
  · rw [sent] at unsent
    cases unsent
  · rw [sent] at same
    cases same
    rw [field]
    simp only [Except.map, order]
    cases readCurrentPlan payload <;> rfl
  · rw [sent] at other
    cases other

theorem gate_of_asks : Gated platform body (gate platform body) := by
  rcases Request.planField_cases json with
    ⟨unsent, field⟩ | ⟨payload, sent, field⟩ | ⟨given, other, issues, field, plain⟩
  · rw [gate, read]
    simp only [Value.isObject, ↓reduceIte, Request.ofRecord_of_asks asks, field]
    exact .ordered (.fresh read asks unsent)
  · have payloadJson : (Value.object payload).isJson .any := by
      rw [← sent]
      exact json
    rw [gate_of_payload read asks json sent, readCurrentPlan]
    rcases check_cases payloadJson with fits | ⟨cause, exceeds⟩
    · rcases Plan.validate_cases (Plan.kept_of_isJson payloadJson) with ⟨plan, valid⟩ | ⟨v, invalid⟩
      · simp only [fits, valid]
        exact .ordered (.change read asks sent fits valid)
      · simp only [fits, invalid]
        exact .refused rfl (.plan read asks sent fits invalid)
    · simp only [exceeds]
      exact .refused rfl (.payload read asks sent exceeds)
  · have unfit : Request.ofRecord (.object members) = .error issues := by
      rw [Request.ofRecord_of_asks asks, field]
      rfl
    rw [gate, read]
    simp only [Value.isObject, ↓reduceIte, unfit, plain, Bool.false_eq_true]
    exact .refused rfl (.request read asks given other unfit)

end asking

/-- What the gate makes of a body: an order, a refusal for which there is an answer, or nothing because
its reader is exhausted. -/
theorem gate_settles {platform : Platform} {body : List UInt8}
    (wellFormed : ∀ v, Json.decodeBody platform.room body = .ok v → v.isWellFormed) :
    Gated platform body (gate platform body) := by
  cases read : Json.decodeBody platform.room body with
  | error cause =>
      rw [gate, read]
      cases cause with
      | exhausted => exact .exhausted read
      | _ => exact .refused rfl (.notJson read nofun)
  | ok v =>
      cases v with
      | object members =>
          have json := Json.decodeBody_isJson read (wellFormed _ read)
          by_cases asks : ∃ mode message, Asks members mode message
          · obtain ⟨mode, message, asks⟩ := asks
            exact gate_of_asks read asks (sentPlan_isJson json)
          · obtain ⟨issues, refused, about⟩ := Request.ofRecord_of_not_asks json asks
            rw [gate, read]
            simp only [Value.isObject, ↓reduceIte, refused, about]
            exact .refused rfl (.modeOrMessage read asks)
      | _ =>
          rw [gate, read]
          exact .refused rfl (.notObject read rfl)

end Service

end InterfacePlan
