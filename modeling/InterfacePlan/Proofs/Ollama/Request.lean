import InterfacePlan.Ollama.Client
import InterfacePlan.Proofs.Json.Codes
import InterfacePlan.Proofs.Json.Written
import InterfacePlan.Proofs.Schema

set_option autoImplicit false

namespace InterfacePlan

theorem Role.ofName?_iff {s : String} {role : Role} : ofName? s = some role ↔ s = role.name :=
  find_name_iff (fun a => by cases a <;> decide) (by decide)

namespace Ollama

open Schema

/-- Whether a value is a message: a role by its name, and a text. -/
structure IsMessage (v : Value) (message : ChatMessage) : Prop where
  role : (v.get "role").text? = some (Text.codes message.role.name)
  content : (v.get "content").text? = some message.content

theorem readRole_eq_ok_iff {v : Value} {role : Role} :
    constrained (fun s => ofOption .stringPattern (Role.ofName? s)) v = .ok role ↔
      v.text? = some (Text.codes role.name) := by
  have named : ∀ s, ofOption .stringPattern (Role.ofName? s) = .ok role ↔ s = role.name := by
    intro s
    rw [← Role.ofName?_iff]
    cases Role.ofName? s <;> simp [ofOption, Checked.fail]
  rw [constrained_eq_ok_iff]
  simp only [named, exists_eq_right]

theorem readMessage_eq_ok_iff {v : Value} {message : ChatMessage} :
    readMessage v = .ok message ↔ IsMessage v message := by
  cases v with
  | object members =>
      rw [readMessage, model]
      simp only [Checked.ap_eq_ok_iff, required_eq_ok_iff, string_eq_ok_iff, readRole_eq_ok_iff,
        ← Members.text?_get_iff]
      constructor
      · rintro ⟨_, content, ⟨_, role, ⟨⟩, named, rfl⟩, told, rfl⟩
        exact ⟨named, told⟩
      · rintro ⟨role, content⟩
        exact ⟨_, message.content, ⟨_, message.role, rfl, role, rfl⟩, content, rfl⟩
  | _ =>
      constructor
      · intro read
        cases read
      · rintro ⟨role, -⟩
        cases role

theorem readMessages_eq_ok_iff {vs : List Value} {messages : List ChatMessage} :
    readMessages vs = .ok messages ↔ List.Forall₂ IsMessage vs messages := by
  induction vs generalizing messages with
  | nil => cases messages <;> simp [readMessages]
  | cons v rest ih =>
      rw [readMessages]
      cases read : readMessage v with
      | error e =>
          constructor
          · intro none
            cases none
          · rintro (_ | ⟨head, -⟩)
            rw [readMessage_eq_ok_iff.mpr head] at read
            cases read
      | ok message =>
          constructor
          · intro all
            obtain ⟨others, tail, rfl⟩ := exists_of_map all
            exact .cons (readMessage_eq_ok_iff.mp read) (ih.mp tail)
          · rintro (_ | ⟨head, tail⟩)
            rw [readMessage_eq_ok_iff.mpr head] at read
            cases read
            rw [ih.mpr tail]
            rfl

theorem finite_of_withinLimit {limit x : Double} {a : Checked Double} (limited : limit.units?.isSome)
    (read : withinLimit limit a = .ok x) : x.units?.isSome := by
  rw [withinLimit, guard_eq_ok_iff, guard_eq_ok_iff] at read
  obtain ⟨⟨-, upper⟩, lower⟩ := read
  cases limit with
  | finite negative m q onGrid =>
      cases x with
      | nan => cases upper
      | infinity negative =>
          cases negative
          · cases upper
          · cases lower
      | finite => rfl
  | _ => cases limited

/-- What every checked configuration keeps: some calls are let through, and a temperature is finite. -/
structure Config.Sound (config : Config) : Prop where
  positive : 0 < config.policy.failMax
  finite : ∀ x, config.temperature = some x → x.units?.isSome

theorem Config.sound_of_ofMembers {members : Members} {config : Config}
    (checked : ofMembers members = .ok config) : config.Sound := by
  rw [ofMembers] at checked
  simp only [Checked.ap_eq_ok_iff, optional_eq_ok_iff] at checked
  obtain ⟨_, reset, ⟨_, most, ⟨_, temperature, ⟨_, timeout, ⟨_, model, ⟨_, url, ⟨⟩, -, rfl⟩, -, rfl⟩,
    -, rfl⟩, cold, rfl⟩, few, rfl⟩, -, rfl⟩ := checked
  constructor
  · rcases few with ⟨-, rfl⟩ | ⟨v, -, read⟩
    · exact (by decide : 0 < Int.toNat 5)
    · have atLeastOne : 1 ≤ most := of_decide_eq_true (guard_eq_ok_iff.mp read).2
      show 0 < most.toNat
      omega
  · intro x same
    rcases cold with ⟨-, rfl⟩ | ⟨v, -, read⟩
    · cases same
    · rw [readTemperature] at read
      by_cases null : v = .null
      · subst null
        cases read
        cases same
      · rw [nullable_of_ne_null null] at read
        obtain ⟨y, limited, rfl⟩ := exists_of_map read
        cases same
        exact finite_of_withinLimit rfl limited

/-- The texts of a request have a form in bytes. -/
def Encodable (config : Config) (messages : List ChatMessage) : Prop :=
  Text.WellFormed config.modelName ∧ ∀ message ∈ messages, Text.WellFormed message.content

theorem messageRecord_isJson {message : ChatMessage} (content : Text.WellFormed message.content) :
    (messageRecord message).isJson .received := by
  have contentIs : (Value.ofCodes message.content).isJson .received := Value.ofCodes_isJson content
  refine Value.isJson_of_names ["role", "content"] rfl (by decide) ?_
  simp only [List.all_cons, List.all_nil, Value.isJson_text, contentIs, Bool.and_self]

theorem payload_isJson {config : Config} {messages : List ChatMessage} (sound : config.Sound)
    (encodable : Encodable config messages) : (payload config messages).isJson .received := by
  obtain ⟨model, contents⟩ := encodable
  have modelIs : (Value.ofCodes config.modelName).isJson .received := Value.ofCodes_isJson model
  have records : (Value.list (messages.map messageRecord)).isJson .received := by
    rw [Value.isJson_list]
    intro v inside
    obtain ⟨message, member, rfl⟩ := List.mem_map.mp inside
    exact messageRecord_isJson (contents message member)
  rw [payload]
  cases temperature : config.temperature with
  | none =>
      refine Value.isJson_of_names ["model", "messages", "stream"] rfl (by decide) ?_
      simp only [List.append_nil, List.all_cons, List.all_nil, modelIs, records, Bool.and_true,
        Bool.true_and]
      rfl
  | some x =>
      have options : (Value.object [(.text "temperature", .float x)]).isJson .received :=
        Value.isJson_of_names ["temperature"] rfl (by decide) (by
          simp only [List.all_cons, List.all_nil, Bool.and_true]
          exact sound.finite x temperature)
      refine Value.isJson_of_names ["model", "messages", "stream", "options"] rfl (by decide) ?_
      simp only [List.cons_append, List.nil_append, List.all_cons, List.all_nil,
        modelIs, records, options, Bool.and_true, Bool.true_and]
      rfl

theorem exists_write_records (style : Json.Plain.Style) (level : Nat) (messages : List ChatMessage) :
    ∃ parts, Json.Plain.writeItems style level (messages.map messageRecord) = .ok parts := by
  induction messages with
  | nil => exact ⟨[], rfl⟩
  | cons message rest ih =>
      obtain ⟨parts, written⟩ := ih
      simp only [List.map_cons, Json.Plain.writeItems, messageRecord, Json.Plain.write,
        Json.Plain.writeMembers, Json.Plain.writeKey, Json.Plain.write_ofCodes, Except.map, written]
      exact ⟨_, rfl⟩

theorem exists_write_payload {config : Config} (sound : config.Sound) (messages : List ChatMessage) :
    ∃ codes, Json.Plain.write { layout := .compact, nonFinite := false } 0
      (payload config messages) = .ok codes := by
  obtain ⟨parts, written⟩ :=
    exists_write_records { layout := .compact, nonFinite := false } 2 messages
  rw [payload]
  cases temperature : config.temperature with
  | none =>
      simp only [List.append_nil, Json.Plain.write, Json.Plain.writeMembers, Json.Plain.writeKey,
        Json.Plain.write_ofCodes, Except.map, written]
      exact ⟨_, rfl⟩
  | some x =>
      have finite := sound.finite x temperature
      cases x with
      | finite negative m q onGrid =>
          simp only [List.cons_append, List.nil_append, Json.Plain.write, Json.Plain.writeMembers,
            Json.Plain.writeKey, Json.Plain.write_ofCodes, Json.Plain.writeFloat, Except.map, written]
          exact ⟨_, rfl⟩
      | _ => cases finite

theorem encodeBody_payload {config : Config} {messages : List ChatMessage} (sound : config.Sound)
    (encodable : Encodable config messages) :
    ∃ body, Json.encodeBody (payload config messages) = .ok body :=
  Json.encodeBody_isOk (payload_isJson sound encodable)

theorem exists_surrogate_of_not_encodable {config : Config} {messages : List ChatMessage}
    (broken : ¬ Encodable config messages) :
    ∃ unit, (payload config messages).HoldsSurrogate unit := by
  rw [Encodable, not_and_or] at broken
  rcases broken with model | contents
  · exact Value.exists_holdsSurrogate (.field List.mem_cons_self .here) model
  · obtain ⟨message, member, content⟩ := by
      simpa only [not_forall, exists_prop] using contents
    have record : (Value.ofCodes message.content).Inside (messageRecord message) :=
      .field (List.mem_cons_of_mem _ List.mem_cons_self) .here
    have inside : (Value.ofCodes message.content).Inside (.list (messages.map messageRecord)) :=
      .item (List.mem_map_of_mem member) record
    exact Value.exists_holdsSurrogate
      (.field (List.mem_cons_of_mem _ List.mem_cons_self) inside) content

/-- A surrogate that stands alone keeps a request from being written. -/
theorem encodeBody_payload_of_not {config : Config} {messages : List ChatMessage}
    (sound : config.Sound) (broken : ¬ Encodable config messages) :
    Json.encodeBody (payload config messages) = .error .illFormed := by
  obtain ⟨codes, written⟩ := exists_write_payload sound messages
  obtain ⟨unit, holds⟩ := exists_surrogate_of_not_encodable broken
  exact Json.encodeBody_of_surrogate holds written

end Ollama

end InterfacePlan
