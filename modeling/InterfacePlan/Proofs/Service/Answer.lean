import InterfacePlan.Proofs.Agent.Ending
import InterfacePlan.Proofs.Json.Room
import InterfacePlan.Proofs.Service.Gate
import InterfacePlan.Proofs.Source.WellFormed
import InterfacePlan.Service.Basic

set_option autoImplicit false

namespace InterfacePlan

variable {σ : Type}

theorem AgentResult.toWire_isJson {result : AgentResult} (sound : result.Sound)
    (explained : Text.WellFormed result.explanation) : result.toWire.isJson .received := by
  have plan := Plan.toWire_isJson sound.canonical
  have code : (Value.ofCodes result.code).isJson .received := by
    rw [sound.sourced]
    exact Value.ofCodes_isJson (Source.wellFormed_code sound.canonical)
  have explanation : (Value.ofCodes result.explanation).isJson .received :=
    Value.ofCodes_isJson explained
  refine Value.isJson_of_names ["plan", "code", "explanation"] rfl (by decide) ?_
  simp only [List.all_cons, List.all_nil, plan, code, explanation, Bool.and_true]

namespace Service

/-- What the service answers to a body, and the journal after that. -/
inductive Answered (platform : Platform) (agent : Agent) (oracle : Oracle σ) (body : List UInt8)
    (journal : Journal σ) : Response → Journal σ → Prop
  | refused {message : List Text.Code} {detail? : Option (List Text.Code)} {text : String}
      {after : Journal σ} (refused : Refused platform body message detail?)
      (written : Response.ofError 400 message detail? = ⟨400, text, none⟩)
      (silent : after.calls = journal.calls) (untouched : after.oracle = journal.oracle) :
      Answered platform agent oracle body journal ⟨400, text, none⟩ after
  | done {order : Order} {result : AgentResult} {text : String} {after : Journal σ}
      (ordered : Ordered platform body order)
      (ran : agent.run oracle order.mode.name (Text.codes order.message) order.currentPlan
        (Run.log (requested order) journal).2 = (.ok result, after))
      (written : Json.encodeBody result.toWire = .ok text) :
      Answered platform agent oracle body journal ⟨200, text, none⟩ after
  | failed {order : Order} {e : RunError} {text : String} {ended after : Journal σ}
      (ordered : Ordered platform body order)
      (ran : agent.run oracle order.mode.name (Text.codes order.message) order.currentPlan
        (Run.log (requested order) journal).2 = (.error e, ended))
      (reported : e.IsReported)
      (written : Response.ofError 500 (Text.codes "Agent failed to generate UI.") (some e.message) =
        ⟨500, text, none⟩)
      (silent : after.calls = ended.calls) (untouched : after.oracle = ended.oracle) :
      Answered platform agent oracle body journal ⟨500, text, none⟩ after
  /-- The body opens more lists and objects than its reader has room for, and no handler sees it. -/
  | exhausted {codes : List Text.Code} (decoded : Text.Encoding.decodeDetected body = .ok codes)
      (deep : platform.room < Json.Body.opens codes)
      (unread : Json.decodeBody platform.room body = .error .exhausted) :
      Answered platform agent oracle body journal (.crashed (.refusal .exhausted)) journal

variable {platform : Platform} {agent : Agent} {oracle : Oracle σ} {body : List UInt8}
  {journal : Journal σ}

theorem exists_ofError (status : Nat) {message : List Text.Code} {detail? : Option (List Text.Code)}
    (whole : Text.WellFormed message) (beside : ∀ detail ∈ detail?, Text.WellFormed detail) :
    ∃ text, Response.ofError status message detail? = ⟨status, text, none⟩ := by
  have first : (Value.ofCodes message).isJson .received := Value.ofCodes_isJson whole
  have written : ∀ members, (Value.object members).isJson .received →
      ∃ text, Response.ofValue status (.object members) = ⟨status, text, none⟩ := by
    intro members json
    obtain ⟨text, written⟩ := Json.encodeBody_isOk json
    exact ⟨text, by rw [Response.ofValue, written]⟩
  cases detail? with
  | none =>
      refine written _ (Value.isJson_of_names ["error"] rfl (by decide) ?_)
      simp only [Option.map_none, Option.toList_none, List.map_cons, List.map_nil, List.all_cons,
        List.all_nil, first, Bool.and_true]
  | some detail =>
      have second : (Value.ofCodes detail).isJson .received :=
        Value.ofCodes_isJson (beside detail rfl)
      refine written _ (Value.isJson_of_names ["error", "detail"] rfl (by decide) ?_)
      simp only [Option.map_some, Option.toList_some, List.map_cons, List.map_nil, List.all_cons,
        List.all_nil, first, second, Bool.and_true]

theorem Refused.wellFormed {message : List Text.Code} {detail? : Option (List Text.Code)}
    (refused : Refused platform body message detail?)
    (wellFormed : ∀ v, Json.decodeBody platform.room body = .ok v → v.isWellFormed) :
    Text.WellFormed message ∧ ∀ detail ∈ detail?, Text.WellFormed detail := by
  cases refused with
  | plan read asks sent fits invalid =>
      have json := sentPlan_isJson (Json.decodeBody_isJson read (wellFormed _ read))
      rw [sent] at json
      exact ⟨Plan.wellFormed_message json invalid, nofun⟩
  | request => exact ⟨⟨_, rfl⟩, by rintro detail ⟨⟩; exact ⟨_, rfl⟩⟩
  | _ => exact ⟨⟨_, rfl⟩, nofun⟩

theorem failureName?_of_isReported {e : RunError} (reported : e.IsReported) :
    ∃ name, failureName? e = some name := by
  cases reported <;> exact ⟨_, rfl⟩

/-- The plan of an order is canonical, since it was read from a body without ill-formed text. -/
theorem Ordered.canonical {order : Order} (ordered : Ordered platform body order)
    (wellFormed : ∀ v, Json.decodeBody platform.room body = .ok v → v.isWellFormed) :
    ∀ plan, order.currentPlan = some plan → plan.Canonical .any := by
  intro plan same
  cases ordered with
  | fresh => cases same
  | change read asks sent fits valid =>
      cases same
      have json := sentPlan_isJson (Json.decodeBody_isJson read (wellFormed _ read))
      rw [sent] at json
      exact Plan.canonical_of_validate json valid

theorem run_answered (textual : oracle.IsTextual)
    (wellFormed : ∀ v, Json.decodeBody platform.room body = .ok v → v.isWellFormed) {order : Order}
    (ordered : Ordered platform body order) (journal : Journal σ) :
    ∃ response after,
      run agent oracle order (Run.log (requested order) journal).2 = (response, after) ∧
      Answered platform agent oracle body journal response after := by
  obtain ⟨result, after, ran, ⟨done, text, rfl, explained⟩ | ⟨e, rfl, reported, whole⟩⟩ :=
    Agent.run_reports agent order.mode.name (Text.codes order.message) textual
      (ordered.canonical wellFormed) (Run.log (requested order) journal).2
  · obtain ⟨text, written⟩ :=
      Json.encodeBody_isOk (done.toWire_isJson (Agent.sound_of_run ran) ⟨text, explained⟩)
    refine ⟨⟨200, text, none⟩, after, ?_, .done ordered ran written⟩
    simp only [run, ran, Response.ofResult, Response.ofValue, written]
  · obtain ⟨name, named⟩ := failureName?_of_isReported reported
    have beside : ∀ detail ∈ some e.message, Text.WellFormed detail := by
      rintro detail ⟨⟩
      exact whole
    obtain ⟨text, written⟩ := exists_ofError 500 ⟨"Agent failed to generate UI.", rfl⟩ beside
    have answered : run agent oracle order (Run.log (requested order) journal).2 =
        (⟨500, text, none⟩, (Run.log ⟨.error, "agent_failed",
          [("error", .ofCodes e.message), ("error_type", .text name)]⟩ after).2) := by
      simp only [run, ran, named, Response.failed, written]
    exact ⟨_, _, answered, .failed ordered ran reported written rfl rfl⟩

def preparedReplies : Oracle (List String) where
  chat _ replies :=
    match replies with
    | [] => ⟨.error (.error ⟨Text.codes "no reply left", none, none⟩), [], []⟩
    | reply :: rest => ⟨.ok (Text.codes reply), [], rest⟩

theorem preparedReplies_isTextual : preparedReplies.IsTextual := by
  intro messages replies
  cases replies with
  | nil => exact .inr ⟨_, rfl, _, rfl⟩
  | cons reply rest => exact .inl ⟨reply, rfl⟩

def firstRequest : List UInt8 :=
  "\x7b\"mode\":\"initial\",\"message\":\"Hi\"\x7d".toUTF8.data.toList

def firstOrder : Order :=
  ⟨.initial, "Hi", none⟩

theorem firstRequest_passes : gate (.bare 990) firstRequest = .ok firstOrder := by
  decide +kernel

def emptyPage : String :=
  "\x7b\"layout\":\x7b\"layoutStyle\":\"custom\"\x7d,"
    ++ "\"root\":\x7b\"id\":\"r\",\"kind\":\"page\"\x7d\x7d"

def emptyPageMembers : Members :=
  [(.text "layout", .object [(.text "layoutStyle", .text "custom")]),
    (.text "root", .object [(.text "id", .text "r"), (.text "kind", .text "page")])]

theorem answer_emptyPage {response : Response} {after : Journal (List String)}
    (answered : answer (.bare 990) {} preparedReplies firstRequest
      { oracle := [emptyPage, "A page."] } = (response, after)) :
    response.status = 200 ∧ after.calls.length = 2 := by
  have extracted : Json.extract false (Text.codes emptyPage) = .ok emptyPageMembers := by
    decide +kernel
  obtain ⟨plan, valid⟩ : ∃ plan, Plan.validate (.object emptyPageMembers) = .ok plan := ⟨_, rfl⟩
  obtain ⟨events, ran⟩ := @Agent.run_gives _ {} firstOrder.mode.name _ (Text.codes firstOrder.message)
    _ _ firstOrder.currentPlan _ _ preparedReplies
    (Run.log (requested firstOrder) { oracle := [emptyPage, "A page."] }).2 (Text.codes emptyPage)
    (Text.codes "A page.") rfl rfl rfl extracted valid rfl rfl
  obtain ⟨text, written⟩ :=
    Json.encodeBody_isOk (AgentResult.toWire_isJson (Agent.sound_of_run ran) ⟨"A page.", rfl⟩)
  rw [answer, firstRequest_passes] at answered
  simp only [run, ran, Response.ofResult, Response.ofValue, written] at answered
  cases answered
  exact ⟨rfl, rfl⟩

def silence : String :=
  "\x7b\"error\":\"Agent failed to generate UI.\",\"detail\":\"no reply left\"\x7d"

end Service

end InterfacePlan
