import InterfacePlan.Proofs.Service.Answer
import InterfacePlan.Proofs.Service.Payload

set_option autoImplicit false

namespace InterfacePlan

variable {σ : Type}

namespace Service

open Request (Asks sentPlan)

variable {platform : Platform} {agent : Agent} {oracle : Oracle σ} {body : List UInt8}
  {journal after : Journal σ} {response : Response}

theorem status_ofValue (status : Nat) (v : Value) :
    (Response.ofValue status v).status = status ∨ (Response.ofValue status v).status = 500 := by
  rw [Response.ofValue]
  split
  · exact .inl rfl
  · exact .inr rfl

theorem status_refused (refusal : Refusal) :
    (Response.refused refusal).status = 400 ∨ (Response.refused refusal).status = 500 := by
  rw [Response.refused]
  split
  · exact status_ofValue _ _
  · exact .inr rfl

theorem status_run {order : Order} (answered : run agent oracle order journal = (response, after)) :
    response.status = 500 ∨
      response.status = 200 ∧ ∃ result,
        agent.run oracle order.mode.name (Text.codes order.message) order.currentPlan journal =
          (.ok result, after) ∧ Json.encodeBody result.toWire = .ok response.body := by
  rw [run] at answered
  split at answered
  · rename_i result ended ran
    cases answered
    rw [Response.ofResult, Response.ofValue]
    cases written : Json.encodeBody result.toWire with
    | ok text => exact .inr ⟨rfl, result, ran, written⟩
    | error e => exact .inl rfl
  · split at answered
    · cases answered
      exact .inl rfl
    · cases answered
      exact .inl ((status_ofValue _ _).elim id id)

theorem answer_of_refused {refusal : Refusal} (refused : gate platform body = .error refusal) :
    (answer platform agent oracle body journal).1 = .refused refusal := by
  rw [answer, refused]
  simp only
  split <;> rfl

theorem answer_of_ordered {order : Order} (passed : gate platform body = .ok order) :
    answer platform agent oracle body journal =
      run agent oracle order (Run.log (requested order) journal).2 := by
  rw [answer, passed]

theorem exists_of_status_ok (answered : answer platform agent oracle body journal = (response, after))
    (success : response.status = 200) :
    ∃ order result, gate platform body = .ok order ∧
      agent.run oracle order.mode.name (Text.codes order.message) order.currentPlan
        (Run.log (requested order) journal).2 = (.ok result, after) ∧
      Json.encodeBody result.toWire = .ok response.body := by
  cases passed : gate platform body with
  | error refusal =>
      have refused : (answer platform agent oracle body journal).1 = .refused refusal :=
        answer_of_refused passed
      rw [answered] at refused
      have status := status_refused refusal
      rw [← refused, success] at status
      omega
  | ok order =>
      rw [answer_of_ordered passed] at answered
      rcases status_run answered with failure | ⟨-, result, ran, written⟩
      · rw [success] at failure
        cases failure
      · exact ⟨order, result, rfl, ran, written⟩

/-- A canonical plan that comes with a request is refused exactly if it is over one of the bounds. -/
theorem status_handed_back {plan : Plan} (canonical : plan.Canonical .received) {text : List Char}
    (written : Json.encode none plan.toWire = .ok (text.map .char)) {members : Members} {mode : Mode}
    {message : String} (read : Json.decodeBody platform.room body = .ok (.object members))
    (asks : Asks members mode message) (sent : sentPlan members = plan.toWire) :
    (answer platform agent oracle body journal).1.status = 400 ↔
      512 * 1024 < (String.ofList text).utf8ByteSize ∨ 64 < plan.toWire.depth := by
  obtain ⟨payload, same⟩ : ∃ payload, plan.toWire = .object payload := ⟨_, rfl⟩
  have json : (sentPlan members).isJson .any := by
    rw [sent]
    exact Value.isJson_mono (Json.Numbers.within_any _) (Plan.toWire_isJson canonical)
  have gated := gate_of_payload read asks json (sent.trans same)
  have valid : Plan.validate (.object payload) = .ok plan := by
    rw [← same]
    exact Plan.validate_toWire canonical.regular
  rw [same] at written ⊢
  have fits := Payload.check_eq_ok_iff written
  rw [readCurrentPlan] at gated
  rw [sent, same] at json
  rcases check_cases json with within | ⟨cause, exceeds⟩
  · obtain ⟨short, shallow⟩ := fits.mp within
    simp only [within, valid, Except.map] at gated
    rw [answer_of_ordered gated]
    rcases answered : run agent oracle ⟨mode, message, some plan⟩
      (Run.log (requested ⟨mode, message, some plan⟩) journal).2 with ⟨response, after⟩
    have status : response.status ≠ 400 := by
      rcases status_run answered with failure | ⟨success, -⟩ <;> omega
    exact iff_of_false status (by omega)
  · have outside : ¬ ((String.ofList text).utf8ByteSize ≤ 512 * 1024 ∧
        (Value.object payload).depth ≤ 64) := by
      intro inside
      rw [fits.mpr inside] at exceeds
      cases exceeds
    simp only [exceeds, Except.map] at gated
    have beside : ∀ detail ∈ (none : Option (List Text.Code)), Text.WellFormed detail := by simp
    obtain ⟨body, told⟩ := exists_ofError 400 ⟨cause.message, rfl⟩ beside
    have refused : Response.refused (.payload cause) = ⟨400, body, none⟩ := told
    rw [answer_of_refused gated, refused]
    exact iff_of_true rfl (by omega)

/-- The plan in an answer is valid when it is sent back, whatever else is sent with it, and it is refused
exactly if it is over one of the bounds. -/
theorem answer_handed_back (answered : answer platform agent oracle body journal = (response, after))
    (success : response.status = 200) :
    ∃ (order : Order) (result : AgentResult) (text : List Char), gate platform body = .ok order ∧
      agent.run oracle order.mode.name (Text.codes order.message) order.currentPlan
        (Run.log (requested order) journal).2 = (.ok result, after) ∧
      Json.encodeBody result.toWire = .ok response.body ∧
      Json.encode none result.plan.toWire = .ok (text.map .char) ∧
      Plan.validate result.plan.toWire = .ok result.plan ∧
      ∀ (σ' : Type) (platform' : Platform) (agent' : Agent) (oracle' : Oracle σ') (journal' : Journal σ')
        (later : List UInt8) (members : Members) (mode : Mode) (message : String),
        Json.decodeBody platform'.room later = .ok (.object members) → Asks members mode message →
        sentPlan members = result.plan.toWire →
        ((answer platform' agent' oracle' later journal').1.status = 400 ↔
          512 * 1024 < (String.ofList text).utf8ByteSize ∨ 64 < result.plan.toWire.depth) := by
  obtain ⟨order, result, passed, ran, holds⟩ := exists_of_status_ok answered success
  have canonical := (Agent.sound_of_run ran).canonical
  have wire := Value.isJson_mono (Json.Numbers.within_any _) (Plan.toWire_isJson canonical)
  obtain ⟨text, written⟩ := Json.encode_isOk none wire
  refine ⟨order, result, text, passed, ran, holds, written,
    Plan.validate_toWire canonical.regular, ?_⟩
  intro σ' platform' agent' oracle' journal' later members mode message read asks sent
  exact status_handed_back canonical written read asks sent

def nested : Nat → Value
  | 0 => .list []
  | n + 1 => .list [nested n]

def nestedPage (n : Nat) : Plan :=
  ⟨[], ⟨.custom, none, none⟩, .mk "r" (.known .page) [(.text "a", nested n)] none, none⟩

def pageResult (n : Nat) : AgentResult :=
  ⟨nestedPage n, Source.code (nestedPage n), Text.codes "z"⟩

/-- The reply of a model that draws up such a page. -/
def pageReply (n : Nat) : String :=
  String.ofList (Text.chars ((Json.encode none (nestedPage n).toWire).toOption.getD []))

def pageJournal (n : Nat) : Journal (List (Except OracleError String)) :=
  { oracle := [.ok (pageReply n), .ok "z"] }

def laterRequest (n : Nat) : List UInt8 :=
  ("\x7b\"mode\":\"modify\",\"message\":\"Hi\",\"currentPlan\":" ++ pageReply n
    ++ "\x7d").toUTF8.data.toList

def laterMembers (n : Nat) : Members :=
  [(.text "mode", .text "modify"), (.text "message", .text "Hi"),
    (.text "currentPlan", (nestedPage n).toWire)]

theorem laterMembers_ask (n : Nat) : Asks (laterMembers n) .modify "Hi" :=
  ⟨rfl, rfl, by decide⟩

theorem laterMembers_send (n : Nat) : sentPlan (laterMembers n) = (nestedPage n).toWire :=
  rfl

theorem nested_isJson (numbers : Json.Numbers) (n : Nat) : (nested n).isJson numbers := by
  induction n with
  | zero => rfl
  | succ n ih =>
      rw [nested, Value.isJson_list]
      exact List.forall_mem_singleton.mpr ih

theorem nestedPage_canonical (numbers : Json.Numbers) (n : Nat) :
    (nestedPage n).Canonical numbers := by
  have props : (Value.object [(.text "a", nested n)]).isJson numbers := by
    refine Value.isJson_of_names ["a"] rfl (by decide) ?_
    simp only [List.all_cons, List.all_nil, nested_isJson, Bool.and_true]
  refine ⟨⟨"", rfl⟩, ?_, fun log none => nomatch none⟩
  exact .node ⟨rfl, by decide⟩ props fun nodes none => nomatch none

theorem pageReply_eq (n : Nat) :
    ∃ text : List Char, Json.encode none (nestedPage n).toWire = .ok (text.map .char) ∧
      pageReply n = String.ofList text := by
  have short := Plan.toWire_isJson (nestedPage_canonical .shortIntegers n)
  obtain ⟨text, written⟩ := Json.encode_isOk none
    (Value.isJson_mono (Json.Numbers.within_any _) short)
  refine ⟨text, written, ?_⟩
  rw [pageReply, written]
  exact congrArg String.ofList (Text.chars_map_char text)

theorem run_nestedPage (n : Nat) :
    ∃ after, Agent.run {} Oracle.scripted firstOrder.mode.name (Text.codes firstOrder.message)
      firstOrder.currentPlan (Run.log (requested firstOrder) (pageJournal n)).2 =
        (.ok (pageResult n), after) := by
  have short := Plan.toWire_isJson (nestedPage_canonical .shortIntegers n)
  have valid := Plan.validate_toWire (nestedPage_canonical .shortIntegers n).regular
  obtain ⟨payload, same⟩ : ∃ payload, (nestedPage n).toWire = .object payload := ⟨_, rfl⟩
  obtain ⟨text, written, replied⟩ := pageReply_eq n
  rw [same] at short written valid
  have reply : Text.codes (pageReply n) = [] ++ text.map .char ++ [] := by
    rw [replied, Text.codes, String.toList_ofList, List.nil_append, List.append_nil]
  have extracted : Json.extract false (Text.codes (pageReply n)) = .ok payload := by
    rw [reply]
    exact Json.extract_written (Json.writes_of_encode written) short false List.not_mem_nil
      List.not_mem_nil
  obtain ⟨events, ran⟩ := @Agent.run_gives _ {} firstOrder.mode.name _ (Text.codes firstOrder.message) _ _
    firstOrder.currentPlan _ _ Oracle.scripted (Run.log (requested firstOrder) (pageJournal n)).2
    (Text.codes (pageReply n)) (Text.codes "z") rfl rfl rfl extracted valid rfl rfl
  exact ⟨_, ran⟩

theorem answer_nestedPage (n : Nat) :
    ∃ response after,
      answer (.bare 990) {} Oracle.scripted firstRequest (pageJournal n) = (response, after) ∧
      response.status = 200 ∧ Json.encodeBody (pageResult n).toWire = .ok response.body := by
  obtain ⟨after, ran⟩ := run_nestedPage n
  obtain ⟨body, encoded⟩ := Json.encodeBody_isOk
    (@AgentResult.toWire_isJson (pageResult n) ⟨nestedPage_canonical .received n, rfl⟩ ⟨"z", rfl⟩)
  refine ⟨⟨200, body, none⟩, after, ?_, rfl, encoded⟩
  rw [answer_of_ordered firstRequest_passes, run]
  simp only [ran, Response.ofResult, Response.ofValue, encoded]

/-- A page without nesting is handed out and taken back. -/
theorem answer_handed_back_flat :
    ∃ response after,
      answer (.bare 990) {} Oracle.scripted firstRequest (pageJournal 0) = (response, after) ∧
      response.status = 200 ∧ Plan.validate (nestedPage 0).toWire = .ok (nestedPage 0) ∧
      (answer (.bare 990) {} Oracle.scripted (laterRequest 0) (pageJournal 0)).1.status ≠ 400 := by
  obtain ⟨response, after, answered, success, -⟩ := answer_nestedPage 0
  obtain ⟨order, result, text, passed, ran, -, written, valid, back⟩ :=
    answer_handed_back answered success
  rw [firstRequest_passes] at passed
  cases passed
  obtain ⟨ended, same⟩ := run_nestedPage 0
  rw [same] at ran
  cases ran
  have read : Json.decodeBody 990 (laterRequest 0) = .ok (.object (laterMembers 0)) := by
    decide +kernel
  have short : (pageReply 0).utf8ByteSize ≤ 512 * 1024 := by decide +kernel
  have shallow : (nestedPage 0).toWire.depth ≤ 64 := by decide +kernel
  obtain ⟨text', written', replied⟩ := pageReply_eq 0
  have texts : text' = text := Text.chars_injective (Except.ok.inj (written'.symm.trans written))
  subst texts
  rw [replied] at short
  refine ⟨response, after, answered, success, valid, ?_⟩
  intro refused
  have exceeds :=
    (back _ (.bare 990) _ _ _ _ _ _ _ read (laterMembers_ask 0) (laterMembers_send 0)).mp refused
  have bounds : (pageResult 0).plan.toWire.depth ≤ 64 := shallow
  omega

/-- A page that nests too deep is handed out and not taken back. -/
theorem nestedPage_refused :
    ∃ response after,
      answer (.bare 990) {} Oracle.scripted firstRequest (pageJournal 62) = (response, after) ∧
      response.status = 200 ∧ Json.encodeBody (pageResult 62).toWire = .ok response.body ∧
      Json.decodeBody 990 (laterRequest 62) = .ok (.object (laterMembers 62)) ∧
      Asks (laterMembers 62) .modify "Hi" ∧
      sentPlan (laterMembers 62) = (pageResult 62).plan.toWire ∧
      (answer (.bare 990) {} Oracle.scripted (laterRequest 62) (pageJournal 62)).1.status = 400 := by
  obtain ⟨response, after, answered, success, holds⟩ := answer_nestedPage 62
  obtain ⟨text, written, -⟩ := pageReply_eq 62
  have read : Json.decodeBody 990 (laterRequest 62) = .ok (.object (laterMembers 62)) := by
    decide +kernel
  have deep : 64 < (nestedPage 62).toWire.depth := by decide +kernel
  have asks := laterMembers_ask 62
  have sent := laterMembers_send 62
  refine ⟨response, after, answered, success, holds, read, asks, sent, ?_⟩
  have refused := @status_handed_back _ (.bare 990) {} Oracle.scripted _ (pageJournal 62) _
    (nestedPage_canonical .received 62) _ written _ _ _ read asks sent
  exact refused.mpr (.inr deep)

end Service

end InterfacePlan
