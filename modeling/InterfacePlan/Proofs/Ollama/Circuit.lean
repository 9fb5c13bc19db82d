import InterfacePlan.Proofs.Breaker
import InterfacePlan.Proofs.Ollama.Request

set_option autoImplicit false

namespace InterfacePlan.Ollama

open Breaker (Trial Admits streak)

/-- What a request comes to by the outcome that the transport had for it, and whether that is a success
to the breaker. -/
inductive Judged (platform : Platform) (url : Url) :
    Except String HttpResponse → Except OracleFailure (List Text.Code) → Bool → Prop
  | reply {response : HttpResponse} {v : Value} (absolute : url.isAbsolute)
      (success : response.isSuccess)
      (read : Json.decodeBody platform.room response.body = .ok v) :
      Judged platform url (.ok response) (.ok (replyText v)) true
  /-- The service answered with something that is no JSON. -/
  | garbled {response : HttpResponse} {cause : Json.BodyError} (absolute : url.isAbsolute)
      (success : response.isSuccess) (other : cause ≠ .exhausted)
      (unread : Json.decodeBody platform.room response.body = .error cause) :
      Judged platform url (.ok response)
        (.error (.error ⟨Text.codes ("Ollama returned invalid JSON: " ++ cause.message),
          some response.status, none⟩)) true
  /-- The body nests too deep for its reader, and no error of the oracle is made. -/
  | exhausted {response : HttpResponse} (absolute : url.isAbsolute) (success : response.isSuccess)
      (unread : Json.decodeBody platform.room response.body = .error .exhausted) :
      Judged platform url (.ok response)
        (.error (.accident ⟨.recursion, Json.BodyError.message .exhausted⟩)) true
  | refused {response : HttpResponse} {body : List Text.Code} (absolute : url.isAbsolute)
      (failure : response.isSuccess = false) (read : response.text platform = .ok body) :
      Judged platform url (.ok response)
        (.error (.error ⟨Text.codes ("Ollama error " ++ toString response.status ++ ": ") ++ body,
          some response.status, some body⟩)) false
  /-- The body of a failure is not in the charset that it claims, and no error of the oracle is made. -/
  | undecodable {response : HttpResponse} {words : String} (absolute : url.isAbsolute)
      (failure : response.isSuccess = false) (unread : response.text platform = .error words) :
      Judged platform url (.ok response) (.error (.accident ⟨.encoding, words⟩)) false
  | relative {response : HttpResponse} (relative : url.isAbsolute = false) :
      Judged platform url (.ok response)
        (.error (.accident ⟨.value,
          "unknown url type: " ++ Url.shown (Client.target url).toList⟩)) false
  | unreached (words : String) :
      Judged platform url (.error words)
        (.error (.error ⟨Text.codes ("Ollama request failed: " ++ words), none, none⟩)) false

/-- A request cannot be put in bytes: its URL is ill-formed, or one of its texts is. Where a well-formed
URL leads is told before its texts are looked at. -/
inductive Unsendable (config : Config) (messages : List ChatMessage) : Prop
  | url (illFormed : ¬ Text.WellFormed config.url)
  | texts {text : String} {url : Url} (told : config.url = Text.codes text)
      (parsed : Url.parse text = .ok url) (illFormed : ¬ Encodable config messages)

namespace Client

variable {τ : Type} {platform : Platform} {transport : Transport τ} {history : List Trial}
  {client : Client τ}

theorem judged_judge (platform : Platform) (url : Url) (outcome : Except String HttpResponse) :
    Judged platform url outcome ((judge platform url outcome).1.mapError Fault.failure)
      (judge platform url outcome).2 := by
  cases outcome with
  | error words => exact .unreached words
  | ok response =>
      rw [judge]
      cases absolute : url.isAbsolute with
      | false => exact .relative absolute
      | true =>
          cases success : response.isSuccess with
          | true =>
              simp only [Bool.not_true, Bool.false_eq_true, ↓reduceIte, HttpResponse.read]
              cases read : Json.decodeBody platform.room response.body with
              | ok v => exact .reply absolute success read
              | error cause =>
                  cases cause with
                  | exhausted => exact .exhausted absolute success read
                  | _ => exact .garbled absolute success nofun read
          | false =>
              simp only [Bool.not_true, Bool.false_eq_true, ↓reduceIte, HttpResponse.statusFault]
              cases read : response.text platform with
              | ok body => exact .refused absolute success read
              | error words => exact .undecodable absolute success read

inductive Made (config : Config) (messages : List ChatMessage) :
    Except Fault (Url × HttpRequest) → Prop
  | noUrl (illFormed : ¬ Text.WellFormed config.url) : Made config messages (.error .noUrl)
  | noHost {text : String} {cause : Url.UrlError} (told : config.url = Text.codes text)
      (noUrl : Url.parse text = .error cause) : Made config messages (.error (.url cause))
  | noBody {text : String} {url : Url} (told : config.url = Text.codes text)
      (parsed : Url.parse text = .ok url) (illFormed : ¬ Encodable config messages) :
      Made config messages (.error (.unwritable .illFormed))
  | request {text : String} {url : Url} {body : String} (told : config.url = Text.codes text)
      (parsed : Url.parse text = .ok url)
      (written : Json.encodeBody (payload config messages) = .ok body) :
      Made config messages (.ok (url, ⟨"POST", target url, body⟩))

theorem made_request {config : Config} (sound : config.Sound) (messages : List ChatMessage) :
    Made config messages (request config messages) := by
  rw [request]
  cases whole : Text.wellFormed? config.url with
  | none =>
      refine .noUrl ?_
      rintro ⟨text, told⟩
      rw [Text.wellFormed?_eq_some_iff.mpr told] at whole
      cases whole
  | some text =>
      have told := Text.wellFormed?_eq_some_iff.mp whole
      cases parsed : Url.parse text with
      | error cause =>
          simp only [parsed]
          exact .noHost told parsed
      | ok url =>
          simp only [parsed]
          by_cases encodable : Encodable config messages
          · obtain ⟨body, written⟩ := encodeBody_payload sound encodable
            rw [written]
            exact .request told parsed written
          · rw [encodeBody_payload_of_not sound encodable]
            exact .noBody told parsed encodable

/-- One call of a client: its result, and the history and the client after it. The history is that of
the calls that the breaker has let through, latest first. -/
inductive Turn (platform : Platform) (transport : Transport τ) (history : List Trial) (client : Client τ)
    (messages : List Value) :
    Except CallError (List Text.Code) → List Trial → Client τ → Prop
  | malformed {issues : List Schema.Issue}
      (unread : ¬ ∃ read, List.Forall₂ IsMessage messages read) :
      Turn platform transport history client messages (.error (.messages issues)) history client
  | resting {read : List ChatMessage} {last : Trial} {earlier : List Trial} {ends : Nat}
      (wellFormed : List.Forall₂ IsMessage messages read)
      (latest : history = last :: earlier) (tripped : client.config.policy.failMax ≤ streak history)
      (rests : client.config.policy.RestsUntil last.time ends) (early : client.now < ends) :
      Turn platform transport history client messages
        (.error (.failure (.error ⟨Text.codes "Ollama unavailable: circuit breaker open", none, none⟩)))
        history client
  /-- No calendar holds the end of the rest, and no error of the oracle is made. -/
  | endless {read : List ChatMessage} {last : Trial} {earlier : List Trial}
      {cause : Breaker.RestError} (wellFormed : List.Forall₂ IsMessage messages read)
      (latest : history = last :: earlier) (tripped : client.config.policy.failMax ≤ streak history)
      (untold : client.config.policy.restEnd last.time = .error cause) :
      Turn platform transport history client messages
        (.error (.failure (.accident ⟨.overflow, cause.message⟩))) history client
  | misdirected {read : List ChatMessage} {text : String} {cause : Url.UrlError}
      (wellFormed : List.Forall₂ IsMessage messages read)
      (admits : Admits client.config.policy history client.now)
      (told : client.config.url = Text.codes text) (noUrl : Url.parse text = .error cause) :
      Turn platform transport history client messages
        (.error (.failure (.accident ⟨.url, cause.message⟩))) (⟨client.now, false⟩ :: history)
        { client with
          breaker := Breaker.after client.config.policy (⟨client.now, false⟩ :: history) }
  /-- A surrogate stands alone in the request, and no error of the oracle is made. -/
  | unsendable {read : List ChatMessage} (wellFormed : List.Forall₂ IsMessage messages read)
      (admits : Admits client.config.policy history client.now)
      (broken : Unsendable client.config read) :
      Turn platform transport history client messages
        (.error (.failure (.accident ⟨.encoding, Json.EncodeError.message .illFormed⟩)))
        (⟨client.now, false⟩ :: history)
        { client with
          breaker := Breaker.after client.config.policy (⟨client.now, false⟩ :: history) }
  | sent {read : List ChatMessage} {text : String} {url : Url} {request : HttpRequest} {body : String}
      {outcome : Except String HttpResponse} {state : τ}
      {result : Except OracleFailure (List Text.Code)} {success : Bool}
      (wellFormed : List.Forall₂ IsMessage messages read)
      (admits : Admits client.config.policy history client.now)
      (told : client.config.url = Text.codes text) (parsed : Url.parse text = .ok url)
      (written : Json.encodeBody (payload client.config read) = .ok body)
      (post : request = ⟨"POST", target url, body⟩)
      (sends : transport.send request client.transport = (outcome, state))
      (judged : Judged platform url outcome result success) :
      Turn platform transport history client messages (result.mapError .failure)
        (⟨client.now, success⟩ :: history)
        { client with
          breaker := Breaker.after client.config.policy (⟨client.now, success⟩ :: history)
          transport := state
          sent := client.sent ++ [request] }

/-- What a client keeps from call to call: its configuration, and the breaker of its history. -/
structure Kept (config : Config) (history : List Trial) (client : Client τ) : Prop where
  same : client.config = config
  breaker : client.breaker = Breaker.after config.policy history

variable {config : Config}

/-- A request that is not made is a failure to the breaker; one that is made is sent and judged. -/
theorem exchange_turn (platform : Platform) (transport : Transport τ) {messages : List Value}
    {read : List ChatMessage} {admitted : Breaker} (sound : client.config.Sound)
    (wellFormed : List.Forall₂ IsMessage messages read)
    (admits : Admits client.config.policy history client.now)
    (failures : admitted.failures = streak history)
    (closed : admitted.state = .closed ↔ streak history < client.config.policy.failMax) :
    ∃ result after later,
      exchange platform transport read { client with breaker := admitted } = (result, after) ∧
      Turn platform transport history client messages
        (result.mapError fun fault => .failure fault.failure) later after ∧
      Kept client.config later after := by
  have failed : admitted.fail client.config.policy client.now =
      Breaker.after client.config.policy (⟨client.now, false⟩ :: history) :=
    Breaker.fail_after failures closed
  have succeeded : admitted.succeed =
      Breaker.after client.config.policy (⟨client.now, true⟩ :: history) :=
    Breaker.succeed_after sound.positive admitted
  have made := made_request sound read
  rw [exchange]
  cases came : request client.config read with
  | error fault =>
      rw [came] at made
      refine ⟨_, _, ⟨client.now, false⟩ :: history, rfl, ?_, rfl, failed⟩
      simp only [fail, failed]
      cases made with
      | noUrl illFormed => exact .unsendable wellFormed admits (.url illFormed)
      | noHost told noUrl => exact .misdirected wellFormed admits told noUrl
      | noBody told parsed illFormed =>
          exact .unsendable wellFormed admits (.texts told parsed illFormed)
  | ok pair =>
      obtain ⟨url, request⟩ := pair
      rw [came] at made
      cases made with
      | @request _ _ body told parsed written =>
          rcases sends : transport.send ⟨"POST", target url, body⟩ client.transport with
            ⟨outcome, state⟩
          have judged := judged_judge platform url outcome
          rcases verdict : judge platform url outcome with ⟨result, success⟩
          rw [verdict] at judged
          have turned := Turn.sent wellFormed admits told parsed written rfl sends judged
          rw [mapError_mapError] at turned
          refine ⟨result, _, ⟨client.now, success⟩ :: history, ?_, turned, rfl, rfl⟩
          simp only [sends, verdict]
          cases success with
          | true => simp only [↓reduceIte, succeeded]
          | false => simp only [Bool.false_eq_true, ↓reduceIte, fail, failed]

theorem call_turn (platform : Platform) (transport : Transport τ) (sound : config.Sound)
    (kept : Kept config history client) (messages : List Value) :
    ∃ result events after later, client.call platform transport messages = (result, events, after) ∧
      Turn platform transport history client messages result later after ∧
      Kept config later after := by
  obtain ⟨rfl, breaker⟩ := kept
  have kept : Kept client.config history client := ⟨rfl, breaker⟩
  rw [call]
  cases came : readMessages messages with
  | error issues =>
      refine ⟨_, _, _, history, rfl, .malformed ?_, kept⟩
      rintro ⟨read, wellFormed⟩
      rw [readMessages_eq_ok_iff.mpr wellFormed] at came
      cases came
  | ok read =>
      have wellFormed := readMessages_eq_ok_iff.mp came
      simp only [chat]
      have verdict := Breaker.pass_after sound.positive history client.now
      rw [← breaker] at verdict
      cases passed : client.breaker.pass client.config.policy client.now with
      | error refusal =>
          rw [passed] at verdict
          cases verdict with
          | resting tripped rests early =>
              exact ⟨_, _, _, _, rfl, .resting wellFormed rfl tripped rests early, kept⟩
          | endless tripped untold =>
              exact ⟨_, _, _, _, rfl, .endless wellFormed rfl tripped untold, kept⟩
      | ok admitted =>
          rw [passed] at verdict
          cases verdict with
          | admitted admits failures closed =>
              obtain ⟨result, after, later, exchanged, turned, keptLater⟩ :=
                exchange_turn platform transport sound wellFormed admits failures closed
              simp only [exchanged]
              exact ⟨_, _, _, later, rfl, turned, keptLater⟩

/-- Calls one after the other, each some time after the one before it: what they give, and the client
after them. -/
def calls (platform : Platform) (transport : Transport τ) :
    List (Nat × List Value) → Client τ → List (Except CallError (List Text.Code)) × Client τ
  | [], client => ([], client)
  | (wait, messages) :: rest, client =>
    let (result, _, after) := (client.advance wait).call platform transport messages
    let (results, last) := calls platform transport rest after
    (result :: results, last)

/-- Turns one after the other, each some time after the one before it. -/
inductive Turns (platform : Platform) (transport : Transport τ) :
    List Trial → Client τ → List (Nat × List Value) →
    List (Except CallError (List Text.Code)) → List Trial → Client τ → Prop
  | nil {history : List Trial} {client : Client τ} :
      Turns platform transport history client [] [] history client
  | cons {history later final : List Trial} {client after last : Client τ} {wait : Nat}
      {messages : List Value} {rest : List (Nat × List Value)}
      {result : Except CallError (List Text.Code)}
      {results : List (Except CallError (List Text.Code))}
      (head : Turn platform transport history (client.advance wait) messages result later after)
      (tail : Turns platform transport later after rest results final last) :
      Turns platform transport history client ((wait, messages) :: rest) (result :: results) final last

theorem calls_turns (platform : Platform) (transport : Transport τ) (sound : config.Sound)
    (kept : Kept config history client) (visits : List (Nat × List Value)) :
    ∃ final,
      Turns platform transport history client visits (client.calls platform transport visits).1 final
        (client.calls platform transport visits).2 ∧
      Kept config final (client.calls platform transport visits).2 := by
  induction visits generalizing history client with
  | nil => exact ⟨history, .nil, kept⟩
  | cons visit rest ih =>
      obtain ⟨wait, messages⟩ := visit
      have waited : Kept config history (client.advance wait) := ⟨kept.same, kept.breaker⟩
      obtain ⟨result, events, after, later, called, head, keptLater⟩ :=
        call_turn platform transport sound waited messages
      obtain ⟨final, tail, keptFinal⟩ := ih keptLater
      refine ⟨final, ?_, ?_⟩
      · rw [calls]
        simp only [called]
        exact .cons head tail
      · rw [calls]
        simp only [called]
        exact keptFinal

/-- A client whose breaker opens at the first failure, and for ever. -/
def stubborn : Client (List (Except String HttpResponse)) :=
  { config := { breakerFailMax := 1, breakerResetTimeout := .infinity false }
    transport := [.ok ⟨503, "busy".toUTF8.data.toList, "text/plain"⟩] }

def greetings : List (Nat × List Value) :=
  let greeting := Value.object [(.text "role", .text "user"), (.text "content", .text "hi")]
  [(0, [greeting]), (1000000, [greeting])]

/-- What the greetings come to: the first is refused, and the second is never sent. -/
def rebuffs : List (Except CallError (List Text.Code)) :=
  [.error (.failure (.error
      ⟨Text.codes "Ollama error 503: busy", some 503, some (Text.codes "busy")⟩)),
    .error (.failure (.accident ⟨.overflow, "cannot convert float infinity to integer"⟩))]

end Client

end InterfacePlan.Ollama
