import InterfacePlan.Breaker
import InterfacePlan.Json.Body
import InterfacePlan.Json.Encode
import InterfacePlan.Ollama.Config
import InterfacePlan.Oracle.Basic
import InterfacePlan.Platform
import InterfacePlan.Text.Charset
import InterfacePlan.Url.Basic

set_option autoImplicit false

namespace InterfacePlan.Ollama

open Schema

structure HttpRequest where
  method : String
  url : String
  body : String
  deriving DecidableEq

structure HttpResponse where
  status : Nat
  body : List UInt8
  contentType : String := "application/json"
  deriving DecidableEq

/-- What sends requests: a response, or the words of a failure. -/
structure Transport (τ : Type) where
  send : HttpRequest → τ → Except String HttpResponse × τ

/-- The transport that has prepared outcomes, one for each request, and fails when none is left. -/
def Transport.scripted : Transport (List (Except String HttpResponse)) where
  send _ outcomes :=
    match outcomes with
    | [] => (.error "script exhausted", [])
    | outcome :: rest => (outcome, rest)

inductive Fault where
  | unavailable
  | rest (cause : Breaker.RestError)
  | url (cause : Url.UrlError)
  /-- The URL is ill-formed. -/
  | noUrl
  /-- The request went to a URL without a scheme. -/
  | noScheme (url : String)
  | status (code : Nat) (body : List Text.Code)
  | transport (words : String)
  /-- The body of a failure is not in the charset that it claims. -/
  | undecodable (words : String)
  | unreadable (code : Nat) (cause : Json.BodyError)
  | unwritable (cause : Json.EncodeError)

def Fault.failure : Fault → OracleFailure
  | .unavailable => .error ⟨Text.codes "Ollama unavailable: circuit breaker open", none, none⟩
  | .rest cause => .accident ⟨.overflow, cause.message⟩
  | .url cause => .accident ⟨.url, cause.message⟩
  | .noUrl => .accident ⟨.encoding, Json.EncodeError.message .illFormed⟩
  | .noScheme sent => .accident ⟨.value, "unknown url type: " ++ Url.shown sent.toList⟩
  | .status code body =>
    .error ⟨Text.codes ("Ollama error " ++ toString code ++ ": ") ++ body, some code, some body⟩
  | .transport words => .error ⟨Text.codes ("Ollama request failed: " ++ words), none, none⟩
  | .undecodable words => .accident ⟨.encoding, words⟩
  | .unreadable _ .exhausted => .accident ⟨.recursion, Json.BodyError.message .exhausted⟩
  | .unreadable code cause =>
    .error ⟨Text.codes ("Ollama returned invalid JSON: " ++ cause.message), some code, none⟩
  | .unwritable .illFormed => .accident ⟨.encoding, Json.EncodeError.message .illFormed⟩
  | .unwritable cause => .accident ⟨.value, cause.message⟩

inductive CallError where
  | messages (issues : List Issue)
  | failure (cause : OracleFailure)
  deriving DecidableEq

/-- A client with its breaker, its clock in microseconds, its transport and what it has sent. -/
structure Client (τ : Type) where
  config : Config
  breaker : Breaker := {}
  now : Nat := 0
  transport : τ
  sent : List HttpRequest := []

/-- A span of seconds in microseconds, the nearest whole number of them; an infinite span has none. -/
def microseconds? (seconds : Double) : Option Nat :=
  seconds.units?.map fun units => roundDiv (units.toNat * 1000000) Double.one.toNat

def Config.policy (config : Config) : Breaker.Policy :=
  ⟨config.breakerFailMax.toNat, microseconds? config.breakerResetTimeout⟩

def readMessage : Value → Checked ChatMessage :=
  model fun members =>
    (Checked.ap (.ok ChatMessage.mk)
      (required members ["role"] (constrained fun s => ofOption .stringPattern (Role.ofName? s)))).ap
      (required members ["content"] string)

/-- Messages, up to the first that is none. -/
def readMessages : List Value → Checked (List ChatMessage)
  | [] => .ok []
  | v :: rest =>
    match readMessage v with
    | .error e => .error e
    | .ok message => (readMessages rest).map (message :: ·)

def messageRecord (message : ChatMessage) : Value :=
  .object [(.text "role", .text message.role.name), (.text "content", .ofCodes message.content)]

def payload (config : Config) (messages : List ChatMessage) : Value :=
  .object
    ([(.text "model", .ofCodes config.modelName),
      (.text "messages", .list (messages.map messageRecord)), (.text "stream", .bool false)]
      ++ match config.temperature with
        | some t => [(.text "options", .object [(.text "temperature", .float t)])]
        | none => [])

/-- The text of a chat response; empty when it has none. -/
def replyText (v : Value) : List Text.Code :=
  ((v.get "message").get "content").text?.getD []

namespace HttpResponse

def isSuccess (response : HttpResponse) : Bool :=
  200 ≤ response.status && response.status < 300

def read (platform : Platform) (response : HttpResponse) : Except Fault (List Text.Code) :=
  match Json.decodeBody platform.room response.body with
  | .ok v => .ok (replyText v)
  | .error e => .error (.unreadable response.status e)

def text (platform : Platform) (response : HttpResponse) : Except String (List Text.Code) :=
  Text.Charset.decode platform.charset? response.contentType response.body

/-- The fault that a response outside the success range is. -/
def statusFault (platform : Platform) (response : HttpResponse) : Fault :=
  match response.text platform with
  | .ok body => .status response.status body
  | .error words => .undecodable words

end HttpResponse

def called (config : Config) (messages : Nat) : Log.Event :=
  ⟨.info, "oracle_call", [("model", .ofCodes config.modelName), ("messages", .int messages)]⟩

/-- The events of a step of the breaker: none unless it changed its state. -/
def stateChange (before after : BreakerState) : List Log.Event :=
  if before.name = after.name then []
  else
    [⟨.warning, "breaker_state_change",
      [("breaker", .text "oracle-http"), ("from_state", .text before.logName),
        ("to_state", .text after.logName)]⟩]

def ended : Except Fault (List Text.Code) → List Log.Event
  | .ok codes => [⟨.info, "oracle_response", [("chars", .int codes.length)]⟩]
  | .error .unavailable =>
    [⟨.error, "oracle_unavailable",
      [("error", .text "Timeout not elapsed yet, circuit breaker still open")]⟩]
  | .error (.status code _) =>
    [⟨.error, "oracle_status_error", [("status", .int code)]⟩]
  | .error (.transport words) =>
    [⟨.error, "oracle_transport_error", [("error", .text words)]⟩]
  | .error (.rest _) | .error (.url _) | .error .noUrl | .error (.noScheme _)
  | .error (.undecodable _) | .error (.unreadable ..) | .error (.unwritable _) => []

namespace Client

variable {τ : Type}

def target (url : Url) : String :=
  String.ofList (if url.isAbsolute then url.render else url.rooted)

/-- What the response to a request comes to, and whether the breaker counts it as a success. -/
def judge (platform : Platform) (url : Url) :
    Except String HttpResponse → Except Fault (List Text.Code) × Bool
  | .ok response =>
    if !url.isAbsolute then (.error (.noScheme (target url)), false)
    else if response.isSuccess then (response.read platform, true)
    else (.error (response.statusFault platform), false)
  | .error words => (.error (.transport words), false)

def fail (client : Client τ) : Client τ :=
  { client with breaker := client.breaker.fail client.config.policy client.now }

/-- The request for some messages, and the URL that it goes to. -/
def request (config : Config) (messages : List ChatMessage) : Except Fault (Url × HttpRequest) :=
  match Text.wellFormed? config.url with
  | none => .error .noUrl
  | some url =>
    match Url.parse url with
    | .error e => .error (.url e)
    | .ok url =>
      match Json.encodeBody (payload config messages) with
      | .error e => .error (.unwritable e)
      | .ok body => .ok (url, ⟨"POST", target url, body⟩)

/-- Sends messages through a breaker that has admitted them. -/
def exchange (platform : Platform) (transport : Transport τ) (messages : List ChatMessage)
    (client : Client τ) : Except Fault (List Text.Code) × Client τ :=
  match request client.config messages with
  | .error fault => (.error fault, client.fail)
  | .ok (url, request) =>
    let (response, after) := transport.send request client.transport
    let client := { client with transport := after, sent := client.sent ++ [request] }
    let (result, success) := judge platform url response
    (result, if success then { client with breaker := client.breaker.succeed } else client.fail)

/-- One call: the text of the reply or the fault, the events, and the client after it. -/
def chat (platform : Platform) (transport : Transport τ) (messages : List ChatMessage)
    (client : Client τ) : Except Fault (List Text.Code) × List Log.Event × Client τ :=
  let call := called client.config messages.length
  match client.breaker.pass client.config.policy client.now with
  | .error .resting => (.error .unavailable, call :: ended (.error .unavailable), client)
  | .error (.restUnknown e) => (.error (.rest e), [call], client)
  | .ok admitted =>
    let (result, after) := exchange platform transport messages { client with breaker := admitted }
    (result,
      call :: stateChange client.breaker.state admitted.state
        ++ stateChange admitted.state after.breaker.state ++ ended result,
      after)

/-- One call with messages that were not checked. If one of them is none, nothing is done. -/
def call (platform : Platform) (transport : Transport τ) (messages : List Value) (client : Client τ) :
    Except CallError (List Text.Code) × List Log.Event × Client τ :=
  match readMessages messages with
  | .error issues => (.error (.messages issues), [], client)
  | .ok messages =>
    let (result, events, after) := client.chat platform transport messages
    (result.mapError fun fault => .failure fault.failure, events, after)

def advance (microseconds : Nat) (client : Client τ) : Client τ :=
  { client with now := client.now + microseconds }

def oracle (platform : Platform) (transport : Transport τ) : Oracle (Client τ) where
  chat messages client :=
    let (result, events, after) := client.chat platform transport messages
    ⟨result.mapError Fault.failure, events, after⟩

end Client

end InterfacePlan.Ollama
