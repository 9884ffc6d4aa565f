import Keychain.Rust.Error

/-!
`remote_util.rs`: sending a request, reading a capped response body, parsing it,
and the bounded polling loop `pollUntil`.

`readBodyCapped_eq` states the capped read in closed form: the size decides
first, then whether the stream broke off.
-/

namespace Keychain.Rust

open Prog

variable {σ : Type} {T : Type}

/-! ## Responses -/

structure Response where
  status : ℕ
  body : BodyStream

/-- `RequestBuilder::send`: a request that could not be formed is reported
here, without being sent. Transport errors become `HttpError`. -/
def send [Crates] (request : Except String Request) : HttpProg σ SignerError Response :=
  match request with
  | .error e => fail (.httpError e)
  | .ok request =>
    match Crates.builderError request with
    | some e => fail (.httpError e)
    | none => do
      match ← ask request with
      | .failed e => fail (.httpError e)
      | .response status body => pure ⟨status, body⟩

/-- What `send` makes of a reply. -/
def received : Reply → Except SignerError Response
  | .failed e => .error (.httpError e)
  | .response status body => .ok ⟨status, body⟩

/-- The request `send` puts on the wire, or why it sends none. -/
def sendable [Crates] (request : Except String Request) : Except SignerError Request := do
  let request ← request.mapError .httpError
  match Crates.builderError request with
  | some e => throw (.httpError e)
  | none => pure request

/-- `send` in closed form: a request that can be formed is sent once. -/
theorem send_run [Crates] {request : Except String Request} {answers : ℕ → Reply}
    {w : World Request Reply σ} :
    (send request).run answers w =
      match sendable request with
      | .error e => (.error e, w)
      | .ok sent => (received (answers w.asked), w.heard sent (answers w.asked)) := by
  cases request with
  | error e => rfl
  | ok request =>
    have whole : sendable (.ok request) = match Crates.builderError request with
      | some e => .error (.httpError e)
      | none => .ok request := rfl
    rw [whole]
    cases h : Crates.builderError request with
    | some e => simp only [send, h, run_fail]
    | none =>
      simp only [send, h, run_bind, run_ask]
      cases answers w.asked <;> rfl

theorem sendable_eq_ok [Crates] {request : Except String Request} {sent : Request} :
    sendable request = .ok sent ↔ request = .ok sent ∧ Crates.builderError sent = none := by
  cases request with
  | error e => simp [sendable, bind, Except.bind]
  | ok request =>
    simp only [sendable, mapError_ok, bind, Except.bind, Except.ok.injEq]
    cases h : Crates.builderError request with
    | some e =>
      simp only [throw, throwThe, MonadExceptOf.throw, reduceCtorEq, false_iff]
      intro given
      rcases given with ⟨rfl, formed⟩
      simp [h] at formed
    | none =>
      simp only [pure, Except.pure, Except.ok.injEq]
      constructor
      · intro same
        subst same
        exact ⟨rfl, h⟩
      · exact fun same => same.1

theorem send_keeps [Crates] {request : Except String Request} :
    (send request : HttpProg σ SignerError Response).Keeps := by
  intro answers w
  rw [send_run]
  cases sendable request <;> rfl

/-- Send a request that may not have been formed and judge its response. -/
def exchange [Crates] (request : Except SignerError Request)
    (judge : Response → Except SignerError T) : HttpProg σ SignerError T := do
  let request ← ofExcept request
  let response ← send (.ok request)
  ofExcept (judge response)

/-- The request an exchange puts on the wire, or why it sends none. -/
def exchanged [Crates] (request : Except SignerError Request) : Except SignerError Request := do
  let request ← request
  sendable (.ok request)

/-- An exchange in closed form. -/
theorem exchange_run [Crates] {request : Except SignerError Request}
    {judge : Response → Except SignerError T} {answers : ℕ → Reply}
    {w : World Request Reply σ} :
    (exchange request judge).run answers w =
      match exchanged request with
      | .error e => (.error e, w)
      | .ok sent => (received (answers w.asked) >>= judge, w.heard sent (answers w.asked)) := by
  rw [exchange, run_bind, run_ofExcept]
  cases request with
  | error e => rfl
  | ok request =>
    have whole : exchanged (.ok request) = sendable (.ok request) := rfl
    simp only [run_bind, send_run, whole]
    cases sendable (.ok request) with
    | error e => rfl
    | ok sent => cases received (answers w.asked) <;> rfl

theorem exchanged_eq_ok [Crates] {request : Except SignerError Request} {sent : Request} :
    exchanged request = .ok sent ↔ request = .ok sent ∧ Crates.builderError sent = none := by
  cases request with
  | error e => simp [exchanged, bind, Except.bind]
  | ok request =>
    change sendable (.ok request) = .ok sent ↔ _
    rw [sendable_eq_ok]
    simp

theorem asks_exchange [Crates] {R : Request → Prop} {request : Except SignerError Request}
    {judge : Response → Except SignerError T}
    (allowed : ∀ sent, request = .ok sent → R sent) :
    (exchange request judge : HttpProg σ SignerError T).Asks R := by
  intro answers w
  rw [exchange_run]
  cases h : exchanged request with
  | error e => exact ⟨[], by simp, by simp⟩
  | ok sent =>
    have formed := allowed sent (exchanged_eq_ok.mp h).1
    exact ⟨[(sent, answers w.asked)], rfl, by simpa using formed⟩

theorem oblivious_exchange [Crates] {request : Except SignerError Request}
    {judge : Response → Except SignerError T} :
    (exchange request judge : HttpProg σ SignerError T).Oblivious := by
  refine ⟨fun answers =>
    match exchanged request with
    | .error e => (.error e, [])
    | .ok sent => (received (answers 0) >>= judge, [(sent, answers 0)]), ?_⟩
  intro answers w
  rw [exchange_run]
  cases exchanged request with
  | error e => simp
  | ok sent => rfl

theorem exchange_keeps [Crates] {request : Except SignerError Request}
    {judge : Response → Except SignerError T} :
    (exchange request judge : HttpProg σ SignerError T).Keeps :=
  oblivious_exchange.keeps

/-- What an exchange returns is what it makes of the reply to its request. -/
theorem exchange_meets [Crates] {request : Request} {judge : Response → Except SignerError T}
    {answers : ℕ → Reply} {w : World Request Reply σ} :
    (exchange (.ok request) judge).Meets answers w
      (fun result w' => ∃ reply, w' = w.heard request reply ∧
        (received reply >>= judge) = .ok result)
      (fun _ w' => w'.state = w.state) := by
  refine meets_of_run ?_ ?_
  · intro result w' ran
    rw [exchange_run] at ran
    cases formed : exchanged (.ok request) with
    | error e => simp [formed] at ran
    | ok sent =>
      cases (exchanged_eq_ok.mp formed).1
      simp only [formed, Prod.mk.injEq] at ran
      exact ⟨_, ran.2.symm, ran.1⟩
  · intro e w' ran
    have kept : ((exchange (.ok request) judge).run answers w).2.state = w.state :=
      exchange_keeps answers w
    rwa [ran] at kept

/-- An exchange of one formed request consults the provider once. -/
theorem consults_exchange [Crates] {request : Request} {judge : Response → Except SignerError T}
    (sendable : Crates.builderError request = none) :
    (exchange (.ok request) judge : HttpProg σ SignerError T).Consults request
      (fun reply => received reply >>= judge) := by
  intro answers w
  rw [exchange_run, exchanged_eq_ok.mpr ⟨rfl, sendable⟩]

/-- Maximum number of response-body bytes read from a remote signer API. -/
def maxResponseBytes : ℕ := 1024 * 1024

def oversizeError : SignerError := .serializationError "response exceeded maximum size"

/-- The read loop of `readBodyCapped`, with the bytes read so far. -/
def readChunks (failure : Option String) : Bytes → List Bytes → Except SignerError Bytes
  | body, [] =>
    match failure with
    | some e => .error (.httpError e)
    | none => .ok body
  | body, chunk :: chunks =>
    if body.length + chunk.length > maxResponseBytes then
      .error oversizeError
    else
      readChunks failure (body ++ chunk) chunks

def readBodyCapped (stream : BodyStream) : Except SignerError Bytes :=
  readChunks stream.failure [] stream.chunks

theorem readChunks_eq {failure : Option String} {body : Bytes} {chunks : List Bytes}
    (fits : body.length ≤ maxResponseBytes) :
    readChunks failure body chunks =
      if body.length + chunks.flatten.length > maxResponseBytes then .error oversizeError
      else match failure with
        | some e => .error (.httpError e)
        | none => .ok (body ++ chunks.flatten) := by
  induction chunks generalizing body with
  | nil => simp [readChunks, Nat.not_lt.mpr fits]
  | cons chunk chunks ih =>
    rw [readChunks]
    by_cases oversize : body.length + chunk.length > maxResponseBytes
    · have total : body.length + (chunk :: chunks).flatten.length > maxResponseBytes := by
        simp only [List.flatten_cons, List.length_append]
        omega
      rw [if_pos oversize, if_pos total]
    · rw [if_neg oversize, ih (by simpa using oversize)]
      simp [Nat.add_assoc]

theorem readBodyCapped_eq (stream : BodyStream) :
    readBodyCapped stream =
      if stream.bytes.length > maxResponseBytes then .error oversizeError
      else match stream.failure with
        | some e => .error (.httpError e)
        | none => .ok stream.bytes := by
  rw [readBodyCapped, readChunks_eq (Nat.zero_le _)]
  simp [BodyStream.bytes]

/-- Consume a failed response into a `RemoteApiError`. -/
def extractApiError (response : Response) (context : String) : SignerError :=
  .remoteApi s!"{context} error {response.status}"

/-- The top-level `id` of a value, when it is a text that is not blank. -/
def transactionIdInValue (value : Value) : Option String :=
  ((value.get "id").bind Json.asStr).filter (fun id => !isBlank id)

/-- The top-level `id` of a response body, when there is one. -/
def transactionIdInBody [Crates] (body : Bytes) : Option String :=
  match Crates.jsonFromSlice body with
  | .ok value => transactionIdInValue value
  | .error _ => none

/-- `extractApiError` plus the failed body. -/
def extractApiErrorWithBody (response : Response) (context : String) : SignerError × Bytes :=
  (.remoteApi s!"{context} error {response.status}",
    match readBodyCapped response.body with
    | .ok body => body
    | .error _ => [])

/-- `extractApiError` plus any transaction id the failed body named. -/
def extractApiErrorWithTransactionId [Crates] (response : Response) (context : String) :
    SignerError × Option String :=
  let (error, body) := extractApiErrorWithBody response context
  (error, transactionIdInBody body)

/-- Reject a non-success response, then parse the body as JSON. -/
def parseJsonResponse [FromSlice T] (response : Response) (context : String) :
    Except SignerError T := do
  if !Reply.isSuccess response.status then
    throw (extractApiError response context)
  let body ← readBodyCapped response.body
  match fromSlice body with
  | .ok value => pure value
  | .error _ => throw (.serializationError s!"Failed to parse {context} response")

/-! ## Polling -/

/-- An attempt is done with a value or still pending. -/
abbrev PollOutcome (T : Type) := Option T

@[match_pattern] abbrev PollOutcome.done (value : T) : PollOutcome T := some value

@[match_pattern] abbrev PollOutcome.pending : PollOutcome T := none

/-- Run `attempt` up to `maxAttempts` times: done returns, pending retries and a
terminal failure is any error. The pause between two attempts is not modelled. -/
def pollUntil (maxAttempts : ℕ) (timeoutError : SignerError)
    (attempt : HttpProg σ SignerError (PollOutcome T)) : HttpProg σ SignerError T :=
  retry timeoutError attempt maxAttempts

/-! ## Base URLs -/

def normalizeBaseUrl (baseUrl : String) : String := trimEndMatches '/' (trimSpace baseUrl)

/-- Reject an API base URL that is not valid HTTPS. -/
def validateHttpsUrl [Crates] (url : String) : Except SignerError Unit :=
  match Crates.urlParse url with
  | .error _ => .error (.configError "api_base_url is not a valid URL")
  | .ok parsed => require (parsed.scheme = "https") (.configError "api_base_url must use HTTPS")

theorem validateHttpsUrl_eq_ok [Crates] {url : String} :
    validateHttpsUrl url = .ok () ↔
      ∃ parsed, Crates.urlParse url = .ok parsed ∧ parsed.scheme = "https" := by
  rw [validateHttpsUrl]
  cases Crates.urlParse url with
  | error e => simp
  | ok parsed => simp

/-! ## Path segments -/

/-- Percent-encode a text so that it is a single path segment. -/
def encodeUriComponent (input : String) : String :=
  String.ofList ((utf8 input).flatMap encodeByte)
where
  /-- The unreserved bytes stand for themselves. -/
  unreserved (byte : UInt8) : Bool :=
    (0x41 ≤ byte && byte ≤ 0x5A) || (0x61 ≤ byte && byte ≤ 0x7A) ||
      (0x30 ≤ byte && byte ≤ 0x39) ||
      "-_.!~*'()".toList.contains (Char.ofNat byte.toNat)
  encodeByte (byte : UInt8) : List Char :=
    if unreserved byte then [Char.ofNat byte.toNat]
    else '%' :: (hexDigits byte).map Char.toUpper

end Keychain.Rust
