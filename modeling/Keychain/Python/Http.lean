import Keychain.Python.Runtime

/-!
`core/http.py`: the pipeline from a request to a JSON value, and what it raises.

`receivedJson` is everything `_request_json` makes of a reply.
`receivedJson_of_isRejection` says when the status of a rejected create survives
it: the body stays within the cap, its JSON does not make the parser raise more
than a `ValueError`, and its text can be decoded.
-/

namespace Keychain.Python

open Prog

variable {σ : Type}

/-! ## Bodies -/

/-- `MAX_RESPONSE_BYTES` -/
def maxResponseBytes : ℕ := 1024 * 1024

section

variable [Modules]

/-- A body that is no JSON reads as `None`; what else `json.loads` raises is not
caught. -/
def loadsOrNone (body : Bytes) : Except Exc (Option Value) :=
  match Modules.jsonLoads body with
  | .ok parsed => .ok (some parsed)
  | .error (.valueError _) => .ok none
  | .error e => .error e

/-- The top-level `id` of a value, when it is a text that is not blank. -/
def transactionIdIn : Option Value → Option Str
  | some (.object members) =>
    match Dict.get members "id" with
    | .string id => if id.isBlank then none else some id
    | _ => none
  | _ => none

/-- The top-level `code` of a value, when it is an integer. -/
def errorCodeIn : Option Value → Option Int
  | some (.object members) =>
    match Dict.get members "code" with
    | .number (.int code) => some code
    | _ => none
  | _ => none

/-- `_transaction_id_in_body` -/
def transactionIdInBody (body : Bytes) : Except Exc (Option Str) :=
  transactionIdIn <$> loadsOrNone body

/-- `_error_code_in_body` -/
def errorCodeInBody (body : Bytes) : Except Exc (Option Int) :=
  errorCodeIn <$> loadsOrNone body

/-- The `HTTP_ERROR` of a response whose body was read this far. -/
def httpErrorWithStatus {α : Type} (detail : String) (status : ℕ) (body : Bytes) :
    Except Raised α := do
  let providerTransactionId ← uncaught (transactionIdInBody body)
  .error (.signerError {
    code := .httpError
    detail := Str.ofString detail
    providerTransactionId
    statusCode := some status })

/-- The error of a stream that breaks off with this much read. -/
def streamFailed (providerName : String) (status : ℕ) (body : Bytes) (e : String) :
    Except Raised Bytes :=
  httpErrorWithStatus (providerName ++ " response stream failed: " ++ e) status body

/-- The read loop of `_read_bounded_body`, with the bytes read so far. -/
def readChunks (providerName : String) (status : ℕ) (failure : Option String) :
    Bytes → List Bytes → Except Raised Bytes
  | body, [] =>
    match failure with
    | some e => streamFailed providerName status body e
    | none => .ok body
  | body, chunk :: chunks =>
    if maxResponseBytes < (body ++ chunk).length then
      raiseSignerError .parsingError
        (Str.ofString (providerName ++ " response exceeded maximum size"))
    else
      readChunks providerName status failure (body ++ chunk) chunks

/-- Stream the response body, never buffering more than the cap. -/
def readBoundedBody (providerName : String) (status : ℕ) (body : BodyStream) :
    Except Raised Bytes :=
  readChunks providerName status body.failure [] body.chunks

theorem readChunks_eq {providerName : String} {status : ℕ} {failure : Option String} {body : Bytes}
    {chunks : List Bytes} (fits : body.length ≤ maxResponseBytes) :
    readChunks providerName status failure body chunks =
      if maxResponseBytes < body.length + chunks.flatten.length then
        raiseSignerError .parsingError
          (Str.ofString (providerName ++ " response exceeded maximum size"))
      else match failure with
        | some e => streamFailed providerName status (body ++ chunks.flatten) e
        | none => .ok (body ++ chunks.flatten) := by
  induction chunks generalizing body with
  | nil => simp [readChunks, Nat.not_lt.mpr fits]
  | cons chunk chunks ih =>
    rw [readChunks]
    by_cases oversize : maxResponseBytes < (body ++ chunk).length
    · have total : maxResponseBytes < body.length + (chunk :: chunks).flatten.length := by
        simp only [List.flatten_cons, List.length_append] at oversize ⊢
        omega
      rw [if_pos oversize, if_pos total]
    · rw [if_neg oversize, ih (Nat.not_lt.mp oversize)]
      simp [Nat.add_assoc]

/-- The size decides first, then whether the stream broke off. -/
theorem readBoundedBody_eq {providerName : String} {status : ℕ} {body : BodyStream} :
    readBoundedBody providerName status body =
      if maxResponseBytes < body.bytes.length then
        raiseSignerError .parsingError
          (Str.ofString (providerName ++ " response exceeded maximum size"))
      else match body.failure with
        | some e => streamFailed providerName status body.bytes e
        | none => .ok body.bytes := by
  rw [readBoundedBody, readChunks_eq (Nat.zero_le _)]
  simp [BodyStream.bytes]

/-! ## Responses -/

/-- `_CONTROL_CHARS` -/
def isControl (n : Fin 0x110000) : Bool :=
  let n := n.val
  n ≤ 0x08 || n = 0x0b || n = 0x0c || (0x0e ≤ n && n ≤ 0x1f) || n = 0x7f

/-- Remote error text without control characters, with single spaces and at most
256 code points. -/
def sanitizeRemoteErrorResponse (responseText : Str) : Str :=
  let printable := responseText.points.map fun n => if isControl n then Str.space else n
  let normalized := Str.joinWords false false printable
  if normalized = [] then
    "[empty remote response]"
  else if normalized.length ≤ 256 then
    ⟨normalized⟩
  else
    ⟨normalized.take 256⟩ ++ Str.ofString " [truncated]"

/-- `provider_may_have_accepted`: only a 4xx other than 408 rules a transaction
out. -/
def providerMayHaveAccepted : Option ℕ → Bool
  | none => true
  | some status => status = 408 || !(400 ≤ status && status < 500)

/-- The error of a response that could be read but not closed. -/
def cleanupFailed (providerName : String) (status : ℕ) (body : Bytes) (e : String) :
    Except Raised Value :=
  httpErrorWithStatus (providerName ++ " response cleanup failed: " ++ e) status body

/-- The error of a response that is no success. -/
def remoteApiError (providerName : String) (status : ℕ) (charset : Option String) (body : Bytes) :
    Except Raised Value := do
  let errorText ← uncaught (Modules.decode charset body)
  let providerTransactionId ← uncaught (transactionIdInBody body)
  let providerErrorCode ← uncaught (errorCodeInBody body)
  .error (.signerError {
    code := .remoteApiError
    detail := Str.ofString (providerName ++ " API error: " ++ toString status ++ ": ") ++
      sanitizeRemoteErrorResponse errorText
    providerTransactionId
    providerErrorCode
    statusCode := some status })

/-- The value of a body that was read whole. -/
def parsedBody (providerName : String) (body : Bytes) : Except Raised Value :=
  match Modules.jsonLoads body with
  | .ok value => .ok value
  | .error (.valueError _) =>
    raiseSignerError .parsingError
      (Str.ofString ("Failed to parse " ++ providerName ++ " response"))
  | .error e => .error (.exception e)

/-- What `_request_json` makes of a reply; a transport failure is an
`httpx.HTTPError`. -/
def receivedJson (providerName : String) : Reply → Except Raised Value
  | .failed e =>
    raiseSignerError .httpError (Str.ofString (providerName ++ " network request failed: " ++ e))
  | .response status stream =>
    if 300 ≤ status ∧ status < 400 then
      raiseSignerError .httpError (Str.ofString (providerName ++ " response was a redirect"))
    else do
      let body ← readBoundedBody providerName status stream
      match stream.closeFailure with
      | some e => cleanupFailed providerName status body e
      | none =>
        if Reply.isSuccess status then parsedBody providerName body
        else remoteApiError providerName status stream.charset body

/-- `fetch_signer_json`: what `build_request` raises is not caught. -/
def fetchSignerJson (providerName : String) (request : Request) : HttpProg σ Raised Value :=
  match Modules.buildRequestError request with
  | some e => fail (.exception e)
  | none => do
    let reply ← ask request
    ofExcept (receivedJson providerName reply)

/-! ## Exchanges -/

section

variable {T : Type}

/-- Form a request, fetch its value and judge it. -/
def exchange (providerName : String) (request : Except Raised Request)
    (judge : Value → Except Raised T) : HttpProg σ Raised T := do
  let request ← ofExcept request
  let value ← fetchSignerJson providerName request
  ofExcept (judge value)

/-- The request an exchange puts on the wire, or what is raised instead. -/
def sendable (request : Except Raised Request) : Except Raised Request := do
  let request ← request
  match Modules.buildRequestError request with
  | some e => .error (.exception e)
  | none => .ok request

variable {providerName : String} {request : Except Raised Request}
variable {judge : Value → Except Raised T}

/-- An exchange in closed form. -/
theorem exchange_run {answers : ℕ → Reply} {w : World Request Reply σ} :
    (exchange providerName request judge).run answers w =
      match sendable request with
      | .error e => (.error e, w)
      | .ok sent => (receivedJson providerName (answers w.asked) >>= judge,
          w.heard sent (answers w.asked)) := by
  rw [exchange, run_bind, run_ofExcept]
  cases request with
  | error e => rfl
  | ok request =>
    have whole : sendable (.ok request) = match Modules.buildRequestError request with
      | some e => .error (.exception e)
      | none => .ok request := rfl
    rw [whole]
    simp only [run_bind, fetchSignerJson]
    cases Modules.buildRequestError request with
    | some e => rfl
    | none =>
      simp only [run_bind, run_ask, run_ofExcept]
      cases receivedJson providerName (answers w.asked) <;> rfl

theorem sendable_eq_ok {sent : Request} (formed : sendable request = .ok sent) :
    request = .ok sent := by
  obtain ⟨built, same, formed⟩ := bind_eq_ok.mp formed
  split at formed
  · cases formed
  · cases formed
    exact same

/-- A request that raises no `SignerError` fails to be sent with none. -/
theorem sendable_uncaught {formed : Except Exc Request} {raised : Raised}
    (unsent : sendable (uncaught formed) = .error raised) : ∃ e, raised = .exception e := by
  rcases bind_eq_error.mp unsent with unformed | ⟨built, -, refused⟩
  · obtain ⟨e, -, same⟩ := mapError_eq_error.mp unformed
    exact ⟨e, same.symm⟩
  · split at refused
    · cases refused
      exact ⟨_, rfl⟩
    · cases refused

theorem sendable_bind {β : Type} {x : Except Raised β} {f : β → Except Raised Request} :
    sendable (x >>= f) = x >>= fun b => sendable (f b) := by
  cases x <;> rfl

/-- The request cannot be put on the wire: forming it raises, or `build_request` does. -/
def Unsendable (formed : Except Exc Request) : Prop :=
  (∃ e, formed = .error e) ∨ ∃ sent e, formed = .ok sent ∧ Modules.buildRequestError sent = some e

theorem throws_sendable_uncaught {formed : Except Exc Request} :
    Throws (sendable (uncaught formed)) ↔ Unsendable formed := by
  cases formed with
  | error e => simp [Unsendable, Throws, sendable, uncaught, bind, Except.bind]
  | ok sent =>
    have whole : sendable (uncaught (.ok sent)) = match Modules.buildRequestError sent with
      | some e => .error (.exception e)
      | none => .ok sent := rfl
    rw [whole]
    cases refused : Modules.buildRequestError sent <;> simp [Unsendable, refused]

omit [Modules] in
/-- Polling throws exactly when some reply within the bound does and every earlier
one is pending. -/
theorem throws_settle {A : Type} {timeout : SignerError} {judge : A → Except Raised (Option T)}
    {answers : ℕ → A} {n : ℕ} :
    Throws (settle (.signerError timeout) judge answers n) ↔
      ∃ k < n, (∀ i < k, judge (answers i) = .ok none) ∧ Throws (judge (answers k)) := by
  simp only [Throws, settle_eq_error_iff, reduceCtorEq, and_false, or_false]
  constructor
  · intro given
    rcases given with ⟨e, k, bound, pending, thrown⟩
    exact ⟨k, bound, pending, e, thrown⟩
  · intro given
    rcases given with ⟨k, bound, pending, e, thrown⟩
    exact ⟨e, k, bound, pending, thrown⟩

theorem exchange_oblivious :
    (exchange providerName request judge : HttpProg σ Raised T).Oblivious := by
  refine ⟨fun answers =>
    match sendable request with
    | .error e => (.error e, [])
    | .ok sent => (receivedJson providerName (answers 0) >>= judge, [(sent, answers 0)]), ?_⟩
  intro answers w
  rw [exchange_run]
  cases sendable request with
  | error e => simp
  | ok sent => rfl

/-- An exchange throws when its request cannot be sent, or its reply or what comes
after it throws. -/
theorem exchange_bind_throws {β : Type} {next : T → HttpProg σ Raised β}
    (oblivious : ∀ t, (next t).Oblivious) {answers : ℕ → Reply} {w : World Request Reply σ} :
    Throws ((exchange providerName request judge >>= next).run answers w).1 ↔
      Throws (sendable request) ∨ ∃ sent, sendable request = .ok sent ∧
        (Throws (receivedJson providerName (answers w.asked) >>= judge) ∨
          ∃ t, receivedJson providerName (answers w.asked) >>= judge = .ok t ∧
            Throws ((next t).run (fun i => answers (w.asked + (i + 1))) (.start w.state)).1) := by
  rw [run_bind, exchange_run]
  cases sendable request with
  | error raised => simp [Throws]
  | ok sent =>
    simp only [throws_ok, false_or, Except.ok.injEq, exists_eq_left']
    cases receivedJson providerName (answers w.asked) >>= judge with
    | error raised => simp [Throws]
    | ok t =>
      simp only [throws_ok, false_or, Except.ok.injEq, exists_eq_left']
      rw [(oblivious t).fst_eq w.state]
      simp [Nat.add_assoc, Nat.add_comm 1]

theorem exchange_asks {R : Request → Prop} (allowed : ∀ sent, request = .ok sent → R sent) :
    (exchange providerName request judge : HttpProg σ Raised T).Asks R := by
  intro answers w
  rw [exchange_run]
  cases formed : sendable request with
  | error e => exact ⟨[], by simp, by simp⟩
  | ok sent =>
    exact ⟨[(sent, answers w.asked)], rfl, by simpa using allowed sent (sendable_eq_ok formed)⟩

end

/-! ## Creates -/

/-- The handler of a failed create: an error that does not rule the transaction
out is reported as unconfirmed under the key; no other exception is caught. -/
def classifyCreate (idempotencyKey : String) : Raised → Raised
  | .signerError error =>
    if providerMayHaveAccepted error.statusCode then
      .signerError {
        code := .broadcastUnconfirmed
        detail := error.detail
        providerTransactionId := error.providerTransactionId
        statusCode := error.statusCode
        idempotencyKey := some idempotencyKey }
    else
      .signerError error
  | .exception e => .exception e

/-- The handler of a failure after an accepted create. -/
def unconfirmedAfter (transactionId : Str) (idempotencyKey : String) (error : SignerError) :
    Raised :=
  .signerError {
    code := .broadcastUnconfirmed
    detail := error.detail
    providerTransactionId := some transactionId
    idempotencyKey := some idempotencyKey }

/-- The status of a response reaches the classifier: the body stays within the
cap, its JSON raises nothing but a `ValueError`, and its text can be decoded. -/
def KeepsStatus (body : BodyStream) : Prop :=
  body.bytes.length ≤ maxResponseBytes ∧ (∃ parsed, loadsOrNone body.bytes = .ok parsed) ∧
    (body.failure = none → body.closeFailure = none →
      ∃ text, Modules.decode body.charset body.bytes = .ok text)

/-- The error names the definite rejection with this status. -/
def Rejection (status : ℕ) (raised : Raised) : Prop :=
  ∃ error, raised = .signerError error ∧ error.code ≠ .broadcastUnconfirmed ∧
    error.statusCode = some status

/-- The error says nothing of a status. -/
def Statusless (raised : Raised) : Prop :=
  (∃ e, raised = .exception e) ∨ ∃ error, raised = .signerError error ∧ error.statusCode = none

theorem httpErrorWithStatus_spec (α : Type) (detail : String) (status : ℕ) (body : Bytes) :
    ∃ raised, (httpErrorWithStatus detail status body : Except Raised α) = .error raised ∧
      ((∃ parsed, loadsOrNone body = .ok parsed) ∧ Rejection status raised ∨
        ¬ (∃ parsed, loadsOrNone body = .ok parsed) ∧ Statusless raised) := by
  unfold httpErrorWithStatus transactionIdInBody
  cases loadsOrNone body with
  | error e => exact ⟨_, rfl, .inr ⟨by simp, .inl ⟨e, rfl⟩⟩⟩
  | ok parsed => exact ⟨_, rfl, .inl ⟨⟨parsed, rfl⟩, _, rfl, by simp, rfl⟩⟩

theorem remoteApiError_spec (providerName : String) (status : ℕ) (charset : Option String)
    (body : Bytes) :
    ∃ raised, remoteApiError providerName status charset body = .error raised ∧
      (((∃ parsed, loadsOrNone body = .ok parsed) ∧
          ∃ text, Modules.decode charset body = .ok text) ∧ Rejection status raised ∨
        ¬ ((∃ parsed, loadsOrNone body = .ok parsed) ∧
          ∃ text, Modules.decode charset body = .ok text) ∧ Statusless raised) := by
  unfold remoteApiError transactionIdInBody errorCodeInBody
  cases Modules.decode charset body with
  | error e => exact ⟨_, rfl, .inr ⟨by simp, .inl ⟨e, rfl⟩⟩⟩
  | ok text =>
    cases loadsOrNone body with
    | error e => exact ⟨_, rfl, .inr ⟨by simp, .inl ⟨e, rfl⟩⟩⟩
    | ok parsed => exact ⟨_, rfl, .inl ⟨⟨⟨parsed, rfl⟩, text, rfl⟩, _, rfl, by simp, rfl⟩⟩

/-- A rejected response is raised with its status exactly when it keeps it. -/
theorem receivedJson_of_isRejection (providerName : String) {status : ℕ} (body : BodyStream)
    (rejected : Reply.isRejection status) :
    ∃ raised, receivedJson providerName (.response status body) = .error raised ∧
      (KeepsStatus body ∧ Rejection status raised ∨ ¬ KeepsStatus body ∧ Statusless raised) := by
  have noRedirect : ¬ (300 ≤ status ∧ status < 400) := by
    have range := Reply.isRejection_iff.mp rejected
    omega
  have noSuccess : Reply.isSuccess status = false := Reply.not_isSuccess_of_isRejection rejected
  rw [receivedJson, if_neg noRedirect, readBoundedBody_eq]
  by_cases oversize : maxResponseBytes < body.bytes.length
  · rw [if_pos oversize]
    refine ⟨_, rfl, .inr ⟨?_, .inr ⟨_, rfl, rfl⟩⟩⟩
    intro keeps
    exact absurd keeps.1 (Nat.not_le.mpr oversize)
  have fits := Nat.not_lt.mp oversize
  rw [if_neg oversize]
  cases broke : body.failure with
  | some e =>
    have keeps : KeepsStatus body ↔ ∃ parsed, loadsOrNone body.bytes = .ok parsed := by
      simp [KeepsStatus, fits, broke]
    obtain ⟨raised, failed, split⟩ := httpErrorWithStatus_spec Bytes
      (providerName ++ " response stream failed: " ++ e) status body.bytes
    refine ⟨raised, ?_, by rwa [keeps]⟩
    simp only [streamFailed, failed]
    rfl
  | none =>
    cases closed : body.closeFailure with
    | some e =>
      have keeps : KeepsStatus body ↔ ∃ parsed, loadsOrNone body.bytes = .ok parsed := by
        simp [KeepsStatus, fits, closed]
      obtain ⟨raised, failed, split⟩ := httpErrorWithStatus_spec Value
        (providerName ++ " response cleanup failed: " ++ e) status body.bytes
      exact ⟨raised, failed, by rwa [keeps]⟩
    | none =>
      have keeps : KeepsStatus body ↔ (∃ parsed, loadsOrNone body.bytes = .ok parsed) ∧
          ∃ text, Modules.decode body.charset body.bytes = .ok text := by
        simp [KeepsStatus, fits, broke, closed]
      obtain ⟨raised, failed, split⟩ :=
        remoteApiError_spec providerName status body.charset body.bytes
      refine ⟨raised, ?_, by rwa [keeps]⟩
      simp only [noSuccess]
      exact failed

/-- A rejected create is reported with its status exactly when the reply keeps it. -/
theorem classifyCreate_of_isRejection {T : Type} (providerName key : String)
    (judge : Value → Except Raised T) {status : ℕ} (body : BodyStream)
    (rejected : Reply.isRejection status) :
    ∃ raised, (receivedJson providerName (.response status body) >>= judge).mapError
        (classifyCreate key) = .error raised ∧ (Rejection status raised ↔ KeepsStatus body) := by
  obtain ⟨raised, received, split⟩ := receivedJson_of_isRejection providerName body rejected
  rw [received]
  refine ⟨classifyCreate key raised, rfl, ?_⟩
  rcases split with ⟨keeps, rejection⟩ | ⟨drops, statusless⟩
  · obtain ⟨error, rfl, other, named⟩ := rejection
    have ruledOut : providerMayHaveAccepted error.statusCode = false := by
      have range := Reply.isRejection_iff.mp rejected
      simp [named, providerMayHaveAccepted, range]
    refine ⟨fun _ => keeps, fun _ => ⟨error, ?_, other, named⟩⟩
    simp [classifyCreate, ruledOut]
  · refine ⟨?_, fun keeps => absurd keeps drops⟩
    intro given
    rcases given with ⟨error, same, other, named⟩
    rcases statusless with ⟨e, rfl⟩ | ⟨unnamed, rfl, absent⟩
    · cases same
    · simp only [classifyCreate, absent, providerMayHaveAccepted, if_true,
        Raised.signerError.injEq] at same
      rw [← same] at other
      exact absurd rfl other

end

end Keychain.Python
