import Keychain.Go.Packages

/-!
`core/remote.go` and the parts of `core/sign.go`, `core/txutil.go`,
`core/signature.go` and `core/idempotency.go` that the sending signers use.

`sendRequest` is what `SendRequest` returns for a reply: the status it hands on is
0 as soon as the body cannot be read whole (`sendRequest_response`).
-/

namespace Keychain.Go

open Prog

/-! ## Sending -/

/-- `MaxResponseBytes` -/
def maxResponseBytes : ℕ := 1024 * 1024

/-- `io.ReadAll(io.LimitReader(body, limit))`: the limit ends the read before the
stream can break off. -/
def readAll (limit : ℕ) (body : BodyStream) : Except String Bytes :=
  if limit ≤ body.bytes.length then
    .ok (body.bytes.take limit)
  else
    match body.failure with
    | some e => .error e
    | none => .ok body.bytes

/-- The three results of `SendRequest`. -/
structure Sent where
  status : ℕ
  body : Bytes
  err : Option Error

section

variable [Packages]

def sendRequest (provider : String) : Reply → Sent
  | .failed e =>
    match Packages.clientError e with
    | some se => ⟨0, [], some se.toError⟩
    | none => ⟨0, [], some (newSignerError .httpError ("request to " ++ provider ++ " api failed"))⟩
  | .response status body =>
    match readAll (maxResponseBytes + 1) body with
    | .error _ =>
      ⟨0, [], some (newSignerError .httpError ("failed to read " ++ provider ++ " response body"))⟩
    | .ok data =>
      if maxResponseBytes < data.length then
        ⟨0, [], some (newSignerError .serializationError
          (provider ++ " response exceeded maximum size"))⟩
      else
        ⟨status, data, none⟩

/-- The body arrives whole and within the cap. -/
def Readable (body : BodyStream) : Prop :=
  body.bytes.length ≤ maxResponseBytes ∧ body.failure = none

/-- The status survives exactly with a readable body. -/
theorem sendRequest_response (provider : String) (status : ℕ) (body : BodyStream) :
    (Readable body ∧ sendRequest provider (.response status body) = ⟨status, body.bytes, none⟩) ∨
      (¬ Readable body ∧
        ∃ err, sendRequest provider (.response status body) = ⟨0, [], some err⟩) := by
  by_cases large : maxResponseBytes + 1 ≤ body.bytes.length
  · right
    have taken : (body.bytes.take (maxResponseBytes + 1)).length = maxResponseBytes + 1 := by
      rw [List.length_take]
      omega
    refine ⟨fun readable => ?_, newSignerError .serializationError
      (provider ++ " response exceeded maximum size"), ?_⟩
    · have fits := readable.1
      omega
    · rw [sendRequest, readAll, if_pos large]
      simp only [taken]
      rw [if_pos (Nat.lt_succ_self _)]
  · have fits : body.bytes.length ≤ maxResponseBytes := by omega
    cases broke : body.failure with
    | some e =>
      right
      refine ⟨fun readable => ?_, newSignerError .httpError
        ("failed to read " ++ provider ++ " response body"), ?_⟩
      · rw [readable.2] at broke
        cases broke
      · simp only [sendRequest, readAll, if_neg large, broke]
    | none =>
      left
      refine ⟨⟨fits, broke⟩, ?_⟩
      simp only [sendRequest, readAll, if_neg large, broke]
      rw [if_neg (Nat.not_lt.mpr fits)]

theorem status_eq_zero_of_err {provider : String} {reply : Reply} {err : Error}
    (failed : (sendRequest provider reply).err = some err) :
    (sendRequest provider reply).status = 0 := by
  cases reply with
  | failed e =>
    rw [sendRequest]
    cases Packages.clientError e <;> rfl
  | response status body =>
    rcases sendRequest_response provider status body with
      ⟨-, same⟩ | ⟨-, _, same⟩
    · rw [same] at failed
      cases failed
    · rw [same]

section

variable {σ T : Type}

/-- Send a request that may not have been formed and judge what `SendRequest`
returns for it. -/
def exchange (provider : String) (request : Except Error Request) (judge : Sent → Except Error T) :
    HttpProg σ Error T := do
  let req ← ofExcept request
  let reply ← ask req
  ofExcept (judge (sendRequest provider reply))

variable {provider : String} {request : Except Error Request} {judge : Sent → Except Error T}

/-- An exchange in closed form: a request that could be formed is sent once. -/
theorem exchange_run {answers : ℕ → Reply} {w : World Request Reply σ} :
    (exchange provider request judge).run answers w =
      match request with
      | .error err => (.error err, w)
      | .ok req => (judge (sendRequest provider (answers w.asked)),
          w.heard req (answers w.asked)) := by
  cases request <;> rfl

theorem exchange_blind : (exchange provider request judge : HttpProg σ Error T).Blind :=
  blind_ofExcept.bind fun _ => blind_ask.bind fun _ => blind_ofExcept

theorem exchange_asks {R : Request → Prop} (allowed : ∀ req, request = .ok req → R req) :
    (exchange provider request judge : HttpProg σ Error T).Asks R := by
  intro answers w
  rw [exchange_run]
  cases request with
  | error err => exact ⟨[], by simp, by simp⟩
  | ok req => exact ⟨[(req, answers w.asked)], rfl, by simpa using allowed req rfl⟩

end

def newRemoteAPIError (opContext : String) (status : ℕ) (body : Bytes) : Error :=
  newSignerError .remoteAPIError
    (opContext ++ " " ++ toString status ++ ": " ++ sanitizeRemoteResponse (runes body))

/-- A response object read for its `id` only. -/
structure IDObject where
  id : String

def transactionIDInBody [Unmarshal IDObject] (body : Bytes) : String :=
  match (unmarshal body : Except String IDObject) with
  | .error _ => ""
  | .ok parsed => trimSpace parsed.id

def encodeURIComponent (input : String) : String := percentEncode "-_.!~*'()" (utf8 input)

/-- `url.PathEscape` -/
def pathEscape (input : String) : String := percentEncode "-_.~$&+:=@" (utf8 input)

end

/-! ## Waiting -/

/-- The context of a call, by whether it ends in the waits still to come. -/
structure Context where
  endsIn : ℕ → Bool

/-- The context after a wait. -/
def Context.waited (ctx : Context) : Context := ⟨fun i => ctx.endsIn (i + 1)⟩

/-- One wait of a poll loop, cut short when the context ends in it. -/
def sleepContext : HttpProg Context Error Unit := do
  let ctx ← state
  modifyState Context.waited
  if ctx.endsIn 0 then
    fail (newSignerError .httpError "transaction polling cancelled")

/-- The error of a wait that was cut short after the provider accepted. -/
def cancelledUnconfirmed (providerTxID : String) : Error :=
  SignerError.toError {
    code := .broadcastUnconfirmed
    providerTxID
    providerStatus := 0
    idempotencyKey := ""
    detail := "transaction polling cancelled after the provider accepted the transaction" }

/-- The wait for a transaction the provider may already be executing. -/
def sleepContextUnconfirmed (providerTxID : String) : HttpProg Context Error Unit :=
  sleepContext.mapError fun _ => cancelledUnconfirmed providerTxID

theorem sleepContext_blind : sleepContext.Blind := by
  refine blind_state.bind fun ctx => blind_modifyState.bind fun _ => ?_
  split
  · exact blind_fail
  · exact blind_pure

theorem sleepContext_asks {R : Request → Prop} : sleepContext.Asks R := by
  refine .of_run_log fun answers w => ?_
  simp only [sleepContext, run_bind, run_state, run_modifyState]
  split <;> rfl

/-- A wait moves on to the next one, or fails when the context ends in it. -/
theorem sleepContext_run {answers : ℕ → Reply} {w : World Request Reply Context} :
    sleepContext.run answers w =
      (if w.state.endsIn 0 then .error (newSignerError .httpError "transaction polling cancelled")
        else .ok (), { w with state := w.state.waited }) := by
  simp only [sleepContext, run_bind, run_state, run_modifyState]
  split <;> rfl

theorem sleepContextUnconfirmed_run {providerTxID : String} {answers : ℕ → Reply}
    {w : World Request Reply Context} :
    (sleepContextUnconfirmed providerTxID).run answers w =
      (if w.state.endsIn 0 then .error (cancelledUnconfirmed providerTxID) else .ok (),
        { w with state := w.state.waited }) := by
  rw [sleepContextUnconfirmed, run_mapError, sleepContext_run]
  cases w.state.endsIn 0 <;> rfl

def pollTimeoutError (provider : String) (attempts : ℕ) (providerTxID : String) : Error :=
  SignerError.toError {
    code := .remoteAPIError
    providerTxID
    providerStatus := 0
    idempotencyKey := ""
    detail := provider ++ " transaction polling timed out after " ++ toString attempts ++
      " attempts; the signing request may still complete" }

/-! ## Keys, signatures and transactions -/

section

variable [Packages]

/-- `FormatUUID`: the version and variant bits are tagged in place. -/
def formatUUID (b : Bytes) : String :=
  let b := (b.modify 6 fun byte => (byte &&& 0x0f) ||| 0x40).modify 8
    fun byte => (byte &&& 0x3f) ||| 0x80
  let x (start stop : ℕ) : String :=
    String.ofList (((b.drop start).take (stop - start)).flatMap hexDigits)
  x 0 4 ++ "-" ++ x 4 6 ++ "-" ++ x 6 8 ++ "-" ++ x 8 10 ++ "-" ++ x 10 16

def idempotencyKeyFromMessage (messageBytes : Bytes) : String :=
  formatUUID ((Packages.sha256 messageBytes).val.take 16)

/-- A key has its four dashes whatever the digest. -/
theorem idempotencyKeyFromMessage_ne {messageBytes : Bytes} :
    idempotencyKeyFromMessage messageBytes ≠ "" := by
  intro empty
  have lengths := congrArg String.length empty
  have dash : "-".length = 1 := rfl
  simp only [idempotencyKeyFromMessage, formatUUID, String.length_append, dash,
    String.length_empty] at lengths
  omega

def messageBytes (tx : VersionedTransaction) : Except Error Bytes :=
  (Packages.marshalMessage tx.message).mapError fun _ =>
    newSignerError .serializationError "failed to serialize transaction message"

theorem messageBytes_plain {tx : VersionedTransaction} : Plain (messageBytes tx) :=
  plain_mapError fun _ => by simp

def signingPosition (tx : VersionedTransaction) (pubkey : Pubkey) : Except Error ℕ :=
  if tx.message.staticAccountKeys.length < tx.message.numRequired then
    .error (newSignerError .signingFailed "invalid account index: not enough account keys")
  else
    match tx.message.requiredKeys.idxOf? pubkey with
    | some position => .ok position
    | none =>
      .error (newSignerError .signingFailed
        ("pubkey " ++ Packages.showPubkey pubkey ++ " not found in transaction signers"))

def signatureFromBytes (raw : Bytes) (provider : String) : Except Error Signature :=
  okOr (Signature.ofBytes? raw) (newSignerError .signingFailed
    ("invalid signature length from " ++ provider ++ ": expected 64 bytes, got " ++
      toString raw.length))

end

end Keychain.Go
