import Keychain.Rust.RemoteUtil
import Keychain.Rust.SignatureUtil

/-!
`fordefi/mod.rs` and `fordefi/types.rs`: the API plumbing that the three Fordefi
signers share, `FordefiCore`.

A submit is one `POST /api/v1/transactions`; everything the core makes of its
response is the pure function `submitOutcome`. A poll is a bounded run of
`GET /api/v1/transactions/{id}`, each answer judged by `pollOutcome`.
-/

namespace Keychain.Rust.Fordefi

open Prog

/-! ## Types -/

inductive SolanaChainUniqueId where
  | solanaDevnet
  | solanaMainnet
  deriving DecidableEq

def SolanaChainUniqueId.asStr : SolanaChainUniqueId → String
  | .solanaDevnet => "solana_devnet"
  | .solanaMainnet => "solana_mainnet"

/-- Whether Fordefi broadcasts a native Solana transaction after signing it. -/
inductive FordefiPushMode where
  | auto
  | manual
  deriving DecidableEq

def FordefiPushMode.asStr : FordefiPushMode → String
  | .auto => "auto"
  | .manual => "manual"

inductive FordefiPriorityLevel where
  | low
  | medium
  | high
  deriving DecidableEq

def FordefiPriorityLevel.asStr : FordefiPriorityLevel → String
  | .low => "low"
  | .medium => "medium"
  | .high => "high"

/-- Fee configuration for native Solana transactions. -/
inductive FordefiSolanaFee where
  | custom (unitPrice priorityFee : Option String)
  | priority (priorityLevel : FordefiPriorityLevel)
  deriving DecidableEq

/-- A member that `skip_serializing_if = "Option::is_none"` leaves out. -/
def optionalMember (name : String) (value : Option Value) : List (String × Value) :=
  value.toList.map (name, ·)

def FordefiSolanaFee.toValue : FordefiSolanaFee → Value
  | .custom unitPrice priorityFee =>
    .object ([("type", .string "custom")] ++
      optionalMember "unit_price" (unitPrice.map .string) ++
      optionalMember "priority_fee" (priorityFee.map .string))
  | .priority priorityLevel =>
    .object [("type", .string "priority"), ("priority_level", .string priorityLevel.asStr)]

structure CreateTransactionResponse where
  id : String

structure FordefiSignatureEntry where
  data : String

structure TransactionStatusResponse where
  state : String
  signatures : Option (List FordefiSignatureEntry)
  /-- Base64-encoded signed wire transaction. -/
  rawTransaction : Option String

/-! ## The core -/

/-- Shared Fordefi API plumbing. A `requestSigner` is any implementation of
`FordefiRequestSigner`. -/
structure FordefiCore where
  accessToken : String
  vaultId : String
  requestSigner : Bytes → Except SignerError String
  apiBaseUrl : String
  publicKey : Pubkey
  maxPollAttempts : ℕ
  accessToken_ne : accessToken ≠ ""
  vaultId_ne : vaultId ≠ ""
  maxPollAttempts_pos : 0 < maxPollAttempts

namespace FordefiCore

variable {σ : Type}

def path : String := "/api/v1/transactions"

/-- Sign an API request payload `{path}|{timestamp}|{body}`. -/
def signRequest (core : FordefiCore) (path : String) (timestamp : ℕ) (body : String) :
    Except SignerError String :=
  core.requestSigner (utf8 s!"{path}|{timestamp}|{body}")

/-- The signed create, or the error that kept it from being formed. -/
def submission [Crates] (core : FordefiCore) (request : Value) (idempotenceId : Option String) :
    Except SignerError Request := do
  let body ← (Crates.jsonToString request).mapError .serializationError
  let millis ← Crates.unixMillis.mapError fun e => .other s!"System time error: {e}"
  let timestamp := millis % UInt64.size
  let signature ← core.signRequest path timestamp body
  pure {
    method := .post
    url := core.apiBaseUrl ++ path
    headers :=
      [("Authorization", s!"Bearer {core.accessToken}"), ("x-signature", signature),
        ("x-timestamp", toString timestamp), ("Content-Type", "application/json")] ++
      (idempotenceId.toList.map fun id => ("x-idempotence-id", id))
    body }

/-- An unresolved failure of a submit that broadcasts is reported as unconfirmed. -/
def classify (idempotenceId : Option String) (broadcastManaged : Bool) (status : Option ℕ)
    (providerTxId : Option String) (error : SignerError) : SignerError :=
  if broadcastManaged then
    unconfirmedUnlessRejected status providerTxId idempotenceId error
  else
    error

/-- The transaction id of a submit's response, or the classified failure. -/
def submitOutcome [Crates] [FromSlice CreateTransactionResponse]
    (classify : Option ℕ → Option String → SignerError → SignerError) (response : Response) :
    Except SignerError String := do
  let status := response.status
  if !Reply.isSuccess status then
    let (error, providerTxId) :=
      extractApiErrorWithTransactionId response "Fordefi API submit_request"
    throw (classify (some status) providerTxId error)
  let body ← (readBodyCapped response.body).mapError (classify (some status) none)
  -- The submit may have been accepted even when the body is otherwise
  -- unusable, so an id present there is the caller's recovery handle.
  let providerTxId := transactionIdInBody body
  let createResponse : CreateTransactionResponse ← (fromSlice body).mapError fun e =>
    classify (some status) providerTxId (.serializationError e)
  if isBlank createResponse.id then
    throw (classify (some status) providerTxId
      (.serializationError "Fordefi API submit_request returned no transaction id"))
  pure createResponse.id

/-- POST a serialized request body to `/api/v1/transactions` and return the
Fordefi transaction id. -/
def submitRequest [Crates] [FromSlice CreateTransactionResponse] (core : FordefiCore)
    (request : Value) (idempotenceId : Option String) (broadcastManaged : Bool) :
    HttpProg σ SignerError String := do
  let request ← ofExcept (core.submission request idempotenceId)
  let classify := classify idempotenceId broadcastManaged
  let response ← (send (.ok request)).mapError (classify none none)
  ofExcept (submitOutcome classify response)

section

variable [Crates] [FromSlice CreateTransactionResponse]

/-- What a submit makes of its reply. -/
def submitVerdict (classify : Option ℕ → Option String → SignerError → SignerError)
    (reply : Reply) : Except SignerError String :=
  (received reply).mapError (classify none none) >>= submitOutcome classify

/-- A submit in closed form: the request is formed and sent at most once, and
the reply decides. -/
theorem submitRequest_run {core : FordefiCore} {request : Value} {idempotenceId : Option String}
    {broadcastManaged : Bool} {answers : ℕ → Reply} {w : World Request Reply σ} :
    (core.submitRequest request idempotenceId broadcastManaged).run answers w =
      match core.submission request idempotenceId with
      | .error e => (.error e, w)
      | .ok create =>
        match sendable (.ok create) with
        | .error e => (.error (classify idempotenceId broadcastManaged none none e), w)
        | .ok sent => (submitVerdict (classify idempotenceId broadcastManaged) (answers w.asked),
            w.heard sent (answers w.asked)) := by
  rw [submitRequest, run_bind, run_ofExcept]
  cases core.submission request idempotenceId with
  | error e => rfl
  | ok create =>
    simp only [run_bind, run_mapError, send_run]
    cases sendable (.ok create) with
    | error e => rfl
    | ok sent =>
      simp only [submitVerdict]
      cases received (answers w.asked) <;> rfl

theorem submitRequest_keeps {core : FordefiCore} {request : Value}
    {idempotenceId : Option String} {broadcastManaged : Bool} :
    (core.submitRequest request idempotenceId broadcastManaged :
      HttpProg σ SignerError String).Keeps :=
  keeps_ofExcept.bind fun _ => send_keeps.mapError.bind fun _ => keeps_ofExcept

variable {classify : Option ℕ → Option String → SignerError → SignerError}

/-- The response of a submit, case by case. -/
theorem submitOutcome_eq {response : Response} :
    submitOutcome classify response =
      if Reply.isSuccess response.status then
        match readBodyCapped response.body with
        | .error e => .error (classify (some response.status) none e)
        | .ok body =>
          match fromSlice body with
          | .error e =>
            .error (classify (some response.status) (transactionIdInBody body)
              (.serializationError e))
          | .ok (created : CreateTransactionResponse) =>
            if isBlank created.id then
              .error (classify (some response.status) (transactionIdInBody body)
                (.serializationError "Fordefi API submit_request returned no transaction id"))
            else
              .ok created.id
      else
        .error (classify (some response.status)
          (extractApiErrorWithTransactionId response "Fordefi API submit_request").2
          (extractApiErrorWithTransactionId response "Fordefi API submit_request").1) := by
  unfold submitOutcome
  by_cases success : Reply.isSuccess response.status
  · simp only [success, Bool.not_true, Bool.false_eq_true, if_false, if_true]
    cases readBodyCapped response.body with
    | error e => rfl
    | ok body =>
      simp only [mapError_ok, bind, Except.bind, pure, Except.pure]
      cases (fromSlice body : Except String CreateTransactionResponse) with
      | error e => rfl
      | ok created => by_cases blank : isBlank created.id <;> simp [blank, throw, throwThe,
          MonadExceptOf.throw]
  · simp only [success, Bool.not_false, if_true]
    rfl

end

/-! ## Polling -/

/-- The terminal failure states of a Fordefi transaction. -/
def isErrorState (state : String) : Bool :=
  ["aborted", "cancelled", "dropped", "completed_reverted", "error_pushing_to_blockchain",
    "error_signing", "insufficient_funds", "mined_reverted"].contains state

def isSuccessState (pushable : Bool) (state : String) : Bool :=
  if pushable then state == "completed" else state == "signed" || state == "completed"

/-- How one poll response settles the transaction. -/
def pollOutcome [FromSlice TransactionStatusResponse] (txId : String) (pushable : Bool)
    (response : Response) : Except SignerError (PollOutcome TransactionStatusResponse) := do
  let txData : TransactionStatusResponse ← parseJsonResponse response "Fordefi API poll_result"
  if isSuccessState pushable txData.state then
    pure (.done txData)
  else if isErrorState txData.state then
    throw (.signingFailed s!"Transaction {txId} reached terminal state: {txData.state}")
  else
    pure .pending

def pollRequest (core : FordefiCore) (txId : String) : Request where
  method := .get
  url := s!"{core.apiBaseUrl}/api/v1/transactions/{txId}"
  headers := [("Authorization", s!"Bearer {core.accessToken}")]
  body := ""

def pollAttempt [Crates] [FromSlice TransactionStatusResponse] (core : FordefiCore)
    (txId : String) (pushable : Bool) :
    HttpProg σ SignerError (PollOutcome TransactionStatusResponse) :=
  exchange (.ok (core.pollRequest txId)) (pollOutcome txId pushable)

def pollTimeout (core : FordefiCore) (txId : String) : SignerError :=
  .remoteApiError s!"Polling timeout after {core.maxPollAttempts} attempts" (some txId)

/-- Poll until the transaction reaches a terminal state. -/
def pollForResult [Crates] [FromSlice TransactionStatusResponse] (core : FordefiCore)
    (txId : String) (pushable : Bool) : HttpProg σ SignerError TransactionStatusResponse :=
  pollUntil core.maxPollAttempts (core.pollTimeout txId) (core.pollAttempt txId pushable)

/-- The result of a poll is what the last reply says. -/
theorem pollForResult_meets [Crates] [FromSlice TransactionStatusResponse] {core : FordefiCore}
    {txId : String} {pushable : Bool} {answers : ℕ → Reply} {w : World Request Reply σ} :
    (core.pollForResult txId pushable).Meets answers w
      (fun result w' => w'.state = w.state ∧
        ∃ reply, w'.log.getLast? = some (core.pollRequest txId, reply) ∧
          (received reply >>= pollOutcome txId pushable) = .ok (.done result))
      (fun _ w' => w'.state = w.state) := by
  refine meets_retry (I := fun w' => w'.state = w.state) ?_ (fun _ kept => kept) _ rfl
  intro w' kept
  refine exchange_meets.mono ?_ fun _ _ same => same.trans kept
  intro outcome w'' heard
  rcases heard with ⟨reply, rfl, judged⟩
  refine ⟨?_, fun _ => kept⟩
  intro result decided
  subst decided
  exact ⟨kept, reply, by simp, judged⟩

/-- Extract and validate a 64-byte signature from a poll response. -/
def extractSignatureFromResult [Crates] (result : TransactionStatusResponse) :
    Except SignerError Signature :=
  match result.signatures.bind List.head? with
  | some entry => signatureFromBase64 entry.data
  | none => .error (.signingFailed "Transaction signed but no signatures in response")

/-- Poll for a non-pushable result and extract the 64-byte signature. -/
def pollForSignature [Crates] [FromSlice TransactionStatusResponse] (core : FordefiCore)
    (txId : String) : HttpProg σ SignerError Signature := do
  let result ← core.pollForResult txId false
  ofExcept (extractSignatureFromResult result)

/-- Decode the base64 wire transaction a native poll response carries. -/
def decodeRawTransaction [Crates] (result : TransactionStatusResponse) :
    Except SignerError Bytes :=
  match result.rawTransaction with
  | none =>
    .error (.signingFailed "Fordefi solana_transaction response missing raw_transaction")
  | some rawTxB64 =>
    (Crates.base64Decode rawTxB64).mapError fun e =>
      .serializationError s!"Failed to decode raw_transaction base64: {e}"

theorem decodeRawTransaction_eq_ok [Crates] {result : TransactionStatusResponse} {wire : Bytes} :
    decodeRawTransaction result = .ok wire ↔
      ∃ raw, result.rawTransaction = some raw ∧ Crates.base64Decode raw = .ok wire := by
  unfold decodeRawTransaction
  cases result.rawTransaction with
  | none => simp
  | some raw => simp [mapError_eq_ok]

/-- Verify a signature against `message` with the vault's public key. -/
def verifySignature [Crates] (core : FordefiCore) (signature : Signature) (message : Bytes) :
    Except SignerError Unit :=
  if verifies signature core.publicKey message then
    .ok ()
  else
    .error (.signingFailed "Signature verification failed")

/-! ## Submits -/

def blackBoxRequest [Crates] (core : FordefiCore) (dataBytes : Bytes) : Value :=
  .object [
    ("vault_id", .string core.vaultId), ("signer_type", .string "api_signer"),
    ("sign_mode", .string "auto"), ("type", .string "black_box_signature"),
    ("details", .object [("format", .string "hash_binary"),
      ("hash_binary", .string (Crates.base64Encode dataBytes))])]

/-- Sign raw bytes via the black box path: submit, poll, extract the signature. -/
def signBlackBox [Crates] [FromSlice CreateTransactionResponse]
    [FromSlice TransactionStatusResponse] (core : FordefiCore) (dataBytes : Bytes) :
    HttpProg σ SignerError Signature := do
  let txId ← core.submitRequest (core.blackBoxRequest dataBytes) none false
  core.pollForSignature txId

/-- The fee configuration as it enters the idempotency key. -/
def canonicalFee : Option FordefiSolanaFee → String
  | none => ""
  | some (.custom unitPrice priorityFee) =>
    "custom||" ++ unitPrice.getD "" ++ "|" ++ priorityFee.getD ""
  | some (.priority priorityLevel) => "priority|" ++ priorityLevel.asStr ++ "||"

/-- The bytes hashed into the `x-idempotence-id` of a native create. -/
def namespacedKeyInput (core : FordefiCore) (chain : SolanaChainUniqueId)
    (fee : Option FordefiSolanaFee) (pushMode : FordefiPushMode) (dataBytes : Bytes) : Bytes :=
  utf8 s!"fordefi:solana:{pushMode.asStr}:{chain.asStr}:{core.vaultId}:{canonicalFee fee}:" ++
    dataBytes

def solanaTransactionRequest [Crates] (core : FordefiCore) (chain : SolanaChainUniqueId)
    (fee : Option FordefiSolanaFee) (pushMode : FordefiPushMode) (dataBytes : Bytes) : Value :=
  .object [
    ("vault_id", .string core.vaultId), ("signer_type", .string "api_signer"),
    ("sign_mode", .string "auto"), ("type", .string "solana_transaction"),
    ("details", .object ([
      ("type", .string "solana_serialized_transaction_message"),
      ("chain", .string chain.asStr),
      ("data", .string (Crates.base64Encode dataBytes)),
      ("push_mode", .string pushMode.asStr)] ++
      optionalMember "fee" (fee.map FordefiSolanaFee.toValue)))]

/-- Submit a native Solana transaction request. -/
def submitSolanaTransaction [Crates] [FromSlice CreateTransactionResponse] (core : FordefiCore)
    (chain : SolanaChainUniqueId) (fee : Option FordefiSolanaFee) (pushMode : FordefiPushMode)
    (dataBytes : Bytes) : HttpProg σ SignerError String :=
  let idempotencyKey :=
    idempotencyKeyFromMessage (core.namespacedKeyInput chain fee pushMode dataBytes)
  core.submitRequest (core.solanaTransactionRequest chain fee pushMode dataBytes)
    (some idempotencyKey) (pushMode == .auto)

end FordefiCore

end Keychain.Rust.Fordefi
