import Keychain.Rust.Crossmint.Types
import Keychain.Rust.SignatureUtil

/-!
`crossmint/mod.rs`: `CrossmintSigner`, which creates a transaction in a managed
wallet, approves it when asked to, polls it and reads the landed signature.

The requests are built by pure functions (`createRequest`, `getRequest`,
`approvalRequest`) and the responses read by pure functions (`createOutcome`,
`followUpOutcome`), so that a run is a sequence of exchanges.
-/

namespace Keychain.Rust.Crossmint

open Prog

/-- A Crossmint signer after `new`; `publicKey` is set by `init`. -/
structure CrossmintSigner where
  apiKey : String
  walletLocator : String
  signer : Option String
  apiBaseUrl : String
  publicKey : Option Pubkey
  maxPollAttempts : ℕ
  /-- The seed of the Ed25519 key derived from `signer_secret`. -/
  signingKey : Option Bytes
  /-- Whether a slot was registered by `with_pending_transaction_id`. -/
  pendingTransactionId : Bool
  maxPollAttempts_pos : 0 < maxPollAttempts

namespace CrossmintSigner

variable {σ T : Type}

def initializedPubkey (signer : CrossmintSigner) : Except SignerError Pubkey :=
  match signer.publicKey with
  | some publicKey => .ok publicKey
  | none =>
    .error (.configError "CrossmintSigner is not initialized; call init() before signing")

/-! ## Requests and responses -/

/-- Each segment is pushed after a slash, percent-encoded. -/
def pushSegments (url : String) (segments : List String) : String :=
  segments.foldl (fun url segment => url ++ "/" ++ encodeUriComponent segment) url

def buildWalletsApiUrl [Crates] (signer : CrossmintSigner) (segments : List String) :
    Except SignerError String := do
  let base ← (Crates.urlParse signer.apiBaseUrl).mapError fun e =>
    .configError s!"Invalid api_base_url: {e}"
  require (base.cannotBeABase = false)
    (.configError "api_base_url cannot be used as a base URL")
  let url := trimEndMatches '/' base.asStr ++ "/2025-06-09/wallets/" ++
    encodeUriComponent signer.walletLocator
  pure (pushSegments url segments)

/-- More segments extend the same URL. -/
theorem buildWalletsApiUrl_append [Crates] {signer : CrossmintSigner}
    {segments more : List String} :
    signer.buildWalletsApiUrl (segments ++ more) =
      (signer.buildWalletsApiUrl segments).map fun url => pushSegments url more := by
  unfold buildWalletsApiUrl
  cases Crates.urlParse signer.apiBaseUrl with
  | error e => rfl
  | ok base =>
    by_cases usable : base.cannotBeABase = false
    · simp [bind, Except.bind, require, usable, pure, Except.pure, Except.map,
        pushSegments, List.foldl_append]
    · simp [bind, Except.bind, require, usable, Except.map]

def extractErrorMessage (value : Value) : Option String :=
  match (value.get "message").bind Json.asStr with
  | some message => some message
  | none =>
    match (value.get "error").bind Json.asStr with
    | some error => some error
    | none =>
      (((value.get "error").bind Json.asObject).bind (·.lookup "message")).bind Json.asStr

/-- A body that is not JSON reads as `null`. -/
def readJsonValue [Crates] (response : Response) : Except SignerError Value := do
  let body ← readBodyCapped response.body
  match Crates.jsonFromSlice body with
  | .ok value => pure value
  | .error _ => pure .null

/-- A blank string is as unusable as an absent field. -/
def lacksField (value : Value) (requiredField : String) : Bool :=
  match value.get requiredField with
  | none => true
  | some field => (Json.asStr field).any isBlank

def valueToTyped [Crates] (decode : Value → Option T) (status : ℕ) (value : Value)
    (requiredField context : String) : Except SignerError T :=
  if 400 ≤ status then
    let message := (extractErrorMessage value).getD s!"Crossmint API error {status}"
    .error (.remoteApi s!"{context}: {message}")
  else if lacksField value requiredField then
    match extractErrorMessage value with
    | some message => .error (.remoteApi s!"{context}: {message}")
    | none =>
      .error (.serializationError
        s!"{context}: missing expected field '{requiredField}' in response")
  else
    match decode value with
    | some typed => .ok typed
    | none =>
      .error (.serializationError
        s!"{context}: failed to parse JSON response: {Crates.fromValueError value}")

def parseResponseWithRequiredField [Crates] (decode : Value → Option T)
    (requiredField context : String) (response : Response) : Except SignerError T := do
  let value ← readJsonValue response
  valueToTyped decode response.status value requiredField context

section

variable [Crates]

/-! ## The create -/

def createBody (signer : CrossmintSigner) (transaction : String) : Value :=
  .object [("params", .object ([("transaction", .string transaction)] ++
    signer.signer.toList.map (("signer", .string ·))))]

/-- The create; a body that does not serialize is an error of the builder. -/
def createRequest (signer : CrossmintSigner) (url transaction idempotencyKey : String) :
    Except String Request := do
  let body ← Crates.jsonToString (signer.createBody transaction)
  pure {
    method := .post
    url
    headers := [("Content-Type", "application/json"), ("X-API-KEY", signer.apiKey),
      ("x-idempotency-key", idempotencyKey)]
    body }

/-- The created transaction, or the classified failure. -/
def createOutcome (idempotencyKey : String) (response : Response) :
    Except SignerError TransactionResponse := do
  let status := response.status
  let value ← (readJsonValue response).mapError
    (unconfirmedUnlessRejected (some status) none (some idempotencyKey))
  -- The create may have been accepted even when the body is otherwise
  -- unusable, so an id present there is the caller's recovery handle.
  let providerTxId := transactionIdInValue value
  (valueToTyped TransactionResponse.fromValue status value "id" "create_transaction").mapError
    (unconfirmedUnlessRejected (some status) providerTxId (some idempotencyKey))

def createTransaction (signer : CrossmintSigner) (transaction idempotencyKey : String) :
    HttpProg σ SignerError TransactionResponse := do
  let url ← ofExcept (signer.buildWalletsApiUrl ["transactions"])
  let response ← (send (signer.createRequest url transaction idempotencyKey)).mapError
    (unconfirmedUnlessRejected none none (some idempotencyKey))
  ofExcept (createOutcome idempotencyKey response)

/-! ## Follow-ups -/

def getRequest (signer : CrossmintSigner) (transactionId : String) :
    Except SignerError Request := do
  let url ← signer.buildWalletsApiUrl ["transactions", transactionId]
  pure { method := .get, url, headers := [("X-API-KEY", signer.apiKey)], body := "" }

def getTransaction (signer : CrossmintSigner) (transactionId : String) :
    HttpProg σ SignerError TransactionResponse :=
  exchange (signer.getRequest transactionId)
    (parseResponseWithRequiredField TransactionResponse.fromValue "id" "get_transaction")

def submitApprovalRequest (signer : CrossmintSigner)
    (transactionId signerLocator message : String) (signingKey : Bytes) :
    Except SignerError Request := do
  let messageBytes ← (Crates.bs58Decode message).mapError fun e =>
    .signingFailed s!"Failed to decode approval message as base58: {e}"
  let signature := Crates.ed25519Sign signingKey messageBytes
  let signatureB58 := Crates.bs58Encode signature.bytes
  let url ← signer.buildWalletsApiUrl ["transactions", transactionId, "approvals"]
  let body ← (Crates.jsonToString (.object [("approvals", .array [.object [
    ("signer", .string signerLocator), ("signature", .string signatureB58)]])])).mapError
      .httpError
  pure {
    method := .post
    url
    headers := [("Content-Type", "application/json"), ("X-API-KEY", signer.apiKey)]
    body }

def submitApproval (signer : CrossmintSigner) (transactionId signerLocator message : String)
    (signingKey : Bytes) : HttpProg σ SignerError TransactionResponse :=
  exchange (signer.submitApprovalRequest transactionId signerLocator message signingKey)
    (parseResponseWithRequiredField TransactionResponse.fromValue "id" "submit_approval")

def awaitingApprovalError : SignerError := .signingFailed
  "Crossmint transaction is awaiting approval; additional signer approvals are required"

/-- The message this signer has to approve: the first pending entry that names
its locator. Other entries belong to other approvers. -/
def pendingMessage (signerLocator : String) (response : TransactionResponse) :
    Except SignerError String :=
  match response.approvals.bind fun approvals => approvals.pending.find? fun entry =>
      entry.signer.bind ApprovalSigner.locator == some signerLocator with
  | none => .error awaitingApprovalError
  | some entry =>
    match entry.message with
    | some message => .ok message
    | none => .error (.signingFailed
        "Crossmint transaction awaiting approval but no pending message found")

def handleAwaitingApproval (signer : CrossmintSigner) (response : TransactionResponse) :
    HttpProg σ SignerError TransactionResponse :=
  match signer.signingKey, signer.signer with
  | some signingKey, some signerLocator => do
    let message ← ofExcept (pendingMessage signerLocator response)
    signer.submitApproval response.id signerLocator message signingKey
  | _, _ => fail awaitingApprovalError

def transactionFailure (response : TransactionResponse) : SignerError :=
  let detail := (response.error.map Crates.showValue).getD "unknown error"
  .signingFailed s!"Crossmint transaction failed: {detail}"

/-- The verdict on the last response once the attempts are used up. -/
def pollExhausted (signer : CrossmintSigner) (approvalSubmitted : Bool)
    (response : TransactionResponse) : Except SignerError TransactionResponse :=
  if response.status = "success" then
    .ok response
  else if response.status = "failed" then
    .error (transactionFailure response)
  else if response.status = "awaiting-approval" ∧ approvalSubmitted = false then
    .error awaitingApprovalError
  else
    .error (.remoteApi
      s!"Crossmint transaction polling timed out after {signer.maxPollAttempts} attempts")

/-- The polling loop with its remaining attempts. The approval is submitted at
most once; afterwards `awaiting-approval` is re-polled like any status. -/
def pollLoop (signer : CrossmintSigner) :
    ℕ → Bool → TransactionResponse → HttpProg σ SignerError TransactionResponse
  | 0, approvalSubmitted, response => ofExcept (signer.pollExhausted approvalSubmitted response)
  | attempts + 1, approvalSubmitted, response =>
    if response.status = "success" then
      pure response
    else if response.status = "failed" then
      fail (transactionFailure response)
    else if response.status = "awaiting-approval" ∧ approvalSubmitted = false then do
      let response ← signer.handleAwaitingApproval response
      signer.pollLoop attempts true response
    else do
      let response ← signer.getTransaction response.id
      signer.pollLoop attempts approvalSubmitted response

def pollTransaction (signer : CrossmintSigner) (response : TransactionResponse) :
    HttpProg σ SignerError TransactionResponse :=
  signer.pollLoop signer.maxPollAttempts false response

/-! ## Extracting the signature -/

/-- The fee payer's signature out of a serialized `onChain.transaction`, with the
key and bytes it has to be verified against. -/
def feePayerSignatureFromSerializedTransaction (serializedTransaction : String) :
    Except SignerError (Signature × Pubkey × Bytes) := do
  let bytes ← (Crates.bs58Decode serializedTransaction).mapError fun e =>
    .serializationError s!"Failed to decode Crossmint onChain.transaction as base58: {e}"
  let transaction ← (deserializeWireTransaction bytes).mapError fun e =>
    .serializationError s!"Failed to deserialize Crossmint onChain.transaction: {e.display}"
  let signerKeys := transaction.message.staticAccountKeys
  require (transaction.message.numRequired ≤ signerKeys.length)
    (.signingFailed "Invalid account index: not enough account keys")
  let feePayer ← okOr signerKeys.head?
    (.signingFailed "Crossmint transaction carries no account keys")
  let signature ← okOr (transaction.signatures.head?.filter (· != Signature.default))
    (.signingFailed "Crossmint transaction carries no signer signature")
  pure (signature, feePayer, Crates.serializeMessage transaction.message)

/-- The `txId` fallback. -/
def signatureFromTxId (txId : String) : Except SignerError Signature :=
  (signatureFromBase58 txId).mapError fun _ =>
    .signingFailed "Crossmint onChain.txId was not a valid Solana signature"

/-- The signature identifying the transaction Crossmint landed. -/
def extractSignatureFromResponse (response : TransactionResponse) :
    Except SignerError Signature :=
  let unable : Except SignerError Signature :=
    .error (.signingFailed "Unable to extract signature from Crossmint transaction response")
  match response.onChain with
  | none => unable
  | some onChain =>
    match onChain.transaction.map feePayerSignatureFromSerializedTransaction, onChain.txId with
    | some (.ok (signature, feePayer, message)), _ =>
      (verifyOrReject signature feePayer message).map fun _ => signature
    | some (.error error), none => .error error
    | some (.error _), some txId => signatureFromTxId txId
    | none, some txId => signatureFromTxId txId
    | none, none => unable

/-! ## The managed flow -/

def namespacedKeyInput (signer : CrossmintSigner) (messageBytes : Bytes) : Bytes :=
  let locator := signer.signer.getD ""
  utf8 s!"crossmint:solana:{(utf8 locator).length}:{locator}:" ++ messageBytes

def finishManagedTransaction (signer : CrossmintSigner) (createResponse : TransactionResponse) :
    HttpProg σ SignerError Signature := do
  let finalResponse ← signer.pollTransaction createResponse
  ofExcept (extractSignatureFromResponse finalResponse)

/-- The key the create of this transaction is sent with. -/
def idempotencyKey (signer : CrossmintSigner) (transaction : VersionedTransaction) : String :=
  idempotencyKeyFromMessage
    (signer.namespacedKeyInput (Crates.serializeMessage transaction.message))

/-- Any failure after the create was accepted. -/
def afterCreate (providerTxId idempotencyKey : String) (error : SignerError) : SignerError :=
  .broadcastUnconfirmed {
    providerTxId := some providerTxId
    providerStatus := none
    idempotencyKey := some idempotencyKey
    transactionSignature := none
    detail := error.detailString }

def executeManagedTransaction (signer : CrossmintSigner) (transaction : VersionedTransaction) :
    HttpProg PendingTransactionId SignerError Signature := do
  let _ ← ofExcept signer.initializedPubkey
  let serialized ← ofExcept (serializeWireTransaction transaction)
  let transactionB58 := Crates.bs58Encode serialized
  let idempotencyKey := signer.idempotencyKey transaction
  let createResponse ← signer.createTransaction transactionB58 idempotencyKey
  let providerTxId := createResponse.id
  modifyState fun slot => if signer.pendingTransactionId then slot.set providerTxId else slot
  finallyModify
    (fun slot => if signer.pendingTransactionId then slot.clear providerTxId else slot)
    ((signer.finishManagedTransaction createResponse).mapError
      (afterCreate providerTxId idempotencyKey))

def signAndSendTransaction (signer : CrossmintSigner) (transaction : VersionedTransaction) :
    HttpProg PendingTransactionId SignerError Signature :=
  signer.executeManagedTransaction transaction

end

end CrossmintSigner

end Keychain.Rust.Crossmint
