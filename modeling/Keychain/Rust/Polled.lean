import Keychain.Rust.Fordefi.Core
import Keychain.Rust.Signing

/-!
The backends whose provider answers a signing request later: Fireblocks, Utila
and the Fordefi black box. A create names a transaction, a bounded poll waits for
it to be signed, and the signature is taken from what the last poll returned.
-/

namespace Keychain.Rust

open Prog

variable {σ : Type}

/-! ## Fireblocks -/

namespace Fireblocks

structure CreateTransactionResponse where
  id : String

structure SignatureData where
  fullSig : String

structure SignedMessage where
  signature : SignatureData

structure TransactionResponse where
  status : String
  signedMessages : List SignedMessage
  txHash : Option String

inductive SigningMode where
  | raw
  | programCall
  deriving DecidableEq

end Fireblocks

open Fireblocks in
/-- `publicKey` is set by `init`. -/
structure FireblocksSigner where
  apiKey : String
  signingKey : Bytes
  vaultAccountId : String
  assetId : String
  publicKey : Option Pubkey
  apiBaseUrl : String
  maxPollAttempts : ℕ
  useProgramCall : Bool

namespace FireblocksSigner

open Fireblocks

def jwtTtlSecs : Int := 120

def jwtSkewLeewaySecs : Int := 60

def initializedPubkey (signer : FireblocksSigner) : Except SignerError Pubkey :=
  okOr signer.publicKey
    (.configError "FireblocksSigner is not initialized; call init() before signing")

section

variable [Crates]

/-- Create a JWT for Fireblocks API authentication. -/
def createJwt (apiKey : String) (encodingKey : Bytes) (now : Int) (nonce uri body : String) :
    Except SignerError String :=
  let seconds (value : Int) : Value := .number ⟨toString value⟩
  let issuedAt := now - jwtSkewLeewaySecs
  okOr
    (Crates.jwtEncode encodingKey (.object [
      ("uri", .string uri), ("nonce", .string nonce), ("iat", seconds issuedAt),
      ("nbf", seconds issuedAt), ("exp", seconds (now + jwtTtlSecs)), ("sub", .string apiKey),
      ("bodyHash", .string (Crates.hexEncode (Crates.sha256 (utf8 body)).1))]))
    (.signingFailed "Failed to create JWT")

/-- The token of a request made at this moment, which sets its time and its nonce. -/
def authTokenAt (signer : FireblocksSigner) (moment : ℕ) (uri body : String) :
    Except SignerError String :=
  createJwt signer.apiKey signer.signingKey (Crates.utcMillis moment / 1000)
    (Crates.uuidV4 moment) uri body

def createAuthToken (signer : FireblocksSigner) (uri body : String) :
    HttpProg σ SignerError String := do
  ofExcept (signer.authTokenAt (← elapsed) uri body)

def createTransactionRequest (signer : FireblocksSigner) (operation : String)
    (extraParameters : Value) : Value :=
  .object [("assetId", .string signer.assetId), ("operation", .string operation),
    ("source", .object [("type", .string "VAULT_ACCOUNT"),
      ("id", .string signer.vaultAccountId)]),
    ("extraParameters", extraParameters)]

def rawRequest (signer : FireblocksSigner) (message : Bytes) : Value :=
  signer.createTransactionRequest "RAW" (.object [("rawMessageData", .object [("messages",
    .array [.object [("content", .string (Crates.hexEncode message))]])])])

def programCallRequest (signer : FireblocksSigner) (transaction : VersionedTransaction) :
    Except SignerError Value := do
  require (!isV1Message transaction) (.signingFailed
    "Fireblocks PROGRAM_CALL accepts legacy and v0 messages only; a v1 message cannot be signed in this mode")
  let programCallData ← serializeTransaction transaction
  pure (signer.createTransactionRequest "PROGRAM_CALL"
    (.object [("programCallData", .string programCallData), ("signOnly", .bool true),
      ("useDurableNonce", .bool false)]))

/-- The create of a transaction with this body, under this token. -/
def createRequest (signer : FireblocksSigner) (token body : String) : Request where
  method := .post
  url := signer.apiBaseUrl ++ "/v1/transactions"
  headers := [("Content-Type", "application/json"), ("X-API-Key", signer.apiKey),
    ("Authorization", s!"Bearer {token}")]
  body

/-- The poll of a transaction by its path, under this token. -/
def pollRequest (signer : FireblocksSigner) (token uri : String) : Request where
  method := .get
  url := signer.apiBaseUrl ++ uri
  headers := [("X-API-Key", signer.apiKey), ("Authorization", s!"Bearer {token}")]
  body := ""

def transactionUri (txId : String) : String := s!"/v1/transactions/{txId}"

/-- A create must name the transaction. -/
def createdTransaction [FromSlice CreateTransactionResponse] (response : Response) :
    Except SignerError CreateTransactionResponse := do
  let created : CreateTransactionResponse ←
    parseJsonResponse response "Fireblocks API create_transaction"
  require (!isBlank created.id)
    (.serializationError "Fireblocks create response did not include a transaction id")
  pure created

def createTransaction [FromSlice CreateTransactionResponse] (signer : FireblocksSigner)
    (request : Value) : HttpProg σ SignerError CreateTransactionResponse := do
  let body ← ofExcept ((Crates.jsonToString request).mapError .serializationError)
  let token ← signer.createAuthToken "/v1/transactions" body
  exchange (.ok (signer.createRequest token body)) createdTransaction

def getTransaction [FromSlice TransactionResponse] (signer : FireblocksSigner) (txId : String) :
    HttpProg σ SignerError TransactionResponse := do
  let uri := transactionUri txId
  let token ← signer.createAuthToken uri ""
  exchange (.ok (signer.pollRequest token uri))
    (parseJsonResponse · "Fireblocks API get_transaction")

/-- How one poll response settles the transaction. The arms stand in the order
of the source. -/
def pollOutcome (txId : String) (mode : SigningMode) (response : TransactionResponse) :
    Except SignerError (PollOutcome TransactionResponse) :=
  if mode = .programCall ∧ response.status = "SIGNED" ∨
      mode = .raw ∧ response.status = "COMPLETED" then
    .ok (.done response)
  else if mode = .programCall ∧
      ["BROADCASTING", "CONFIRMING", "COMPLETED"].contains response.status then
    .error (.broadcastUnconfirmed {
      providerTxId := some txId
      providerStatus := none
      idempotencyKey := none
      transactionSignature := none
      detail := s!"Fireblocks broadcast the PROGRAM_CALL despite signOnly (status {response.status}); the transaction may already be executing" })
  else if ["FAILED", "CANCELLED", "REJECTED", "BLOCKED"].contains response.status then
    .error (.signingFailed s!"Transaction {response.status}: {txId}")
  else
    .ok .pending

def pollTimeout (signer : FireblocksSigner) (txId : String) : SignerError :=
  .remoteApiError
    s!"Transaction polling timeout after {signer.maxPollAttempts} attempts - signing request may still complete"
    (some txId)

def pollForCompletion [FromSlice TransactionResponse] (signer : FireblocksSigner)
    (txId : String) (mode : SigningMode) : HttpProg σ SignerError TransactionResponse :=
  pollUntil signer.maxPollAttempts (signer.pollTimeout txId) do
    let response ← signer.getTransaction txId
    ofExcept (pollOutcome txId mode response)

def signatureFromSignedMessages (response : TransactionResponse) : Except SignerError Signature :=
  match response.signedMessages.head? with
  | some signedMessage => signatureFromHex signedMessage.signature.fullSig
  | none => .error (.signingFailed
      "No reusable signature found in response (no signed_messages)")

/-- A PROGRAM_CALL carries its signature in `signedMessages` or as `txHash`. -/
def signatureFromProgramCall (response : TransactionResponse) : Except SignerError Signature :=
  match signatureFromSignedMessages response with
  | .ok signature => .ok signature
  | .error noSignedMessages =>
    match response.txHash with
    | some txHash => signatureFromBase58 txHash
    | none => .error noSignedMessages

def rejectProgramCall (publicKey : Pubkey) (message : Bytes) (signature : Signature) :
    Except SignerError Unit :=
  require (verifies signature publicKey message) (.signingFailed
    "Signature verification failed — the signature returned for the PROGRAM_CALL does not match the vault public key over the submitted message")

end

section

variable [Crates] [FromSlice CreateTransactionResponse] [FromSlice TransactionResponse]

def signRawBytes (signer : FireblocksSigner) (message : Bytes) :
    HttpProg σ SignerError Signature := do
  let publicKey ← ofExcept signer.initializedPubkey
  checked (verifyOrReject · publicKey message) do
    let created ← signer.createTransaction (signer.rawRequest message)
    let response ← signer.pollForCompletion created.id .raw
    ofExcept (signatureFromSignedMessages response)

/-- Sign a transaction with the PROGRAM_CALL operation in sign-only mode. -/
def signProgramCall (signer : FireblocksSigner) (transaction : VersionedTransaction)
    (messageBytes : Bytes) : HttpProg σ SignerError Signature := do
  let publicKey ← ofExcept signer.initializedPubkey
  let request ← ofExcept (signer.programCallRequest transaction)
  checked (rejectProgramCall publicKey messageBytes) do
    let created ← signer.createTransaction request
    let response ← signer.pollForCompletion created.id .programCall
    ofExcept (signatureFromProgramCall response)

def signAndSerialize (signer : FireblocksSigner) :
    HttpProg VersionedTransaction SignerError SignedTransaction := do
  let publicKey ← ofExcept signer.initializedPubkey
  let transaction ← state
  let messageBytes := Crates.serializeMessage transaction.message
  let signature ←
    if signer.useProgramCall then signer.signProgramCall transaction messageBytes
    else signer.signRawBytes messageBytes
  placeAndSerialize publicKey signature

def signTransaction (signer : FireblocksSigner) :
    HttpProg VersionedTransaction SignerError SignTransactionResult :=
  signAndClassify signer.signAndSerialize

omit [FromSlice CreateTransactionResponse] [FromSlice TransactionResponse] in
theorem createAuthToken_keeps {signer : FireblocksSigner} {uri body : String} :
    (signer.createAuthToken uri body : HttpProg σ SignerError String).Keeps :=
  keeps_elapsed.bind fun _ => keeps_ofExcept

omit [FromSlice TransactionResponse] in
theorem createTransaction_keeps {signer : FireblocksSigner} {request : Value} :
    (signer.createTransaction request : HttpProg σ SignerError _).Keeps :=
  keeps_ofExcept.bind fun _ => createAuthToken_keeps.bind fun _ => exchange_keeps

omit [FromSlice CreateTransactionResponse] in
theorem pollForCompletion_keeps {signer : FireblocksSigner} {txId : String}
    {mode : SigningMode} :
    (signer.pollForCompletion txId mode : HttpProg σ SignerError _).Keeps := by
  refine Keeps.retry ?_ _
  exact (createAuthToken_keeps.bind fun _ => exchange_keeps).bind fun _ => keeps_ofExcept

theorem signRawBytes_keeps {signer : FireblocksSigner} {message : Bytes} :
    (signer.signRawBytes message : HttpProg σ SignerError Signature).Keeps :=
  keeps_ofExcept.bind fun _ => checked_keeps <| createTransaction_keeps.bind fun _ =>
    pollForCompletion_keeps.bind fun _ => keeps_ofExcept

theorem signProgramCall_keeps {signer : FireblocksSigner} {transaction : VersionedTransaction}
    {message : Bytes} :
    (signer.signProgramCall transaction message : HttpProg σ SignerError Signature).Keeps :=
  keeps_ofExcept.bind fun _ => keeps_ofExcept.bind fun _ =>
    checked_keeps <| createTransaction_keeps.bind fun _ =>
      pollForCompletion_keeps.bind fun _ => keeps_ofExcept

/-- Either mode checks what the provider returned before it is used. -/
theorem signRawBytes_yields {signer : FireblocksSigner} {publicKey : Pubkey} {message : Bytes}
    (own : signer.initializedPubkey = .ok publicKey) :
    (signer.signRawBytes message : HttpProg σ SignerError Signature).Yields fun signature =>
      verifies signature publicKey message = true := by
  rw [signRawBytes, own, ofExcept_ok_bind]
  exact checked_yields fun _ _ => verifyOrReject_eq_ok.mp

theorem signProgramCall_yields {signer : FireblocksSigner} {publicKey : Pubkey}
    {transaction : VersionedTransaction} {message : Bytes}
    (own : signer.initializedPubkey = .ok publicKey) :
    (signer.signProgramCall transaction message : HttpProg σ SignerError Signature).Yields
      fun signature => verifies signature publicKey message = true := by
  rw [signProgramCall, own, ofExcept_ok_bind]
  refine yields_bind fun _ => checked_yields fun _ _ valid => ?_
  exact require_eq_ok.mp valid

theorem signTransaction_binds_key {signer : FireblocksSigner} :
    Binds signer.publicKey signer.signTransaction := by
  refine binds_of_signAndSerialize fun transaction answers => ?_
  rw [signAndSerialize, meets_bind]
  cases own : signer.publicKey with
  | none => simp [initializedPubkey, own, okOr]
  | some publicKey =>
    have initialized : signer.initializedPubkey = .ok publicKey := by
      simp [initializedPubkey, own, okOr]
    rw [initialized, meets_ofExcept_ok, meets_bind, meets_state]
    by_cases mode : signer.useProgramCall
    · rw [if_pos mode]
      exact meets_bind_placeAndSerialize rfl rfl rfl signProgramCall_keeps
        (signProgramCall_yields initialized)
    · rw [if_neg mode]
      exact meets_bind_placeAndSerialize rfl rfl rfl signRawBytes_keeps
        (signRawBytes_yields initialized)

end

end FireblocksSigner

/-! ## Utila -/

namespace Utila

inductive TransactionState where
  | awaitingApproval
  | awaitingAmlPolicyCheck
  | declinedByAmlPolicy
  | awaitingPolicyCheck
  | awaitingSignature
  | signed
  | awaitingPublish
  | published
  | mined
  | minedFailed
  | failed
  | declined
  | replaced
  | canceled
  | dropped
  | confirmed
  | expired
  | unknown
  deriving DecidableEq

namespace TransactionState

def isTerminalFailure : TransactionState → Bool
  | .declinedByAmlPolicy | .minedFailed | .failed | .declined | .replaced | .canceled
  | .dropped | .expired => true
  | _ => false

/-- The derived `Debug` text. -/
def debug : TransactionState → String
  | .awaitingApproval => "AwaitingApproval"
  | .awaitingAmlPolicyCheck => "AwaitingAmlPolicyCheck"
  | .declinedByAmlPolicy => "DeclinedByAmlPolicy"
  | .awaitingPolicyCheck => "AwaitingPolicyCheck"
  | .awaitingSignature => "AwaitingSignature"
  | .signed => "Signed"
  | .awaitingPublish => "AwaitingPublish"
  | .published => "Published"
  | .mined => "Mined"
  | .minedFailed => "MinedFailed"
  | .failed => "Failed"
  | .declined => "Declined"
  | .replaced => "Replaced"
  | .canceled => "Canceled"
  | .dropped => "Dropped"
  | .confirmed => "Confirmed"
  | .expired => "Expired"
  | .unknown => "Unknown"

end TransactionState

structure UtilaSolanaTransaction where
  rawTransaction : Option String

structure UtilaTransaction where
  name : String
  state : TransactionState
  solanaTransaction : Option UtilaSolanaTransaction

structure TransactionEnvelope where
  transaction : UtilaTransaction

end Utila

/-- `publicKey` is set by `init`. -/
structure UtilaSigner where
  serviceAccountEmail : String
  signingKey : Bytes
  vaultId : String
  network : String
  apiBaseUrl : String
  publicKey : Option Pubkey
  maxPollAttempts : ℕ
  designatedSigners : List String

namespace UtilaSigner

open Utila

def utilaApiAudience : String := "https://api.utila.io/"

def tokenTtlMinutes : Int := 55

def initializedPubkey (signer : UtilaSigner) : Except SignerError Pubkey :=
  okOr signer.publicKey
    (.configError "UtilaSigner is not initialized; call init() before signing")

/-- The last segment of a resource name. -/
def extractTransactionId (name : String) : Except SignerError String :=
  let segment := String.ofList ((name.toList.reverse.takeWhile (· ≠ '/')).reverse)
  okOr (some segment |>.filter (· ≠ ""))
    (.serializationError "Utila transaction response missing transaction id")

section

variable [Crates]

/-- The token of a request made at this moment. -/
def accessTokenAt (signer : UtilaSigner) (moment : ℕ) : Except SignerError String :=
  let expires := (Crates.utcMillis moment + tokenTtlMinutes * 60000) / 1000
  okOr
    (Crates.jwtEncode signer.signingKey (.object [("sub", .string signer.serviceAccountEmail),
      ("aud", .string utilaApiAudience), ("exp", .number ⟨toString expires⟩)]))
    (.signingFailed "Failed to create Utila access token")

def createAccessToken (signer : UtilaSigner) : HttpProg σ SignerError String := do
  ofExcept (signer.accessTokenAt (← elapsed))

omit [Crates] in
def getRequest (signer : UtilaSigner) (path token : String) : Request where
  method := .get
  url := signer.apiBaseUrl ++ path
  headers := [("Authorization", s!"Bearer {token}")]
  body := ""

def postRequest (signer : UtilaSigner) (path : String) (body : Value) (token : String) :
    Except SignerError Request := do
  let body ← (Crates.jsonToString body).mapError .httpError
  pure {
    method := .post
    url := signer.apiBaseUrl ++ path
    headers := [("Authorization", s!"Bearer {token}")]
    body }

omit [Crates] in
def initiatePath (signer : UtilaSigner) : String :=
  s!"/v2/vaults/{encodeUriComponent signer.vaultId}/transactions:initiate"

omit [Crates] in
def transactionPath (signer : UtilaSigner) (transactionId : String) : String :=
  s!"/v2/vaults/{encodeUriComponent signer.vaultId}/transactions/{encodeUriComponent transactionId}?view=FULL"

omit [Crates] in
/-- `designatedSigners` is left out when it is empty. -/
def initiateRequest (signer : UtilaSigner) (rawTransaction : String) : Value :=
  let designatedSigners :=
    if signer.designatedSigners = [] then []
    else [("designatedSigners", Json.array (signer.designatedSigners.map .string))]
  .object ([("details", .object [("solanaSerializedTransaction", .object [
    ("network", .string signer.network), ("rawTransaction", .string rawTransaction),
    ("publish", .bool false), ("replaceBlockhash", .bool false),
    ("tryReplaceBlockhash", .bool false)])])] ++ designatedSigners)

omit [Crates] in
/-- What the state of a transaction in hand settles. -/
def stateOutcome (transaction : UtilaTransaction) :
    Except SignerError (PollOutcome UtilaTransaction) :=
  if transaction.state = .signed then
    .ok (.done transaction)
  else if transaction.state.isTerminalFailure then
    .error (.signingFailed
      s!"Utila transaction reached terminal state {transaction.state.debug}")
  else
    .ok .pending

omit [Crates] in
def pollTimeout (signer : UtilaSigner) : SignerError :=
  .remoteApi s!"Utila transaction polling timed out after {signer.maxPollAttempts} attempts"

variable [FromSlice TransactionEnvelope]

def getJson (signer : UtilaSigner) (path context : String) :
    HttpProg σ SignerError TransactionEnvelope := do
  let token ← signer.createAccessToken
  exchange (.ok (signer.getRequest path token)) (parseJsonResponse · s!"Utila API {context}")

def postJson (signer : UtilaSigner) (path : String) (body : Value) (context : String) :
    HttpProg σ SignerError TransactionEnvelope := do
  let token ← signer.createAccessToken
  exchange (signer.postRequest path body token) (parseJsonResponse · s!"Utila API {context}")

def initiateTransaction (signer : UtilaSigner) (rawTransaction : String) :
    HttpProg σ SignerError UtilaTransaction := do
  let envelope ← signer.postJson signer.initiatePath (signer.initiateRequest rawTransaction)
    "initiate_transaction"
  pure envelope.transaction

def getTransaction (signer : UtilaSigner) (transactionId : String) :
    HttpProg σ SignerError UtilaTransaction := do
  let envelope ← signer.getJson (signer.transactionPath transactionId) "get_transaction"
  pure envelope.transaction

/-- The poll loop, with the fetches still allowed. The state that came with the
transaction in hand is looked at before the next fetch. -/
def pollFrom (signer : UtilaSigner) (transactionId : String) :
    ℕ → UtilaTransaction → HttpProg σ SignerError UtilaTransaction
  | fetches, transaction => do
    match ← ofExcept (stateOutcome transaction) with
    | .done signed => pure signed
    | .pending =>
      match fetches with
      | 0 => fail signer.pollTimeout
      | fetches + 1 => do
        let transaction ← signer.getTransaction transactionId
        pollFrom signer transactionId fetches transaction

def pollSignedTransaction (signer : UtilaSigner) (transaction : UtilaTransaction) :
    HttpProg σ SignerError UtilaTransaction := do
  let transactionId ← ofExcept (extractTransactionId transaction.name)
  signer.pollFrom transactionId signer.maxPollAttempts transaction

omit [FromSlice TransactionEnvelope] in
def extractSignatureFromRawTransaction (signer : UtilaSigner) (rawTransaction : String)
    (expectedMessage : Bytes) : Except SignerError Signature := do
  let publicKey ← signer.initializedPubkey
  let bytes ← (Crates.base64Decode rawTransaction).mapError fun _ =>
    .serializationError "Failed to decode Utila rawTransaction as base64"
  extractAndVerifyReturnedSignature bytes publicKey expectedMessage

/-- Obtain this signer's signature over the submitted transaction. -/
def signRawTransaction (signer : UtilaSigner) (transaction : VersionedTransaction) :
    HttpProg σ SignerError Signature := do
  let wire ← ofExcept (serializeWireTransaction transaction)
  let initiated ← signer.initiateTransaction (Crates.base64Encode wire)
  let signed ← signer.pollSignedTransaction initiated
  let rawSignedTransaction ← ofExcept <| okOr
    (signed.solanaTransaction.bind UtilaSolanaTransaction.rawTransaction)
    (.signingFailed
      "Utila signed transaction response missing solanaTransaction.rawTransaction")
  ofExcept (signer.extractSignatureFromRawTransaction rawSignedTransaction
    (Crates.serializeMessage transaction.message))

def signAndSerialize (signer : UtilaSigner) :
    HttpProg VersionedTransaction SignerError SignedTransaction := do
  let publicKey ← ofExcept signer.initializedPubkey
  let transaction ← state
  let signature ← signer.signRawTransaction transaction
  placeAndSerialize publicKey signature

def signTransaction (signer : UtilaSigner) :
    HttpProg VersionedTransaction SignerError SignTransactionResult :=
  signAndClassify signer.signAndSerialize

omit [FromSlice TransactionEnvelope] in
theorem createAccessToken_keeps {signer : UtilaSigner} :
    (signer.createAccessToken : HttpProg σ SignerError String).Keeps :=
  keeps_elapsed.bind fun _ => keeps_ofExcept

theorem pollFrom_keeps {signer : UtilaSigner} {transactionId : String} {fetches : ℕ}
    {transaction : UtilaTransaction} :
    (signer.pollFrom transactionId fetches transaction : HttpProg σ SignerError _).Keeps := by
  have fetch : (signer.getTransaction transactionId : HttpProg σ SignerError _).Keeps :=
    (createAccessToken_keeps.bind fun _ => exchange_keeps).bind fun _ => keeps_pure
  induction fetches generalizing transaction with
  | zero =>
    unfold pollFrom
    refine keeps_ofExcept.bind fun outcome => ?_
    cases outcome with
    | some signed => exact keeps_pure
    | none => exact keeps_fail
  | succ fetches ih =>
    unfold pollFrom
    refine keeps_ofExcept.bind fun outcome => ?_
    cases outcome with
    | some signed => exact keeps_pure
    | none => exact fetch.bind fun _ => ih

theorem signRawTransaction_keeps {signer : UtilaSigner} {transaction : VersionedTransaction} :
    (signer.signRawTransaction transaction : HttpProg σ SignerError Signature).Keeps := by
  have initiate : ∀ rawTransaction,
      (signer.initiateTransaction rawTransaction : HttpProg σ SignerError _).Keeps :=
    fun _ => (createAccessToken_keeps.bind fun _ => exchange_keeps).bind fun _ => keeps_pure
  have poll : ∀ initiated,
      (signer.pollSignedTransaction initiated : HttpProg σ SignerError _).Keeps :=
    fun _ => keeps_ofExcept.bind fun _ => pollFrom_keeps
  exact keeps_ofExcept.bind fun _ => (initiate _).bind fun _ => (poll _).bind fun _ =>
    keeps_ofExcept.bind fun _ => keeps_ofExcept

theorem signRawTransaction_yields {signer : UtilaSigner} {publicKey : Pubkey}
    {transaction : VersionedTransaction} (own : signer.initializedPubkey = .ok publicKey) :
    (signer.signRawTransaction transaction : HttpProg σ SignerError Signature).Yields
      fun signature => verifies signature publicKey
        (Crates.serializeMessage transaction.message) = true := by
  refine yields_bind fun _ => yields_bind fun _ => yields_bind fun _ => yields_bind fun _ => ?_
  refine yields_ofExcept fun signature extracted => ?_
  rw [extractSignatureFromRawTransaction, own] at extracted
  have decoded := bind_eq_ok.mp extracted
  rcases decoded with ⟨key, same, decoded⟩
  cases same
  rcases bind_eq_ok.mp decoded with ⟨bytes, -, returned⟩
  exact verifies_of_extractAndVerifyReturnedSignature returned

theorem signTransaction_binds_key {signer : UtilaSigner} :
    Binds signer.publicKey signer.signTransaction := by
  refine binds_of_signAndSerialize fun transaction answers => ?_
  rw [signAndSerialize, meets_bind]
  cases own : signer.publicKey with
  | none => simp [initializedPubkey, own, okOr]
  | some publicKey =>
    have initialized : signer.initializedPubkey = .ok publicKey := by
      simp [initializedPubkey, own, okOr]
    rw [initialized, meets_ofExcept_ok, meets_bind, meets_state]
    exact meets_bind_placeAndSerialize rfl rfl rfl signRawTransaction_keeps
      (signRawTransaction_yields initialized)

end

end UtilaSigner

/-! ## Fordefi black box -/

namespace Fordefi

structure FordefiBlackBoxSigner where
  core : FordefiCore

namespace FordefiBlackBoxSigner

variable [Crates] [FromSlice CreateTransactionResponse] [FromSlice TransactionStatusResponse]

/-- Sign a transaction via the black box path: submit, poll, apply the signature. -/
def signAndSerialize (signer : FordefiBlackBoxSigner) :
    HttpProg VersionedTransaction SignerError SignedTransaction := do
  let transaction ← state
  let messageData := Crates.serializeMessage transaction.message
  let signature ← checked (signer.core.verifySignature · messageData)
    (signer.core.signBlackBox messageData)
  placeAndSerialize signer.core.publicKey signature

def signTransaction (signer : FordefiBlackBoxSigner) :
    HttpProg VersionedTransaction SignerError SignTransactionResult :=
  signAndClassify signer.signAndSerialize

theorem signBlackBox_keeps {core : FordefiCore} {message : Bytes} :
    (core.signBlackBox message : HttpProg σ SignerError Signature).Keeps :=
  FordefiCore.submitRequest_keeps.bind fun _ => (Keeps.retry exchange_keeps _).bind fun _ =>
    keeps_ofExcept

theorem signTransaction_binds_key {signer : FordefiBlackBoxSigner} :
    Binds (some signer.core.publicKey) signer.signTransaction := by
  refine binds_of_signAndSerialize fun transaction answers => ?_
  rw [signAndSerialize, meets_bind, meets_state]
  refine meets_bind_placeAndSerialize rfl rfl rfl (checked_keeps signBlackBox_keeps)
    (checked_yields fun signature u valid => ?_)
  unfold FordefiCore.verifySignature at valid
  split at valid
  · next verified => exact verified
  · cases valid

end FordefiBlackBoxSigner

end Fordefi

end Keychain.Rust
