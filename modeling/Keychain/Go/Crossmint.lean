import Keychain.Broadcast
import Keychain.Go.Remote

/-!
`signers/crossmint` in Go: `Signer`, which creates a transaction in a managed
wallet, approves it when asked to, polls it and reads the landed signature.

`signAndSendTransaction_course` places every run on the plan `managedPlan`, and
`signAndSendTransaction_keyCarried` says that every unconfirmed outcome names the
key of its create.
-/

namespace Keychain.Go.Crossmint

open Prog

/-! ## Types -/

structure OnChainData where
  transaction : Option String
  txID : Option String

structure PendingApproval where
  message : Option String
  /-- The locator of the approver, when both it and its holder are there. -/
  locator : Option String

/-- The Crossmint transaction object; absent and null are alike. -/
structure TransactionResponse where
  id : String
  status : String
  onChain : Option OnChainData
  /-- The pending approvals, when there is an approvals object. -/
  pending : Option (List PendingApproval)
  /-- The raw JSON of the error, empty when there is none. -/
  error : Bytes

/-- A response object as its raw members. -/
abbrev RawObject := List (String × Bytes)

/-- An error object read for its `message` only. -/
structure MessageObject where
  message : Option String

/-- `Signer` after `New`. The zero public key and the empty locator stand for
unset ones. -/
structure Signer where
  apiKey : String
  walletLocator : String
  signerLocator : String
  apiBaseURL : String
  publicKey : Pubkey
  maxPollAttempts : ℕ
  /-- The Ed25519 approval key, when a signer secret was configured. -/
  signingKey : Option Bytes
  maxPollAttempts_pos : 0 < maxPollAttempts

def awaitingApprovalDetail : String :=
  "Crossmint transaction is awaiting approval; additional signer approvals are required"

section

variable [Packages]

/-! ## Requests -/

namespace Signer

def buildWalletsAPIURL (signer : Signer) (segments : List String) : Except Error String := do
  let base ← (Packages.urlParse signer.apiBaseURL).mapError fun _ =>
    newSignerError .configError "invalid api_base_url"
  require (base.isAbs ∧ base.opaquePart = "" ∧ base.host ≠ "")
    (newSignerError .configError "api_base_url cannot be used as a base URL")
  pure (segments.foldl (fun url segment => url ++ "/" ++ encodeURIComponent segment)
    (trimEndMatches '/' signer.apiBaseURL ++ "/2025-06-09/wallets/" ++
      encodeURIComponent signer.walletLocator))

/-- The encoded body; a request without one has an empty body. -/
def encodeBody : Option Value → Except Error String
  | none => .ok ""
  | some body => (Packages.marshal body).mapError fun _ =>
      newSignerError .serializationError "failed to encode request body"

/-- An authenticated request; only a request with a body names its type, and only
one with a key carries it. -/
def newRequest (signer : Signer) (method : Method) (url : String) (body : Option Value)
    (idempotencyKey : String) : Except Error Request := do
  let encoded ← encodeBody body
  let req : Request := {
    method
    url
    headers := [("X-API-KEY", signer.apiKey)] ++
      (if body.isSome then [("Content-Type", "application/json")] else []) ++
      (if idempotencyKey ≠ "" then [("x-idempotency-key", idempotencyKey)] else [])
    body := encoded }
  require (Packages.newRequestError req = none)
    (newSignerError .httpError "failed to build request")
  pure req

def createBody (signer : Signer) (transaction : String) : Value :=
  .object [("params", .object ([("transaction", .string transaction)] ++
    (if signer.signerLocator = "" then [] else [("signer", .string signer.signerLocator)])))]

def createRequest (signer : Signer) (transaction idempotencyKey : String) :
    Except Error Request := do
  let url ← signer.buildWalletsAPIURL ["transactions"]
  signer.newRequest .post url (some (signer.createBody transaction)) idempotencyKey

def getRequest (signer : Signer) (transactionID : String) : Except Error Request := do
  let url ← signer.buildWalletsAPIURL ["transactions", transactionID]
  signer.newRequest .get url none ""

def submitApprovalRequest (signer : Signer) (transactionID signature : String) :
    Except Error Request := do
  let url ← signer.buildWalletsAPIURL ["transactions", transactionID, "approvals"]
  signer.newRequest .post url (some (.object [("approvals", .array [.object
    [("signer", .string signer.signerLocator), ("signature", .string signature)]])])) ""

end Signer

/-! ## Responses -/

section

variable [Unmarshal String]

/-- A field that is no text is usable; a text has to be more than whitespace. -/
def hasUsableField (value : RawObject) (requiredField : String) : Bool :=
  match value.lookup requiredField with
  | none => false
  | some raw =>
    match (unmarshal raw : Except String String) with
    | .ok s => !isBlank s
    | .error _ => true

variable [Unmarshal MessageObject]

/-- A top-level `message`, an `error` text, or the `message` of an `error` object. -/
def extractErrorMessage (value : RawObject) : Option String :=
  match (value.lookup "message").bind fun raw => (unmarshal raw).toOption with
  | some s => some s
  | none =>
    (value.lookup "error").bind fun raw =>
      match (unmarshal raw : Except String String) with
      | .ok s => some s
      | .error _ =>
        ((unmarshal raw : Except String MessageObject).toOption).bind MessageObject.message

variable [Unmarshal RawObject] [Unmarshal TransactionResponse]

/-- Undecodable bodies degrade to an empty object. -/
def rawObject (body : Bytes) : RawObject :=
  (unmarshal body : Except String RawObject).toOption.getD []

/-- `parseResponseWithRequiredField[transactionResponse]` for the field `id`. -/
def parseResponseWithRequiredField (status : ℕ) (body : Bytes) (opContext : String) :
    Except Error TransactionResponse :=
  let value := rawObject body
  if 400 ≤ status then
    let message := (extractErrorMessage value).getD ("Crossmint API error " ++ toString status)
    .error (newSignerError .remoteAPIError
      (opContext ++ ": " ++ sanitizeRemoteResponse message.toList))
  else if hasUsableField value "id" then
    (unmarshal body).mapError fun _ =>
      newSignerError .serializationError (opContext ++ ": failed to parse JSON response")
  else
    match extractErrorMessage value with
    | some message =>
      .error (newSignerError .remoteAPIError
        (opContext ++ ": " ++ sanitizeRemoteResponse message.toList))
    | none =>
      .error (newSignerError .serializationError
        (opContext ++ ": missing expected field 'id' in response"))

omit [Packages] in
theorem parseResponseWithRequiredField_plain {status : ℕ} {body : Bytes} {opContext : String} :
    Plain (parseResponseWithRequiredField status body opContext) := by
  unfold parseResponseWithRequiredField
  simp only
  split
  · exact plain_error (by simp)
  split
  · exact plain_mapError fun _ => by simp
  split
  · exact plain_error (by simp)
  · exact plain_error (by simp)

/-- What a follow-up makes of its response. -/
def followUpOutcome (opContext : String) (sent : Sent) : Except Error TransactionResponse :=
  match sent.err with
  | some err => .error err
  | none => parseResponseWithRequiredField sent.status sent.body opContext

/-- What `createTransaction` makes of the response. -/
def createOutcome [Unmarshal IDObject] (idempotencyKey : String) (sent : Sent) :
    Except Error TransactionResponse :=
  match sent.err with
  | some err => .error (unconfirmedUnlessRejected sent.status "" idempotencyKey err)
  | none =>
    -- The create may have been accepted even when the body is otherwise
    -- unusable, so an id present there is the caller's recovery handle.
    (parseResponseWithRequiredField sent.status sent.body "create_transaction").mapError
      (unconfirmedUnlessRejected sent.status (transactionIDInBody sent.body) idempotencyKey)

end

/-- The error of a `failed` status, with the cleaned remote payload. -/
def failedTransactionError (response : TransactionResponse) : Error :=
  let raw := Packages.bytesTrimSpace response.error
  let detail :=
    if raw = [] ∨ raw = utf8 "null" then
      "unknown error"
    else
      match Packages.compact raw with
      | .ok compact => sanitizeRemoteResponse (runes compact)
      | .error _ => sanitizeRemoteResponse (runes raw)
  newSignerError .signingFailed ("Crossmint transaction failed: " ++ detail)

/-! ## The signer -/

namespace Signer

/-- The approval this signer owes a response, or why it cannot approve. -/
def approvalRequest (signer : Signer) (response : TransactionResponse) : Except Error Request := do
  let awaiting := newSignerError .signingFailed awaitingApprovalDetail
  let signingKey ← okOr (signer.signingKey.filter fun _ => signer.signerLocator ≠ "") awaiting
  -- Only the entry that matches our signer locator is ours to approve.
  let pending ← okOr ((response.pending.getD []).find?
    fun entry => entry.locator = some signer.signerLocator) awaiting
  let message ← okOr pending.message (newSignerError .signingFailed
    "Crossmint transaction awaiting approval but no pending message found")
  let messageBytes ← (Packages.base58Decode message).mapError fun _ =>
    newSignerError .signingFailed "failed to decode approval message as base58"
  signer.submitApprovalRequest response.id
    (Packages.base58Encode (Packages.ed25519Sign signingKey messageBytes))

section

variable [Unmarshal String] [Unmarshal MessageObject] [Unmarshal RawObject]
variable [Unmarshal TransactionResponse]

def handleAwaitingApproval (signer : Signer) (response : TransactionResponse) :
    HttpProg Context Error TransactionResponse :=
  exchange "crossmint" (signer.approvalRequest response) (followUpOutcome "submit_approval")

def getTransaction (signer : Signer) (transactionID : String) :
    HttpProg Context Error TransactionResponse :=
  exchange "crossmint" (signer.getRequest transactionID) (followUpOutcome "get_transaction")

/-- The check after the last iteration. -/
def pollExhausted (signer : Signer) (approvalSubmitted : Bool) (response : TransactionResponse) :
    Except Error TransactionResponse :=
  if response.status = "success" then
    .ok response
  else if response.status = "failed" then
    .error (failedTransactionError response)
  else if response.status = "awaiting-approval" ∧ approvalSubmitted = false then
    .error (newSignerError .signingFailed awaitingApprovalDetail)
  else
    .error (pollTimeoutError "crossmint" signer.maxPollAttempts "")

/-- The loop of `pollTransaction` with so many iterations left. The approval is
submitted at most once; afterwards `awaiting-approval` is one more status to wait
out. -/
def pollLoop (signer : Signer) :
    ℕ → Bool → TransactionResponse → HttpProg Context Error TransactionResponse
  | 0, approvalSubmitted, response =>
    ofExcept (signer.pollExhausted approvalSubmitted response)
  | left + 1, approvalSubmitted, response =>
    if response.status = "success" then
      pure response
    else if response.status = "failed" then
      fail (failedTransactionError response)
    else if response.status = "awaiting-approval" ∧ approvalSubmitted = false then do
      let next ← signer.handleAwaitingApproval response
      signer.pollLoop left true next
    else do
      sleepContextUnconfirmed response.id
      let next ← signer.getTransaction response.id
      signer.pollLoop left approvalSubmitted next

def pollTransaction (signer : Signer) (response : TransactionResponse) :
    HttpProg Context Error TransactionResponse :=
  signer.pollLoop signer.maxPollAttempts false response

end

/-- The fee payer's signature of a serialized transaction, with the key and the
bytes it has to be verified against. -/
def extractSignatureFromSerializedTransaction (serializedTransaction : String) :
    Except Error (Signature × Pubkey × Bytes) := do
  let raw ← (Packages.base58Decode serializedTransaction).mapError fun _ =>
    newSignerError .serializationError "failed to decode Crossmint onChain.transaction as base58"
  let tx ← (Packages.transactionFromBytes raw).mapError fun _ =>
    newSignerError .serializationError "failed to deserialize Crossmint onChain.transaction"
  require (tx.message.numRequired ≤ tx.message.staticAccountKeys.length)
    (newSignerError .signingFailed "invalid account index: not enough account keys")
  let feePayer ← okOr tx.message.staticAccountKeys.head?
    (newSignerError .signingFailed "Crossmint transaction carries no account keys")
  let signature ← okOr (tx.signatures.head?.filter (· != Signature.default))
    (newSignerError .signingFailed "Crossmint transaction carries no signer signature")
  let returnedMessage ← messageBytes tx
  pure (signature, feePayer, returnedMessage)

/-- The signature named by `txId`. -/
def decodeTxID (txID : String) : Except Error Signature :=
  let invalid := newSignerError .signingFailed
    "Crossmint onChain.txId was not a valid Solana signature"
  match Packages.base58Decode txID with
  | .error _ => .error invalid
  | .ok raw => (signatureFromBytes raw "crossmint").mapError fun _ => invalid

def unableToExtract : Error :=
  newSignerError .signingFailed "unable to extract signature from Crossmint transaction response"

/-- The embedded transaction is tried first; `txId` is the fallback when it cannot
be decoded. -/
def extractSignatureFromResponse (response : TransactionResponse) : Except Error Signature :=
  match response.onChain with
  | none => .error unableToExtract
  | some onChain =>
    match onChain.transaction with
    | none =>
      match onChain.txID with
      | none => .error unableToExtract
      | some txID => decodeTxID txID
    | some serialized =>
      match extractSignatureFromSerializedTransaction serialized with
      | .ok (signature, feePayer, returnedMessage) =>
        if Packages.verifyEd25519 feePayer returnedMessage signature then
          .ok signature
        else
          .error (newSignerError .signingFailed
            "Crossmint fee-payer signature does not verify against the returned message")
      | .error err =>
        match onChain.txID with
        | none => .error err
        | some txID => decodeTxID txID

/-- The key is bound to the signer locator as well as to the message. -/
def namespacedKeyInput (signer : Signer) (messageBytes : Bytes) : Bytes :=
  utf8 ("crossmint:solana:" ++ toString (utf8 signer.signerLocator).length ++ ":" ++
    signer.signerLocator ++ ":") ++ messageBytes

def keyOfMessage (signer : Signer) (messageBytes : Bytes) : String :=
  idempotencyKeyFromMessage (signer.namespacedKeyInput messageBytes)

/-- Any failure after the create was accepted. -/
def afterCreate (transactionID idempotencyKey : String) (err : Error) : Error :=
  SignerError.toError { newBroadcastUnconfirmedError transactionID err.detail with
    idempotencyKey }

omit [Packages] in
theorem unconfirmed?_afterCreate {transactionID idempotencyKey : String} {err : Error} :
    (afterCreate transactionID idempotencyKey err).unconfirmed? =
      some ⟨Error.present transactionID, Error.present idempotencyKey⟩ := rfl

/-- The two serializations of the transaction a create needs. -/
def serialize (signer : Signer) (tx : VersionedTransaction) : Except Error (Bytes × Bytes) := do
  require (signer.publicKey.bytes ≠ List.replicate 32 0) (newNotInitializedError "crossmint")
  let messageBytes ← messageBytes tx
  let serialized ← (Packages.marshalTransaction tx).mapError fun _ =>
    newSignerError .serializationError "failed to serialize transaction"
  pure (messageBytes, serialized)

section

variable [Unmarshal String] [Unmarshal MessageObject] [Unmarshal RawObject]
variable [Unmarshal TransactionResponse]

def finishManagedTransaction (signer : Signer) (createResponse : TransactionResponse) :
    HttpProg Context Error Signature := do
  let finalResponse ← signer.pollTransaction createResponse
  ofExcept (extractSignatureFromResponse finalResponse)

variable [Unmarshal IDObject]

def createTransaction (signer : Signer) (transaction idempotencyKey : String) :
    HttpProg Context Error TransactionResponse :=
  exchange "crossmint" (signer.createRequest transaction idempotencyKey)
    (createOutcome idempotencyKey)

def signAndSendTransaction (signer : Signer) (tx : VersionedTransaction) :
    HttpProg Context Error Signature := do
  let (messageBytes, serialized) ← ofExcept (signer.serialize tx)
  let idempotencyKey := signer.keyOfMessage messageBytes
  let createResponse ← signer.createTransaction (Packages.base58Encode serialized) idempotencyKey
  (signer.finishManagedTransaction createResponse).mapError
    (afterCreate createResponse.id idempotencyKey)

end

/-! ## Its plan -/

section

variable (signer : Signer) (tx : VersionedTransaction)

/-- The key of the create of this transaction. -/
def idempotencyKey : String :=
  signer.keyOfMessage ((messageBytes tx).toOption.getD [])

/-- The create, or why it was not sent. -/
def prepare : Except Error Request := do
  let (messageBytes, serialized) ← signer.serialize tx
  signer.createRequest (Packages.base58Encode serialized) (signer.keyOfMessage messageBytes)

/-- A follow-up polls or approves. -/
def IsFollowUp (request : Request) : Prop :=
  (∃ id, signer.getRequest id = .ok request) ∨
    ∃ response, signer.approvalRequest response = .ok request

variable [Unmarshal String] [Unmarshal MessageObject] [Unmarshal RawObject]
variable [Unmarshal TransactionResponse] [Unmarshal IDObject]

/-- What a create makes of its reply. -/
def createVerdict (reply : Reply) : Except Error TransactionResponse :=
  createOutcome (signer.idempotencyKey tx) (sendRequest "crossmint" reply)

/-- The plan of `signAndSendTransaction` in a context. -/
def managedPlan (ctx : Context) : Broadcast.Plan Error TransactionResponse Signature where
  prepare := signer.prepare tx
  verdict := signer.createVerdict tx
  followUp _ := signer.IsFollowUp
  finish created answers :=
    ((signer.finishManagedTransaction created).run answers (.start ctx)).1.mapError
      (afterCreate created.id (signer.idempotencyKey tx))

end

section

variable {signer : Signer} {tx : VersionedTransaction}

section

variable [Unmarshal String] [Unmarshal MessageObject] [Unmarshal RawObject]
variable [Unmarshal TransactionResponse]

theorem pollLoop_blind {left : ℕ} {approvalSubmitted : Bool} {response : TransactionResponse} :
    (signer.pollLoop left approvalSubmitted response).Blind := by
  induction left generalizing approvalSubmitted response with
  | zero => exact blind_ofExcept
  | succ left ih =>
    unfold pollLoop
    split
    · exact blind_pure
    split
    · exact blind_fail
    split
    · exact exchange_blind.bind fun _ => ih
    · exact sleepContext_blind.mapError.bind fun _ => exchange_blind.bind fun _ => ih

theorem pollLoop_asks {left : ℕ} {approvalSubmitted : Bool} {response : TransactionResponse} :
    (signer.pollLoop left approvalSubmitted response).Asks signer.IsFollowUp := by
  induction left generalizing approvalSubmitted response with
  | zero => exact asks_ofExcept
  | succ left ih =>
    unfold pollLoop
    split
    · exact asks_pure
    split
    · exact asks_fail
    split
    · exact (exchange_asks fun _ formed => .inr ⟨_, formed⟩).bind fun _ => ih
    · exact sleepContext_asks.mapError.bind fun _ =>
        (exchange_asks fun _ formed => .inl ⟨_, formed⟩).bind fun _ => ih

theorem finishManagedTransaction_blind {created : TransactionResponse} :
    (signer.finishManagedTransaction created).Blind :=
  pollLoop_blind.bind fun _ => blind_ofExcept

theorem finishManagedTransaction_asks {created : TransactionResponse} :
    (signer.finishManagedTransaction created).Asks signer.IsFollowUp :=
  pollLoop_asks.bind fun _ => asks_ofExcept

end

theorem keyOfMessage_of_serialize {messageData serialized : Bytes}
    (wire : signer.serialize tx = .ok (messageData, serialized)) :
    signer.keyOfMessage messageData = signer.idempotencyKey tx := by
  obtain ⟨_, -, wire⟩ := bind_eq_ok.mp wire
  obtain ⟨bytes, marshalled, wire⟩ := bind_eq_ok.mp wire
  obtain ⟨_, -, wire⟩ := bind_eq_ok.mp wire
  cases wire
  simp [idempotencyKey, marshalled, Except.toOption]

theorem idempotencyKey_ne : signer.idempotencyKey tx ≠ "" := idempotencyKeyFromMessage_ne

theorem buildWalletsAPIURL_plain {segments : List String} :
    Plain (signer.buildWalletsAPIURL segments) :=
  (plain_mapError fun _ => by simp).bind fun _ =>
    (plain_require (by simp)).bind fun _ => plain_ok

theorem newRequest_plain {method : Method} {url key : String} {body : Option Value} :
    Plain (signer.newRequest method url body key) := by
  have encoded : Plain (encodeBody body) := by
    cases body with
    | none => exact plain_ok
    | some body => exact plain_mapError fun _ => by simp
  exact encoded.bind fun _ => (plain_require (by simp)).bind fun _ => plain_ok

/-- A create that was not sent is never reported as unconfirmed. -/
theorem prepare_plain : Plain (signer.prepare tx) := by
  have serialized : Plain (signer.serialize tx) :=
    (plain_require (by simp [newNotInitializedError])).bind fun _ =>
      messageBytes_plain.bind fun _ => (plain_mapError fun _ => by simp).bind fun _ => plain_ok
  exact serialized.bind fun _ => buildWalletsAPIURL_plain.bind fun _ => newRequest_plain

/-- A prepared create carries the key of its transaction. -/
theorem lookup_of_prepare {req : Request} (prepared : signer.prepare tx = .ok req) :
    req.headers.lookup "x-idempotency-key" = some (signer.idempotencyKey tx) := by
  obtain ⟨⟨messageData, serialized⟩, wire, prepared⟩ := bind_eq_ok.mp prepared
  obtain ⟨url, -, prepared⟩ := bind_eq_ok.mp prepared
  obtain ⟨encoded, -, prepared⟩ := bind_eq_ok.mp prepared
  obtain ⟨_, -, prepared⟩ := bind_eq_ok.mp prepared
  cases prepared
  have named : signer.idempotencyKey tx ≠ "" := idempotencyKey_ne
  rw [keyOfMessage_of_serialize wire, if_pos named]
  rfl

variable [Unmarshal String] [Unmarshal MessageObject] [Unmarshal RawObject]
variable [Unmarshal TransactionResponse] [Unmarshal IDObject]

variable (signer tx) in
/-- Every run follows the plan. -/
theorem signAndSendTransaction_course (answers : ℕ → Reply) (ctx : Context) :
    Broadcast.Course (signer.managedPlan tx ctx) answers
      ((signer.signAndSendTransaction tx).run answers (.start ctx)).1
      ((signer.signAndSendTransaction tx).run answers (.start ctx)).2.log := by
  rw [signAndSendTransaction]
  cases wire : signer.serialize tx with
  | error err =>
    refine .unsent ?_
    simp [managedPlan, prepare, wire, bind, Except.bind]
  | ok both =>
    obtain ⟨messageData, serialized⟩ := both
    simp only [ofExcept_ok_bind, keyOfMessage_of_serialize wire]
    refine .of_stages (signer.managedPlan tx ctx) _ _ ctx ?_ ?_ ?_ answers
    · intro answers w
      have prepared : (signer.managedPlan tx ctx).prepare =
          signer.createRequest (Packages.base58Encode serialized) (signer.idempotencyKey tx) := by
        simp [managedPlan, prepare, wire, bind, Except.bind, keyOfMessage_of_serialize wire]
      rw [createTransaction, exchange_run, Broadcast.Plan.submitted, prepared]
      cases signer.createRequest (Packages.base58Encode serialized)
        (signer.idempotencyKey tx) <;> rfl
    · exact fun created => finishManagedTransaction_asks.mapError
    · intro created answers w same
      rw [run_mapError, finishManagedTransaction_blind.fst_eq, same]
      rfl

/-! ## Its keys -/

/-- The create's own errors are unconfirmed under the key of the transaction, or
not at all. -/
theorem key_of_createVerdict {reply : Reply} {err : Error} {outcome : Broadcast.Outcome}
    (judged : signer.createVerdict tx reply = .error err)
    (unconfirmed : err.unconfirmed? = some outcome) :
    outcome.idempotencyKey = some (signer.idempotencyKey tx) := by
  unfold createVerdict createOutcome at judged
  split at judged
  · next failed =>
    cases judged
    refine key_of_unconfirmedUnlessRejected unconfirmed (fun rejected => ?_) idempotencyKey_ne
    rw [status_eq_zero_of_err failed] at rejected
    exact absurd rejected (by decide)
  · obtain ⟨e, unparsed, rfl⟩ := mapError_eq_error.mp judged
    exact key_of_unconfirmedUnlessRejected unconfirmed
      (fun _ => parseResponseWithRequiredField_plain e unparsed) idempotencyKey_ne

variable (signer tx) in
/-- A rejected create is reported as such exactly when its body can be read. -/
theorem createVerdict_of_isRejection {status : ℕ} (body : BodyStream)
    (rejected : Reply.isRejection status) :
    ∃ err, signer.createVerdict tx (.response status body) = .error err ∧
      (err.codeOf = some .remoteAPIError ↔ Readable body) := by
  rcases sendRequest_response "crossmint" status body with
    ⟨readable, sent⟩ | ⟨unreadable, err, sent⟩
  · have atLeast : 400 ≤ status := (Reply.isRejection_iff.mp rejected).1
    have refused : ∃ detail, parseResponseWithRequiredField status body.bytes
        "create_transaction" = .error (newSignerError .remoteAPIError detail) :=
      ⟨_, if_pos atLeast⟩
    obtain ⟨detail, refused⟩ := refused
    refine ⟨newSignerError .remoteAPIError detail, ?_, fun _ => readable, fun _ => rfl⟩
    rw [createVerdict, sent, createOutcome]
    simp only [refused]
    exact congrArg Except.error (unconfirmedUnlessRejected_of_isRejection rejected)
  · refine ⟨unconfirmedUnlessRejected 0 "" (signer.idempotencyKey tx) err, ?_,
      fun code => ?_, fun readable => absurd readable unreadable⟩
    · rw [createVerdict, sent]
      rfl
    · rw [unconfirmedUnlessRejected_of_not_isRejection (by decide)] at code
      cases code

theorem managedPlan_keyed {ctx : Context} :
    (signer.managedPlan tx ctx).Keyed Error.unconfirmed? "x-idempotency-key"
      (signer.idempotencyKey tx) where
  create _ prepared := lookup_of_prepare prepared
  verdict _ _ _ judged unconfirmed := key_of_createVerdict judged unconfirmed

/-- Every unconfirmed outcome names the key of its create. -/
theorem signAndSendTransaction_keyCarried {answers : ℕ → Reply} {ctx : Context} :
    Broadcast.KeyCarried Error.unconfirmed? "x-idempotency-key"
      ((signer.signAndSendTransaction tx).run answers (.start ctx)).2.log
      ((signer.signAndSendTransaction tx).run answers (.start ctx)).1 := by
  rw [(signer.signAndSendTransaction_course tx answers ctx).keyCarried_iff managedPlan_keyed]
  refine ⟨?_, ?_⟩
  · intro err outcome failed unconfirmed
    rw [prepare_plain err failed] at unconfirmed
    cases unconfirmed
  · intro create created _ _ err outcome failed unconfirmed
    obtain ⟨e, -, rfl⟩ := mapError_eq_error.mp failed
    have named : signer.idempotencyKey tx ≠ "" := idempotencyKey_ne
    rw [unconfirmed?_afterCreate, Error.present_of_ne named, Option.some.injEq] at unconfirmed
    rw [← unconfirmed]

end

end Signer

end

end Keychain.Go.Crossmint
