import Keychain.Python.TransactionUtil

/-!
`crossmint/signer.py`: `CrossmintSigner`, which posts a create, approves it when
asked to, polls it and reads the signature of the landed transaction.

Responses stay the dictionaries they were parsed to, and every field is read where
the source reads it, so an unexpected JSON type raises where it does there.
`Escapes` collects the answers for which that is no `SignerError`.
-/

namespace Keychain.Python.Crossmint

open Prog

/-- `CrossmintSigner` after `__init__`; `init` sets the public key. -/
structure CrossmintSigner where
  apiKey : String
  walletLocator : String
  apiBaseUrl : String
  maxPollAttempts : ℕ
  /-- Whether a slot was configured. -/
  pendingTransactionId : Bool
  publicKey : Option Pubkey
  /-- The derived delegated-signer key. -/
  signingKey : Option Bytes
  /-- The delegated-signer locator. -/
  signer : Option String
  apiKey_ne : apiKey ≠ ""
  walletLocator_ne : walletLocator ≠ ""
  maxPollAttempts_pos : 0 < maxPollAttempts

def apiVersionPath : String := "2025-06-09"

def encodeUriComponentSafe : String := "-_.!~*'()"

def awaitingApprovalError : Raised :=
  .signerError {
    code := .signingFailed
    detail := Str.ofString
      "Crossmint transaction is awaiting approval; additional signer approvals are required" }

/-! ## Responses -/

def extractErrorMessage : Value → Option Str
  | .object members =>
    match Dict.get members "message" with
    | .string message => some message
    | _ =>
      match Dict.get members "error" with
      | .string error => some error
      | .object error => (Dict.get error "message").asStr
      | _ => none
  | _ => none

/-- The error of a response without its required field. -/
def missingField (requiredField context : String) (response : Value) : SignerError :=
  match extractErrorMessage response with
  | some message =>
    { code := .remoteApiError, detail := Str.ofString (context ++ ": ") ++ message }
  | none =>
    { code := .serializationError
      detail := Str.ofString
        (context ++ ": missing expected field '" ++ requiredField ++ "' in response") }

/-- The response has the field, and a text in it is not blank. -/
def hasField (response : Dict) (field : String) : Bool :=
  match Dict.get response field with
  | .null => false
  | .string value => !value.isBlank
  | _ => true

/-- The response of `_request_with_required_field`. -/
def withRequiredField (requiredField context : String) : Value → Except Raised Dict
  | .object response =>
    if hasField response requiredField then .ok response
    else .error (.signerError (missingField requiredField context (.object response)))
  | response => .error (.signerError (missingField requiredField context response))

/-- `response.get("status") == status` -/
def statusIs (response : Dict) (status : String) : Bool :=
  match Dict.get response "status" with
  | .string found => found = Str.ofString status
  | _ => false

section

variable [Modules]

/-- `_failure_detail` -/
def failureDetail (response : Dict) : Except Exc Str :=
  match Dict.get response "error" with
  | .null => .ok "unknown error"
  | error => Str.ofString <$> Modules.jsonDumps error

def settledOrNone (response : Dict) : Except Raised (Option Dict) :=
  if statusIs response "success" then
    .ok (some response)
  else if statusIs response "failed" then do
    let detail ← uncaught (failureDetail response)
    raiseSignerError .signingFailed (Str.ofString "Crossmint transaction failed: " ++ detail)
  else
    .ok none

/-- The values `for entry in value` runs over. -/
def iterate : Value → Except Exc (List Value)
  | .array items => .ok items
  | .string text => .ok (text.points.map fun point => .string ⟨[point]⟩)
  | .object members => .ok (members.map fun member => .string member.1)
  | .null => .error (.typeError "'NoneType' object is not iterable")
  | .bool _ => .error (.typeError "'bool' object is not iterable")
  | .number (.int _) => .error (.typeError "'int' object is not iterable")
  | .number (.float _) => .error (.typeError "'float' object is not iterable")

/-- What stands under `approvals.pending`. -/
def pendingApprovals (response : Dict) : Value :=
  match Dict.get response "approvals" with
  | .object approvals => (approvals.lookup (Str.ofString "pending")).getD (.array [])
  | _ => .array []

/-- The entry is a challenge for this locator. -/
def isOurs (locator : String) : Value → Bool
  | .object entry =>
    match Dict.get entry "signer" with
    | .object signer =>
      match Dict.get signer "locator" with
      | .string found => found = Str.ofString locator
      | _ => false
    | _ => false
  | _ => false

/-- The bytes a pending entry asks to sign. -/
def approvalMessage : Value → Except Raised Bytes
  | .object entry =>
    match Dict.get entry "message" with
    | .string message =>
      match Modules.b58decode message with
      | some messageBytes => .ok messageBytes
      | none =>
        raiseSignerError .signingFailed
          (Str.ofString "Failed to decode approval message as base58")
    | _ =>
      raiseSignerError .signingFailed (Str.ofString
        "Crossmint transaction awaiting approval but no pending message found")
  | _ => .error awaitingApprovalError

/-- The challenge of a response that is ours to approve. Other approvers may be
listed too. -/
def challenge (locator : String) (response : Dict) : Except Raised Bytes := do
  let pendingEntries ← uncaught (iterate (pendingApprovals response))
  let ourEntry ← okOr (pendingEntries.find? (isOurs locator)) awaitingApprovalError
  approvalMessage ourEntry

/-! ## The landed transaction -/

/-- The fee payer's signature out of a serialized `onChain.transaction`, with the key
and bytes it has to be verified against. -/
def feePayerSignatureFromSerializedTransaction (serializedTransaction : Str) :
    Except SignerError (Signature × Pubkey × Bytes) := do
  let error (code : SignerErrorCode) (detail : String) : SignerError :=
    { code, detail := Str.ofString detail }
  let transactionBytes ← okOr (Modules.b58decode serializedTransaction)
    (error .serializationError "Failed to decode Crossmint onChain.transaction as base58")
  let transaction ← okOr (Modules.transactionFromBytes transactionBytes)
    (error .serializationError "Failed to deserialize Crossmint onChain.transaction")
  let message := transaction.message
  require (message.numRequired ≤ message.staticAccountKeys.length)
    (error .signingFailed "Invalid account index: not enough account keys")
  let feePayer ← okOr message.staticAccountKeys.head?
    (error .signingFailed "Crossmint transaction carries no account keys")
  let signature ← okOr (transaction.signatures.head?.filter (· != Signature.default))
    (error .signingFailed "Crossmint transaction carries no signer signature")
  pure (signature, feePayer, signedMessageBytes message)

/-- The signature an `onChain.txId` spells. -/
def signatureFromTxId (txId : Str) : Except Raised Signature :=
  match (Modules.b58decode txId).bind Signature.ofBytes? with
  | some signature => .ok signature
  | none =>
    raiseSignerError .signingFailed
      (Str.ofString "Crossmint onChain.txId was not a valid Solana signature")

def unableToExtract : Except Raised Signature :=
  raiseSignerError .signingFailed
    (Str.ofString "Unable to extract signature from Crossmint transaction response")

/-- The signature of an `onChain` object. The embedded transaction is tried first;
`txId` is the fallback when it cannot be decoded. -/
def onChainSignature (onChain : Dict) : Except Raised Signature :=
  match Dict.get onChain "transaction", Dict.get onChain "txId" with
  | .string serializedTransaction, txId =>
    match feePayerSignatureFromSerializedTransaction serializedTransaction, txId with
    | .ok (signature, feePayer, message), _ => do
      verifyReturnedSignature signature feePayer message
      pure signature
    | .error _, .string txId => signatureFromTxId txId
    | .error error, _ => .error (.signerError error)
  | _, .string txId => signatureFromTxId txId
  | _, _ => unableToExtract

/-- The signature identifying the transaction Crossmint landed. -/
def extractSignatureFromResponse (response : Dict) : Except Raised Signature :=
  match Dict.get response "onChain" with
  | .object onChain => onChainSignature onChain
  | _ => unableToExtract

/-! ## Requests -/

namespace CrossmintSigner

/-- `_wallets_url` -/
def walletsUrl (signer : CrossmintSigner) (segments : List Str) : Except Exc String := do
  let locator ← quote encodeUriComponentSafe signer.walletLocator
  let segments ← segments.mapM (quote encodeUriComponentSafe)
  pure (segments.foldl (fun url segment => url ++ "/" ++ segment)
    (signer.apiBaseUrl ++ "/" ++ apiVersionPath ++ "/wallets/" ++ locator))

/-- A `GET` without a body. -/
def getRequest (signer : CrossmintSigner) (url : String) : Request where
  method := .get
  url
  headers := [("X-API-KEY", signer.apiKey)]
  body := ""

/-- A `POST` of a JSON body. -/
def postRequest (signer : CrossmintSigner) (url : String) (jsonBody : Value)
    (extraHeaders : List (String × String)) : Except Exc Request := do
  let body ← Modules.jsonBody jsonBody
  pure {
    method := .post
    url
    headers := [("X-API-KEY", signer.apiKey), ("Content-Type", "application/json")] ++ extraHeaders
    body }

def createRequest (signer : CrossmintSigner) (transactionB58 idempotencyKey : String) :
    Except Exc Request := do
  let text (s : String) : Value := .string (Str.ofString s)
  let locator : Dict := signer.signer.toList.map fun signer => (Str.ofString "signer", text signer)
  let params : Dict := ("transaction", text transactionB58) :: locator
  let url ← signer.walletsUrl ["transactions"]
  signer.postRequest url (.object [("params", .object params)])
    [("x-idempotency-key", idempotencyKey)]

/-- The request of `_get_transaction` for the id of a response. -/
def pollRequest (signer : CrossmintSigner) (response : Dict) : Except Exc Request := do
  let transactionId ← str (Dict.get response "id")
  let url ← signer.walletsUrl ["transactions", transactionId]
  pure (signer.getRequest url)

/-- The approval of a response, with the signature of its challenge. -/
def submitApprovalRequest (signer : CrossmintSigner) (response : Dict)
    (locator signature : String) : Except Exc Request := do
  let text (s : String) : Value := .string (Str.ofString s)
  let transactionId ← str (Dict.get response "id")
  let url ← signer.walletsUrl ["transactions", transactionId, "approvals"]
  signer.postRequest url
    (.object [("approvals", .array
      [.object [("signer", text locator), ("signature", text signature)]])]) []

/-- The approval this signer owes a response, or why it cannot approve. -/
def approvalRequest (signer : CrossmintSigner) (response : Dict) : Except Raised Request :=
  match signer.signingKey, signer.signer with
  | some signingKey, some locator => do
    let messageBytes ← challenge locator response
    uncaught (signer.submitApprovalRequest response locator
      (Modules.signMessage signingKey messageBytes))
  | _, _ => .error awaitingApprovalError

/-! ## The call -/

section

variable {σ : Type}

def createTransaction (signer : CrossmintSigner) (transactionB58 idempotencyKey : String) :
    HttpProg σ Raised Dict :=
  (exchange "Crossmint" (uncaught (signer.createRequest transactionB58 idempotencyKey))
    (withRequiredField "id" "create_transaction")).mapError (classifyCreate idempotencyKey)

def getTransaction (signer : CrossmintSigner) (response : Dict) : HttpProg σ Raised Dict :=
  exchange "Crossmint" (uncaught (signer.pollRequest response))
    (withRequiredField "id" "get_transaction")

def handleAwaitingApproval (signer : CrossmintSigner) (response : Dict) :
    HttpProg σ Raised Dict :=
  exchange "Crossmint" (signer.approvalRequest response)
    (withRequiredField "id" "submit_approval")

/-- The response asks for an approval that was not submitted yet. -/
def owesApproval (approvalSubmitted : Bool) (response : Dict) : Bool :=
  statusIs response "awaiting-approval" && !approvalSubmitted

/-- The check after the last iteration. -/
def pollExhausted (signer : CrossmintSigner) (approvalSubmitted : Bool) (response : Dict) :
    Except Raised Dict := do
  match ← settledOrNone response with
  | some settled => pure settled
  | none =>
    if owesApproval approvalSubmitted response then
      .error awaitingApprovalError
    else
      raiseSignerError .remoteApiError (Str.ofString
        ("Crossmint transaction polling timed out after " ++ toString signer.maxPollAttempts ++
          " attempts"))

/-- The loop of `_poll_transaction` with so many iterations left. The approval is
submitted at most once; afterwards `awaiting-approval` is one more status to wait
out. -/
def pollLoop (signer : CrossmintSigner) : ℕ → Bool → Dict → HttpProg σ Raised Dict
  | 0, approvalSubmitted, response =>
    ofExcept (signer.pollExhausted approvalSubmitted response)
  | left + 1, approvalSubmitted, response => do
    match ← ofExcept (settledOrNone response) with
    | some settled => pure settled
    | none =>
      if owesApproval approvalSubmitted response then do
        let next ← signer.handleAwaitingApproval response
        signer.pollLoop left true next
      else do
        let next ← signer.getTransaction response
        signer.pollLoop left approvalSubmitted next

def pollTransaction (signer : CrossmintSigner) (response : Dict) : HttpProg σ Raised Dict :=
  signer.pollLoop signer.maxPollAttempts false response

def finishManagedTransaction (signer : CrossmintSigner) (createResponse : Dict) :
    HttpProg σ Raised Signature := do
  let finalResponse ← signer.pollTransaction createResponse
  ofExcept (extractSignatureFromResponse finalResponse)

end

def initializedPubkey (signer : CrossmintSigner) : Except Raised Pubkey :=
  match signer.publicKey with
  | some publicKey => .ok publicKey
  | none =>
    raiseSignerError .notInitialized
      (Str.ofString "CrossmintSigner is not initialized; call init() before signing")

/-- The key is bound to the signer locator as well as to the message. -/
def namespacedKeyInput (signer : CrossmintSigner) (messageBytes : Bytes) : Bytes :=
  let locator := signer.signer.getD ""
  utf8 ("crossmint:solana:" ++ toString (utf8 locator).length ++ ":" ++ locator ++ ":") ++
    messageBytes

def idempotencyKey (signer : CrossmintSigner) (transaction : VersionedTransaction) : String :=
  idempotencyKeyFromMessage (signer.namespacedKeyInput (signedMessageBytes transaction.message))

/-- The part of `_execute_managed_transaction` after the create was accepted. -/
def settleManaged (signer : CrossmintSigner) (idempotencyKey : String) (createResponse : Dict) :
    HttpProg PendingTransactionId Raised Signature := do
  let providerTransactionId ← ofExcept (uncaught (str (Dict.get createResponse "id")))
  settleAccepted signer.pendingTransactionId providerTransactionId idempotencyKey
    (signer.finishManagedTransaction createResponse)

/-- `_execute_managed_transaction`, as far as it is not cancelled. -/
def executeManagedTransaction (signer : CrossmintSigner) (transaction : VersionedTransaction) :
    HttpProg PendingTransactionId Raised Signature := do
  let _ ← ofExcept signer.initializedPubkey
  let transactionB58 := Modules.b58encode (Modules.transactionBytes transaction)
  let idempotencyKey := signer.idempotencyKey transaction
  let createResponse ← signer.createTransaction transactionB58 idempotencyKey
  signer.settleManaged idempotencyKey createResponse

def signAndSendTransaction (signer : CrossmintSigner) (transaction : VersionedTransaction) :
    HttpProg PendingTransactionId Raised Signature :=
  signer.executeManagedTransaction transaction

/-! ## Its plan -/

section

variable (signer : CrossmintSigner) (transaction : VersionedTransaction)

/-- The create, or why it was not sent. -/
def prepare : Except Raised Request := do
  let _ ← signer.initializedPubkey
  let transactionB58 := Modules.b58encode (Modules.transactionBytes transaction)
  sendable (uncaught (signer.createRequest transactionB58 (signer.idempotencyKey transaction)))

/-- What a create makes of its reply. -/
def createVerdict (reply : Reply) : Except Raised Dict :=
  (receivedJson "Crossmint" reply >>= withRequiredField "id" "create_transaction").mapError
    (classifyCreate (signer.idempotencyKey transaction))

/-- A follow-up polls or approves. -/
def IsFollowUp (request : Request) : Prop :=
  (∃ response, uncaught (signer.pollRequest response) = .ok request) ∨
    ∃ response, signer.approvalRequest response = .ok request

/-- The plan of `executeManagedTransaction`. -/
def managedPlan : Broadcast.Plan Raised Dict Signature where
  prepare := signer.prepare transaction
  verdict := signer.createVerdict transaction
  followUp _ := signer.IsFollowUp
  finish created answers := do
    let providerTransactionId ← uncaught (str (Dict.get created "id"))
    ((signer.finishManagedTransaction created).run answers
      (.start (⟨[]⟩ : PendingTransactionId))).1.mapError
        (afterAccept providerTransactionId (signer.idempotencyKey transaction))

end

section

variable {signer : CrossmintSigner} {transaction : VersionedTransaction} {σ : Type}

theorem pollLoop_oblivious {left : ℕ} {approvalSubmitted : Bool} {response : Dict} :
    (signer.pollLoop left approvalSubmitted response : HttpProg σ Raised Dict).Oblivious := by
  induction left generalizing approvalSubmitted response with
  | zero => exact oblivious_ofExcept
  | succ left ih =>
    refine oblivious_ofExcept.bind fun settled => ?_
    cases settled with
    | some settled => exact oblivious_pure
    | none =>
      simp only
      split
      · exact exchange_oblivious.bind fun _ => ih
      · exact exchange_oblivious.bind fun _ => ih

theorem pollLoop_asks {left : ℕ} {approvalSubmitted : Bool} {response : Dict} :
    (signer.pollLoop left approvalSubmitted response : HttpProg σ Raised Dict).Asks
      signer.IsFollowUp := by
  induction left generalizing approvalSubmitted response with
  | zero => exact asks_ofExcept
  | succ left ih =>
    refine asks_ofExcept.bind fun settled => ?_
    cases settled with
    | some settled => exact asks_pure
    | none =>
      simp only
      split
      · exact (exchange_asks fun _ formed => .inr ⟨_, formed⟩).bind fun _ => ih
      · exact (exchange_asks fun _ formed => .inl ⟨_, formed⟩).bind fun _ => ih

theorem finishManagedTransaction_oblivious {created : Dict} :
    (signer.finishManagedTransaction created : HttpProg σ Raised Signature).Oblivious :=
  pollLoop_oblivious.bind fun _ => oblivious_ofExcept

theorem finishManagedTransaction_asks {created : Dict} :
    (signer.finishManagedTransaction created : HttpProg σ Raised Signature).Asks
      signer.IsFollowUp :=
  pollLoop_asks.bind fun _ => asks_ofExcept

variable (transaction) in
/-- The create of an initialized signer, by the stages of the plan. -/
theorem createTransaction_run (answers : ℕ → Reply) (w : World Request Reply PendingTransactionId)
    {publicKey : Pubkey} (initialized : signer.initializedPubkey = .ok publicKey) :
    (signer.createTransaction (Modules.b58encode (Modules.transactionBytes transaction))
      (signer.idempotencyKey transaction)).run answers w =
        (signer.managedPlan transaction).submitted (answers w.asked) w := by
  have prepared : (signer.managedPlan transaction).prepare = sendable (uncaught
      (signer.createRequest (Modules.b58encode (Modules.transactionBytes transaction))
        (signer.idempotencyKey transaction))) := by
    simp [managedPlan, prepare, initialized, bind, Except.bind]
  rw [createTransaction, run_mapError, exchange_run, Broadcast.Plan.submitted, prepared]
  cases unsent : sendable (uncaught
      (signer.createRequest (Modules.b58encode (Modules.transactionBytes transaction))
        (signer.idempotencyKey transaction))) with
  | ok sent => rfl
  | error raised =>
    obtain ⟨e, rfl⟩ := sendable_uncaught unsent
    rfl

variable (signer transaction) in
/-- Every run follows the plan. -/
theorem executeManagedTransaction_course (answers : ℕ → Reply) (slot : PendingTransactionId) :
    Broadcast.Course (signer.managedPlan transaction) answers
      ((signer.executeManagedTransaction transaction).run answers (.start slot)).1
      ((signer.executeManagedTransaction transaction).run answers (.start slot)).2.log := by
  rw [executeManagedTransaction]
  cases initialized : signer.initializedPubkey with
  | error raised =>
    refine .unsent ?_
    simp [managedPlan, prepare, initialized, bind, Except.bind]
  | ok publicKey =>
    simp only [ofExcept_ok_bind]
    refine .of_stages (signer.managedPlan transaction) _ _ slot ?_ ?_ ?_ answers
    · exact fun answers w => createTransaction_run transaction answers w initialized
    · exact fun created => asks_ofExcept.bind fun _ =>
        settleAccepted_asks finishManagedTransaction_asks
    · intro created answers w _
      rw [settleManaged, run_bind, run_ofExcept]
      change _ = uncaught (str (Dict.get created "id")) >>= _
      cases uncaught (str (Dict.get created "id")) with
      | error raised => rfl
      | ok providerTransactionId => exact settleAccepted_fst finishManagedTransaction_oblivious

/-! ## What escapes an accepted create -/

omit [Modules] in
theorem withRequiredField_eq_ok {requiredField context : String} {value : Value}
    {response : Dict} :
    withRequiredField requiredField context value = .ok response ↔
      value = .object response ∧ hasField response requiredField := by
  cases value with
  | object found =>
    rw [withRequiredField, Json.object.injEq]
    constructor
    · intro returned
      split at returned
      · next usable =>
        cases returned
        exact ⟨rfl, usable⟩
      · cases returned
    · intro given
      rcases given with ⟨rfl, usable⟩
      rw [if_pos usable]
  | _ => simp [withRequiredField]

omit [Modules] in
theorem withRequiredField_not_throws {requiredField context : String} {value : Value} :
    ¬ Throws (withRequiredField requiredField context value) := by
  unfold withRequiredField
  split
  · split <;> simp
  · simp

/-- The response reports a failure whose detail cannot be dumped. -/
def Undumpable (response : Dict) : Prop :=
  statusIs response "failed" ∧ ∃ e, failureDetail response = .error e

/-- The response settles nothing. -/
def InFlight (response : Dict) : Prop :=
  statusIs response "success" = false ∧ statusIs response "failed" = false

omit [Modules] in
theorem statusIs_failed_of_success {response : Dict} (success : statusIs response "success") :
    statusIs response "failed" = false := by
  unfold statusIs at success ⊢
  cases found : Dict.get response "status" with
  | string status =>
    simp only [found, decide_eq_true_eq] at success
    rw [success]
    decide
  | _ => rfl

theorem settledOrNone_eq_none {response : Dict} :
    settledOrNone response = .ok none ↔ InFlight response := by
  unfold settledOrNone InFlight
  split
  · next success => simp [success]
  · next noSuccess =>
    split
    · next failed =>
      cases failureDetail response <;>
        simp [failed, uncaught, raiseSignerError, bind, Except.bind]
    · next noFailure => simp [noSuccess, noFailure]

theorem throws_settledOrNone {response : Dict} :
    Throws (settledOrNone response) ↔ Undumpable response := by
  unfold settledOrNone Undumpable
  split
  · next success => simp [statusIs_failed_of_success success]
  split
  · next failed =>
    simp only [throws_bind, throws_uncaught, throws_raiseSignerError, and_false, exists_false,
      or_false, failed, true_and]
  · next noFailure => simp [noFailure]

/-- Looking for a challenge throws only on something that cannot be iterated. -/
theorem throws_challenge {locator : String} {response : Dict} :
    Throws (challenge locator response) ↔
      ∃ e, iterate (pendingApprovals response) = .error e := by
  have read : ∀ entry, ¬ Throws (approvalMessage entry) := by
    intro entry
    unfold approvalMessage
    split
    · split
      · split <;> simp
      · simp
    · simp [awaitingApprovalError]
  have chosen : ∀ entries : List Value,
      ¬ Throws (okOr (entries.find? (isOurs locator)) awaitingApprovalError) := by
    intro entries
    cases entries.find? (isOurs locator) <;> simp [okOr, awaitingApprovalError]
  rw [challenge, throws_bind, throws_uncaught, or_iff_left]
  intro given
  rcases given with ⟨entries, -, late⟩
  exact not_throws_bind (chosen entries) read late

/-- An approval raises past the handlers: what stands under `approvals.pending` cannot
be iterated, or there is a challenge to sign and the approval cannot be sent. -/
def ApprovalBlocked (signer : CrossmintSigner) (response : Dict) : Prop :=
  ∃ signingKey locator, signer.signingKey = some signingKey ∧ signer.signer = some locator ∧
    ((∃ e, iterate (pendingApprovals response) = .error e) ∨
      ∃ messageBytes, challenge locator response = .ok messageBytes ∧
        Unsendable (signer.submitApprovalRequest response locator
          (Modules.signMessage signingKey messageBytes)))

theorem throws_approvalRequest {response : Dict} :
    Throws (sendable (signer.approvalRequest response)) ↔ signer.ApprovalBlocked response := by
  unfold approvalRequest ApprovalBlocked
  split
  · next signingKey locator holdsKey holdsLocator =>
    rw [sendable_bind, throws_bind, throws_challenge]
    simp only [holdsKey, holdsLocator, Option.some.injEq, throws_sendable_uncaught]
    constructor
    · intro blocked
      exact ⟨signingKey, locator, rfl, rfl, blocked⟩
    · intro given
      rcases given with ⟨_, _, rfl, rfl, blocked⟩
      exact blocked
  · next absent =>
    constructor
    · intro given
      rcases given with ⟨e, raised⟩
      cases raised
    · intro given
      rcases given with ⟨signingKey, locator, holdsKey, holdsLocator, -⟩
      exact (absent signingKey locator holdsKey holdsLocator).elim

/-- The request a response in flight is followed by. -/
def followUp (signer : CrossmintSigner) (approvalSubmitted : Bool) (response : Dict) :
    Except Raised Request :=
  if owesApproval approvalSubmitted response then signer.approvalRequest response
  else uncaught (signer.pollRequest response)

/-- The follow-up raises past the handlers before it is sent. -/
def Blocked (signer : CrossmintSigner) (approvalSubmitted : Bool) (response : Dict) : Prop :=
  if owesApproval approvalSubmitted response then signer.ApprovalBlocked response
  else Unsendable (signer.pollRequest response)

/-- The answers for which the polling loop raises past the handlers, with so many
iterations left. -/
inductive Escapes (signer : CrossmintSigner) : ℕ → Bool → Dict → (ℕ → Reply) → Prop
  | undumpable {left : ℕ} {approvalSubmitted : Bool} {response : Dict} {answers : ℕ → Reply} :
    Undumpable response → Escapes signer left approvalSubmitted response answers
  | blocked {left : ℕ} {approvalSubmitted : Bool} {response : Dict} {answers : ℕ → Reply} :
    InFlight response → signer.Blocked approvalSubmitted response →
    Escapes signer (left + 1) approvalSubmitted response answers
  | unreadable {left : ℕ} {approvalSubmitted : Bool} {response : Dict} {answers : ℕ → Reply}
    {sent : Request} :
    InFlight response → sendable (signer.followUp approvalSubmitted response) = .ok sent →
    Throws (receivedJson "Crossmint" (answers 0)) →
    Escapes signer (left + 1) approvalSubmitted response answers
  | answered {left : ℕ} {approvalSubmitted : Bool} {response next : Dict} {answers : ℕ → Reply}
    {sent : Request} :
    InFlight response → sendable (signer.followUp approvalSubmitted response) = .ok sent →
    receivedJson "Crossmint" (answers 0) = .ok (.object next) → hasField next "id" →
    Escapes signer left (approvalSubmitted || owesApproval approvalSubmitted response) next
      (fun i => answers (i + 1)) →
    Escapes signer (left + 1) approvalSubmitted response answers

theorem throws_followUp {approvalSubmitted : Bool} {response : Dict} :
    Throws (sendable (signer.followUp approvalSubmitted response)) ↔
      signer.Blocked approvalSubmitted response := by
  unfold followUp Blocked
  split
  · exact throws_approvalRequest
  · exact throws_sendable_uncaught

/-- An iteration on a response in flight is one exchange. -/
theorem pollLoop_succ {left : ℕ} {approvalSubmitted : Bool} {response : Dict}
    (inFlight : InFlight response) :
    ∃ context, (signer.pollLoop (left + 1) approvalSubmitted response : HttpProg σ Raised Dict) =
      exchange "Crossmint" (signer.followUp approvalSubmitted response)
        (withRequiredField "id" context) >>=
          signer.pollLoop left (approvalSubmitted || owesApproval approvalSubmitted response) := by
  rw [pollLoop, settledOrNone_eq_none.mpr inFlight, ofExcept_ok_bind]
  simp only [followUp]
  cases owes : owesApproval approvalSubmitted response with
  | true => exact ⟨"submit_approval", by simp [handleAwaitingApproval]⟩
  | false => exact ⟨"get_transaction", by simp [getTransaction]⟩

/-- An iteration on a settled response ends the loop. -/
theorem pollLoop_throws_of_settled {left : ℕ} {approvalSubmitted : Bool} {response : Dict}
    {answers : ℕ → Reply} {w : World Request Reply σ} (settled : ¬ InFlight response) :
    Throws ((signer.pollLoop left approvalSubmitted response).run answers w).1 ↔
      Undumpable response := by
  rw [← throws_settledOrNone]
  rw [← settledOrNone_eq_none] at settled
  cases left with
  | zero =>
    rw [pollLoop, run_ofExcept, pollExhausted, throws_bind]
    cases outcome : settledOrNone response with
    | error raised => simp
    | ok found =>
      cases found with
      | none => exact absurd outcome settled
      | some found => simp [pure, Except.pure]
  | succ left =>
    rw [pollLoop, run_bind, run_ofExcept]
    cases outcome : settledOrNone response with
    | error raised => simp [Throws]
    | ok found =>
      cases found with
      | none => exact absurd outcome settled
      | some found => simp

theorem not_undumpable_of_inFlight {response : Dict} (inFlight : InFlight response) :
    ¬ Undumpable response := by
  intro given
  rcases given with ⟨failed, -⟩
  simp [inFlight.2] at failed

theorem escapes_of_settled {left : ℕ} {approvalSubmitted : Bool} {response : Dict}
    {answers : ℕ → Reply} (settled : ¬ InFlight response) :
    signer.Escapes left approvalSubmitted response answers ↔ Undumpable response := by
  refine ⟨fun escapes => ?_, .undumpable⟩
  cases escapes with
  | undumpable undumpable => exact undumpable
  | blocked inFlight => exact absurd inFlight settled
  | unreadable inFlight => exact absurd inFlight settled
  | answered inFlight => exact absurd inFlight settled

theorem escapes_succ {left : ℕ} {approvalSubmitted : Bool} {response : Dict}
    {answers : ℕ → Reply} (inFlight : InFlight response) :
    signer.Escapes (left + 1) approvalSubmitted response answers ↔
      signer.Blocked approvalSubmitted response ∨
        ∃ sent, sendable (signer.followUp approvalSubmitted response) = .ok sent ∧
          (Throws (receivedJson "Crossmint" (answers 0)) ∨
            ∃ next, receivedJson "Crossmint" (answers 0) = .ok (.object next) ∧
              hasField next "id" ∧
              signer.Escapes left (approvalSubmitted || owesApproval approvalSubmitted response)
                next fun i => answers (i + 1)) := by
  constructor
  · intro escapes
    cases escapes with
    | undumpable undumpable => exact absurd undumpable (not_undumpable_of_inFlight inFlight)
    | blocked _ blocked => exact .inl blocked
    | unreadable _ sent thrown => exact .inr ⟨_, sent, .inl thrown⟩
    | answered _ sent replied named later => exact .inr ⟨_, sent, .inr ⟨_, replied, named, later⟩⟩
  · intro given
    rcases given with blocked | ⟨_, sent, thrown | ⟨next, replied, named, later⟩⟩
    · exact .blocked inFlight blocked
    · exact .unreadable inFlight sent thrown
    · exact .answered inFlight sent replied named later

/-- The value of a follow-up's reply is an object that names an id. -/
theorem followUpReply_eq_ok {reply : Reply} {context : String} {next : Dict} :
    receivedJson "Crossmint" reply >>= withRequiredField "id" context = .ok next ↔
      receivedJson "Crossmint" reply = .ok (.object next) ∧ hasField next "id" := by
  rw [bind_eq_ok]
  simp only [withRequiredField_eq_ok]
  constructor
  · intro given
    rcases given with ⟨value, received, rfl, named⟩
    exact ⟨received, named⟩
  · intro given
    rcases given with ⟨received, named⟩
    exact ⟨_, received, rfl, named⟩

theorem throws_followUpReply {reply : Reply} {context : String} :
    Throws (receivedJson "Crossmint" reply >>= withRequiredField "id" context) ↔
      Throws (receivedJson "Crossmint" reply) := by
  rw [throws_bind, or_iff_left]
  intro given
  rcases given with ⟨value, -, late⟩
  exact withRequiredField_not_throws late

/-- The loop throws exactly when its answers escape. -/
theorem pollLoop_throws {left : ℕ} {approvalSubmitted : Bool} {response : Dict}
    {answers : ℕ → Reply} {w : World Request Reply σ} :
    Throws ((signer.pollLoop left approvalSubmitted response).run answers w).1 ↔
      signer.Escapes left approvalSubmitted response fun i => answers (w.asked + i) := by
  induction left generalizing approvalSubmitted response answers w with
  | zero =>
    by_cases inFlight : InFlight response
    · constructor
      · intro thrown
        rw [pollLoop, run_ofExcept, pollExhausted, settledOrNone_eq_none.mpr inFlight] at thrown
        change Throws (if owesApproval approvalSubmitted response then _ else _) at thrown
        split at thrown <;> simp [awaitingApprovalError] at thrown
      · intro escapes
        cases escapes with
        | undumpable undumpable => exact absurd undumpable (not_undumpable_of_inFlight inFlight)
    · rw [pollLoop_throws_of_settled inFlight, escapes_of_settled inFlight]
  | succ left ih =>
    by_cases inFlight : InFlight response
    · obtain ⟨context, step⟩ : ∃ context, (signer.pollLoop (left + 1) approvalSubmitted response :
          HttpProg σ Raised Dict) = _ := pollLoop_succ inFlight
      rw [step, exchange_bind_throws fun _ => pollLoop_oblivious, escapes_succ inFlight]
      simp only [throws_followUp, throws_followUpReply, followUpReply_eq_ok, ih, World.start_asked,
        Nat.zero_add, Nat.add_zero, and_assoc]
    · rw [pollLoop_throws_of_settled inFlight, escapes_of_settled inFlight]

theorem extractSignatureFromResponse_not_throws {response : Dict} :
    ¬ Throws (extractSignatureFromResponse response) := by
  have spelled : ∀ txId, ¬ Throws (signatureFromTxId txId) := by
    intro txId
    unfold signatureFromTxId
    split <;> simp
  have landed : ∀ onChain, ¬ Throws (onChainSignature onChain) := by
    intro onChain
    unfold onChainSignature
    split
    · split
      · exact not_throws_bind verifyReturnedSignature_not_throws fun _ => throws_ok
      · exact spelled _
      · exact throws_signerError
    · exact spelled _
    · exact throws_raiseSignerError
  unfold extractSignatureFromResponse
  split
  · exact landed _
  · exact throws_raiseSignerError

theorem finishManagedTransaction_throws {created : Dict} {answers : ℕ → Reply} {s : σ} :
    Throws ((signer.finishManagedTransaction created).run answers (.start s)).1 ↔
      signer.Escapes signer.maxPollAttempts false created answers := by
  rw [finishManagedTransaction, run_bind_ofExcept_fst, throws_bind, or_iff_left]
  · rw [pollTransaction, pollLoop_throws]
    simp
  · intro given
    rcases given with ⟨response, -, late⟩
    exact extractSignatureFromResponse_not_throws late

/-- A prepared create carries the key of its transaction. -/
theorem lookup_of_prepare {create : Request} (prepared : signer.prepare transaction = .ok create) :
    create.headers.lookup "x-idempotency-key" = some (signer.idempotencyKey transaction) := by
  obtain ⟨publicKey, -, prepared⟩ := bind_eq_ok.mp prepared
  have formed := mapError_eq_ok.mp (sendable_eq_ok prepared)
  obtain ⟨url, -, formed⟩ := bind_eq_ok.mp formed
  obtain ⟨body, -, formed⟩ := bind_eq_ok.mp formed
  cases formed
  rfl

variable (signer transaction) in
/-- A call whose create was accepted under a text concludes exactly when nothing
escapes. -/
theorem signAndSendTransaction_concluded_iff (answers : ℕ → Reply) (slot : PendingTransactionId)
    {create : Request} {created : Dict} {transactionId : Str}
    (prepared : signer.prepare transaction = .ok create)
    (accepted : signer.createVerdict transaction (answers 0) = .ok created)
    (named : Dict.get created "id" = .string transactionId) :
    Concluded slot "x-idempotency-key" create transactionId
      ((signer.signAndSendTransaction transaction).run answers (.start slot)) ↔
      ¬ signer.Escapes signer.maxPollAttempts false created fun i => answers (i + 1) := by
  obtain ⟨publicKey, initialized, -⟩ := bind_eq_ok.mp prepared
  have submitted := createTransaction_run transaction answers (.start slot) initialized
  rw [World.start_asked, Broadcast.Plan.submitted_of_accepted prepared accepted] at submitted
  have settles : signer.settleManaged (signer.idempotencyKey transaction) created =
      settleAccepted signer.pendingTransactionId transactionId (signer.idempotencyKey transaction)
        (signer.finishManagedTransaction created) := by
    rw [settleManaged, named]
    rfl
  rw [signAndSendTransaction, executeManagedTransaction, initialized, ofExcept_ok_bind,
    ← finishManagedTransaction_throws]
  exact submit_concluded_iff submitted settles finishManagedTransaction_oblivious
    (lookup_of_prepare prepared)

end

end CrossmintSigner

end

end Keychain.Python.Crossmint
