import Keychain.TypeScript.Managed

/-!
`crossmint-signer.ts`: signing and sending one transaction, on the JSON values the provider
answers with.

Every check reads the parsed value the way the source does, so that a value of another shape
ends in the `TypeError` it ends in there. `signTransactionManaged_promised` is the promise of
`Keychain.TypeScript.Managed` for this signer.
-/

namespace Keychain.TypeScript.CrossmintSigner.Managed

open Prog

variable [Runtime] [Kit] [Packages]

/-! ## Responses -/

/-- A response that passed `parseTransactionResponse`: the fields checked next to the value. -/
structure TransactionResponse where
  id : JsString
  status : Unknown
  payload : Unknown

def missingIdOrStatus (context : String) : Thrown :=
  .create .remoteApiError {
    message := some ("Failed to " ++ context ++ ": missing transaction id/status" : String) }

def parseTransactionResponse (payload : Unknown) (context : String) :
    Except Thrown TransactionResponse := do
  match ← property payload "id" with
  | .string id =>
    if id.isBlank then
      .error (missingIdOrStatus context)
    else do
      let status ← property payload "status"
      if isTruthy status then pure { id, status, payload }
      else .error (missingIdOrStatus context)
  | _ => .error (missingIdOrStatus context)

/-- `value === signer`. -/
def isSigner (value : Unknown) (signer : Option JsString) : Bool :=
  match value, signer with
  | .string value, some signer => value = signer
  | .number .undefined, none => true
  | _, _ => false

/-- `pending.find(entry => entry.signer?.locator === signer)`. -/
def findEntry (signer : Option JsString) : List Unknown → Except Thrown (Option Unknown)
  | [] => .ok none
  | entry :: entries => do
    let entrySigner ← property entry "signer"
    if isSigner (optionalProperty entrySigner "locator") signer then pure (some entry)
    else findEntry signer entries

def findPendingApprovalForSigner (signer : CrossmintSigner) (response : TransactionResponse) :
    Except Thrown (Option Unknown) :=
  match optionalProperty (optionalProperty response.payload "approvals") "pending" with
  | .null => .ok none
  | .number .undefined => .ok none
  | .array pending => findEntry signer.signer pending
  | _ => .error (.builtin "TypeError")

def stringifyError : Unknown → JsString
  | .string error => sanitizeRemoteErrorResponse error
  | .number (.number error) => Runtime.numberText error
  | .bool error => if error then "true" else "false"
  | .null => "unknown error"
  | .number .undefined => "unknown error"
  | error => sanitizeRemoteErrorResponse (stringified error)

/-- `getBase58Encoder().encode(value)`. -/
def base58Bytes : Unknown → Except Thrown Bytes
  | .string value => okOr (Packages.base58Encode value) (.builtin "SolanaError")
  | _ => .error (.builtin "TypeError")

def decodeSignatureString (value : Unknown) : Option Bytes :=
  if isTruthy value then
    match base58Bytes value with
    | .ok bytes => if bytes.length = 64 then some bytes else none
    | .error _ => none
  else
    none

/-- `Object.entries(signatures)[0]`, when both of its halves are usable. -/
def feePayerSignature (transaction : Transaction) : Option (JsString × Bytes) :=
  match transaction.signatures with
  | (feePayer, some signature) :: _ =>
    if truthy (some feePayer) && signature.any (· != 0) then some (feePayer, signature) else none
  | _ => none

/-- The signature of the executed transaction, or what kept it from being read. -/
def embeddedSignature (serialized : Unknown) : Except Thrown (Except Thrown Bytes) :=
  match base58Bytes serialized >>= Kit.decodeTransaction with
  | .error error => .ok (.error error)
  | .ok executedTransaction =>
    match feePayerSignature executedTransaction with
    | some (feePayer, signature) => do
      assertSignatureValid executedTransaction.messageBytes signature feePayer
      pure (.ok signature)
    | none => .ok (.error (.builtin "Error"))

def extractSignature (response : TransactionResponse) : Except Thrown Bytes := do
  let onChain := optionalProperty response.payload "onChain"
  let serialized := optionalProperty onChain "transaction"
  let embedded ←
    if isTruthy serialized then some <$> embeddedSignature serialized
    else pure none
  match embedded with
  | some (.ok signature) => pure signature
  | _ =>
    match decodeSignatureString (optionalProperty onChain "txId") with
    | some signature => pure signature
    | none =>
      .error (.create .signingFailed {
        cause := embedded.bind fun embedded =>
          match embedded with
          | .error error => some error
          | .ok _ => none
        message := some
          ("Unable to extract signature from Crossmint transaction response" : String) })

/-- The signature of a response with a terminal status. -/
def resolveTerminalStatus (response : TransactionResponse)
    (approvalSubmitted : Bool) : Except Thrown (Option Bytes) :=
  match response.status with
  | .string status =>
    if status = ("success" : String) then
      some <$> extractSignature response
    else if status = ("failed" : String) then
      .error (.create .signingFailed {
        message := some ("Crossmint transaction failed: " ++
          stringifyError (optionalProperty response.payload "error")) })
    else if status = ("awaiting-approval" : String) then
      -- A submitted approval may be registered asynchronously.
      if approvalSubmitted then .ok none
      else .error (.create .signingFailed {
        message := some ("Crossmint transaction is awaiting approval; additional signer " ++
          "approvals are required" : String) })
    else
      .ok none
  | _ => .ok none

/-! ## Requests -/

def walletPath (signer : CrossmintSigner) : Except Thrown JsString := do
  let locator ← encodeURIComponent signer.walletLocator
  pure ("/2025-06-09/wallets/" ++ locator ++ "/transactions")

/-- The request that `request` fetches. The timeout is the default one. -/
def formRequest (signer : CrossmintSigner) (path : JsString) (method : Method)
    (body : Option Unknown) (idempotencyKey : Option JsString) : FetchRequest where
  url := signer.apiBaseUrl ++ path
  method := method
  headers := ("X-API-KEY", signer.apiKey) ::
    ((if method = .post ∧ body.isSome then
        [("Content-Type", (("application/json" : String) : JsString))]
      else []) ++
    idempotencyKey.toList.map fun key => ("x-idempotency-key", key))
  body := body.map stringified
  timeoutMs := 60000

def createBody (signer : CrossmintSigner) (transactionBase58 : JsString) : Unknown :=
  .object [("params", .object (("transaction", .string transactionBase58) ::
    (if truthy signer.signer then [("signer", .string (signer.signer.getD ""))] else [])))]

def createRequest (signer : CrossmintSigner) (transactionBase58 idempotencyKey : JsString) :
    Except Thrown FetchRequest := do
  let path ← walletPath signer
  pure (formRequest signer path .post (some (createBody signer transactionBase58))
    (some idempotencyKey))

/-- The catch block of `createTransaction` keeps the id of an unusable value. -/
def parseCreated (payload : Unknown) : Except Thrown TransactionResponse :=
  match parseTransactionResponse payload "create transaction" with
  | .ok created => .ok created
  | .error error =>
    match providerTransactionIdOf payload with
    | none => .error error
    | some id => .error (.create .remoteApiError {
        cause := some error
        message := some ("Failed to create transaction: unusable response body" : String)
        providerTransactionId := some id })

def createTransaction (signer : CrossmintSigner) (abortSignal : Bool)
    (transactionBase58 idempotencyKey : JsString) : FetchProg TransactionResponse :=
  submission abortSignal "Crossmint" (createRequest signer transactionBase58 idempotencyKey)
    parseCreated

def getTransaction (signer : CrossmintSigner) (abortSignal : Bool) (transactionId : JsString) :
    FetchProg TransactionResponse := do
  let path ← ofExcept (walletPath signer)
  let id ← ofExcept (encodeURIComponent transactionId)
  let value ← fetchSignerJson abortSignal "Crossmint"
    (formRequest signer (path ++ "/" ++ id) .get none none)
  ofExcept (parseTransactionResponse value "get transaction")

def approvalBody (signer : CrossmintSigner) (signature : JsString) : Unknown :=
  .object [("approvals", .array [.object [("signature", .string signature),
    ("signer", .string (signer.signer.getD ""))]])]

/-- `signerSeed` is the seed that the caller of `submitApproval` has found present. -/
def submitApproval (signer : CrossmintSigner) (abortSignal : Bool) (signerSeed : Bytes)
    (response : TransactionResponse) (pending : Unknown) : FetchProg TransactionResponse := do
  let message ← ofExcept (property pending "message")
  if isTruthy message then do
    let messageBytes ← ofExcept (base58Bytes message)
    let signature := Packages.base58Decode (Packages.cryptoSign signerSeed messageBytes)
    let path ← ofExcept (walletPath signer)
    let id ← ofExcept (encodeURIComponent response.id)
    let value ← fetchSignerJson abortSignal "Crossmint"
      (formRequest signer (path ++ "/" ++ id ++ "/approvals") .post
        (some (approvalBody signer signature)) none)
    ofExcept (parseTransactionResponse value "submit approval")
  else
    fail (.create .signingFailed {
      message := some
        ("Crossmint transaction awaiting approval but no pending message found" : String) })

/-! ## Driving a transaction -/

/-- The seed and the entry to approve, while a transaction awaits approval and none was
submitted. -/
def approvalDue (signer : CrossmintSigner) (response : TransactionResponse)
    (approvalSubmitted : Bool) (pending : Option Unknown) : Option (Bytes × Unknown) :=
  match response.status, signer.signerSeed, pending with
  | .string status, some signerSeed, some pending =>
    if status = ("awaiting-approval" : String) ∧ truthy signer.signer ∧ approvalSubmitted = false
    then some (signerSeed, pending)
    else none
  | _, _, _ => none

/-- The loop with its remaining attempts. -/
def driveLoop (signer : CrossmintSigner) (abortSignal : Bool) :
    ℕ → Bool → TransactionResponse → FetchProg Bytes
  | 0, approvalSubmitted, response => do
    match ← ofExcept (resolveTerminalStatus response approvalSubmitted) with
    | some terminalSignature => pure terminalSignature
    | none => fail (.create .remoteApiError {
        message := some ("Crossmint transaction polling timed out after " ++
          toString signer.maxPollAttempts ++ " attempts" : String) })
  | attempts + 1, approvalSubmitted, response => do
    throwIfAborted abortSignal
    let pending ← ofExcept (findPendingApprovalForSigner signer response)
    match approvalDue signer response approvalSubmitted pending with
    | some (signerSeed, pending) => do
      let response ← submitApproval signer abortSignal signerSeed response pending
      driveLoop signer abortSignal attempts true response
    | none => do
      match ← ofExcept (resolveTerminalStatus response approvalSubmitted) with
      | some terminalSignature => pure terminalSignature
      | none => do
        abortableDelay abortSignal
        let response ← getTransaction signer abortSignal response.id
        driveLoop signer abortSignal attempts approvalSubmitted response

def driveTransactionToSignature (signer : CrossmintSigner) (abortSignal : Bool)
    (created : TransactionResponse) : FetchProg Bytes :=
  driveLoop signer abortSignal signer.maxPollAttempts false created

/-! ## Sending -/

def encodeTransaction (transaction : Transaction) : Except Thrown JsString := do
  let wireTransaction ← Kit.getBase64EncodedWireTransaction transaction
  let transactionBytes ← Kit.base64Encode wireTransaction
  pure (Packages.base58Decode transactionBytes)

def signTransactionManaged (signer : CrossmintSigner) (abortSignal : Bool)
    (transaction : Transaction) : FetchProg Bytes := do
  let input ← ofExcept
    (okOr (signer.namespacedKeyInput transaction.messageBytes) (.builtin "RangeError"))
  let idempotencyKey := idempotencyKeyFromMessage input
  let transactionBase58 ← ofExcept (encodeTransaction transaction)
  throwIfAborted abortSignal
  broadcastManaged "Crossmint" "Crossmint may have created" idempotencyKey TransactionResponse.id
    (createTransaction signer abortSignal transactionBase58 idempotencyKey)
    (driveTransactionToSignature signer abortSignal)

/-! ## The promise -/

/-- The requests that create a transaction. -/
def isCreate (signer : CrossmintSigner) (request : FetchRequest) : Bool :=
  request.method = .post && match walletPath signer with
    | .ok path => decide (request.url = signer.apiBaseUrl ++ path)
    | .error _ => false

section

variable {signer : CrossmintSigner} {abortSignal : Bool}

omit [Runtime] [Kit] [Packages] in
/-- A longer path is no path of a create. -/
theorem isCreate_of_longer {path longer : JsString} {method : Method} {body : Option Unknown}
    {key : Option JsString} (located : walletPath signer = .ok path)
    (grows : path.codeUnits.length < longer.codeUnits.length) :
    isCreate signer (formRequest signer longer method body key) = false := by
  have apart : signer.apiBaseUrl ++ longer ≠ signer.apiBaseUrl ++ path := by
    intro same
    have units := congrArg (fun text => text.codeUnits.length) same
    simp only [JsString.codeUnits_append, List.length_append] at units
    omega
  simp [isCreate, formRequest, located, apart]

omit [Kit] [Packages] in
theorem getTransaction_followsUp {transactionId : JsString} :
    (getTransaction signer abortSignal transactionId).Asks (FollowsUp (isCreate signer)) := by
  refine asks_ofExcept.bind fun path => asks_ofExcept.bind fun id => ?_
  refine (asks_fetchSignerJson trivial ?_).bind fun value => asks_ofExcept
  simp [FollowsUp, isCreate, formRequest]

omit [Kit] in
/-- An approval goes to a longer path than the create. -/
theorem submitApproval_followsUp {signerSeed : Bytes} {response : TransactionResponse}
    {pending : Unknown} :
    (submitApproval signer abortSignal signerSeed response pending).Asks
      (FollowsUp (isCreate signer)) := by
  refine asks_ofExcept.bind fun message => ?_
  split
  · refine asks_ofExcept.bind fun messageBytes => asks_ofExcept_bind fun path located => ?_
    refine asks_ofExcept.bind fun id => ?_
    refine (asks_fetchSignerJson trivial (isCreate_of_longer located ?_)).bind fun value =>
      asks_ofExcept
    have approvals : 0 < (JsString.ofString "/approvals").codeUnits.length := by decide
    simp only [JsString.codeUnits_append, List.length_append]
    omega
  · exact asks_fail

theorem driveLoop_followsUp {attempts : ℕ} {approvalSubmitted : Bool}
    {response : TransactionResponse} :
    (driveLoop signer abortSignal attempts approvalSubmitted response).Asks
      (FollowsUp (isCreate signer)) := by
  induction attempts generalizing approvalSubmitted response with
  | zero =>
    refine asks_ofExcept.bind fun terminalSignature => ?_
    cases terminalSignature with
    | some _ => exact asks_pure
    | none => exact asks_fail
  | succ attempts ih =>
    refine (asks_throwIfAborted trivial).bind fun _ => asks_ofExcept.bind fun pending => ?_
    split
    · exact submitApproval_followsUp.bind fun response => ih
    · refine asks_ofExcept.bind fun terminalSignature => ?_
      cases terminalSignature with
      | some _ => exact asks_pure
      | none =>
        refine (asks_abortableDelay trivial).bind fun _ => ?_
        exact getTransaction_followsUp.bind fun response => ih

omit [Kit] [Packages] [Runtime] in
theorem providerTransactionIdOf_of_parse {payload : Unknown} {context : String}
    {parsed : TransactionResponse} (read : parseTransactionResponse payload context = .ok parsed) :
    providerTransactionIdOf payload = some parsed.id := by
  obtain ⟨id, named, read⟩ := bind_eq_ok.mp read
  have own := property_eq_ok named
  cases id with
  | string text =>
    dsimp only at read
    split at read
    · cases read
    · next usable =>
      obtain ⟨status, -, read⟩ := bind_eq_ok.mp read
      split at read
      · cases read
        rw [providerTransactionIdOf, own]
        exact if_neg usable
      · cases read
  | _ => cases read

omit [Kit] [Packages] [Runtime] in
theorem providerMayHaveAccepted_of_parse {payload : Unknown} {context : String} {error : Thrown}
    (unread : parseTransactionResponse payload context = .error error) :
    providerMayHaveAccepted error := by
  rcases bind_eq_error.mp unread with early | ⟨id, -, late⟩
  · exact providerMayHaveAccepted_of_property early
  · cases id with
    | string text =>
      dsimp only at late
      split at late
      · cases late
        rfl
      · rcases bind_eq_error.mp late with early | ⟨status, -, late⟩
        · exact providerMayHaveAccepted_of_property early
        · split at late
          · cases late
          · cases late
            rfl
    | _ =>
      cases late
      rfl

omit [Kit] [Packages] [Runtime] in
theorem parseCreated_judges : Judges parseCreated TransactionResponse.id where
  accepted := by
    intro value created judged
    unfold parseCreated at judged
    split at judged
    · next read =>
      cases judged
      exact providerTransactionIdOf_of_parse read
    · split at judged <;> cases judged
  refused := by
    intro value error judged
    unfold parseCreated at judged
    split at judged
    · cases judged
    · next e unread =>
      split at judged
      · next unnamed =>
        cases judged
        refine ⟨providerMayHaveAccepted_of_parse unread, ?_⟩
        intro id named
        cases unnamed.symm.trans named
      · next id named =>
        cases judged
        exact ⟨rfl, fun id' same => named.symm.trans same⟩

omit [Kit] [Packages] [Runtime] in
theorem createRequest_isCreate {transactionBase58 idempotencyKey : JsString}
    {request : FetchRequest}
    (formed : createRequest signer transactionBase58 idempotencyKey = .ok request) :
    isCreate signer request ∧ request.headers.lookup "x-idempotency-key" = some idempotencyKey := by
  obtain ⟨path, located, formed⟩ := bind_eq_ok.mp formed
  cases formed
  exact ⟨by simp [isCreate, formRequest, located], rfl⟩

end

end Keychain.TypeScript.CrossmintSigner.Managed

namespace Keychain.TypeScript.CrossmintSigner.Managed

def walletOneSigner : CrossmintSigner where
  apiKey := "key"
  walletLocator := "wallet-1"
  apiBaseUrl := "https://www.crossmint.com/api"
  maxPollAttempts := Crossmint.defaultMaxPollAttempts
  signer := none
  signerSeed := none
  maxPollAttempts_pos := Crossmint.defaultMaxPollAttempts_pos

attribute [local instance] Runtime.refusing Packages.unsigning

local instance emptyKit : Kit := .linked emptyDigest

end Keychain.TypeScript.CrossmintSigner.Managed
