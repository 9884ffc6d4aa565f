import Keychain.Broadcast
import Keychain.Go.Remote

/-!
`signers/fordefi` in Go: `NativeAutoSigner`, which submits with push mode `auto`
and waits for Fordefi to land the transaction.

`signTransactionNative_course` places every run on the plan `nativePlan`;
`finishNativeBroadcast_fst_eq_ok` says by the replies and the waits alone when an
accepted create is confirmed.
-/

namespace Keychain.Go.Fordefi

open Prog

/-! ## Types -/

inductive Chain where
  | solanaDevnet
  | solanaMainnet
  deriving DecidableEq

def Chain.text : Chain → String
  | .solanaDevnet => "solana_devnet"
  | .solanaMainnet => "solana_mainnet"

inductive PushMode where
  | auto
  | manual
  deriving DecidableEq

def PushMode.text : PushMode → String
  | .auto => "auto"
  | .manual => "manual"

/-- `Fee`; the fields are free texts. -/
structure Fee where
  type : String
  priorityLevel : String
  unitPrice : String
  priorityFee : String
  deriving DecidableEq

/-- A member that `omitempty` leaves out. -/
def omitEmpty (name text : String) : List (String × Value) :=
  if text = "" then [] else [(name, .string text)]

def Fee.toValue (fee : Fee) : Value :=
  .object ([("type", .string fee.type)] ++ omitEmpty "priority_level" fee.priorityLevel ++
    omitEmpty "unit_price" fee.unitPrice ++ omitEmpty "priority_fee" fee.priorityFee)

/-- The polled transaction state. -/
structure TransactionStatusResponse where
  state : String
  rawTransaction : String

/-! ## The core -/

/-- `signerCore`. A `requestSigner` is any implementation of `RequestSigner`. -/
structure SignerCore where
  accessToken : String
  vaultID : String
  requestSigner : Bytes → Except Error String
  pubkey : Pubkey
  apiBaseURL : String
  maxPollAttempts : ℕ
  accessToken_ne : accessToken ≠ ""
  vaultID_ne : vaultID ≠ ""
  maxPollAttempts_pos : 0 < maxPollAttempts

namespace SignerCore

def transactionsPath : String := "/api/v1/transactions"

/-- The pause before the attempts still left; nothing is waited for after the last. -/
def pause (txID : String) (pushable : Bool) (left : ℕ) : HttpProg Context Error Unit :=
  if left = 0 then pure ()
  else if pushable then sleepContextUnconfirmed txID
  else sleepContext

theorem pause_blind {txID : String} {pushable : Bool} {left : ℕ} :
    (pause txID pushable left).Blind := by
  unfold pause
  split
  · exact blind_pure
  split
  · exact sleepContext_blind.mapError
  · exact sleepContext_blind

theorem pause_asks {R : Request → Prop} {txID : String} {pushable : Bool} {left : ℕ} :
    (pause txID pushable left).Asks R := by
  unfold pause
  split
  · exact asks_pure
  split
  · exact sleepContext_asks.mapError
  · exact sleepContext_asks

/-- A pause before a further attempt is one wait. -/
theorem pause_succ_run (txID : String) (pushable : Bool) (left : ℕ) (answers : ℕ → Reply)
    (w : World Request Reply Context) :
    ∃ err, (pause txID pushable (left + 1)).run answers w =
      (if w.state.endsIn 0 then .error err else .ok (), { w with state := w.state.waited }) := by
  cases pushable with
  | false => exact ⟨_, sleepContext_run⟩
  | true => exact ⟨_, sleepContextUnconfirmed_run⟩

section

variable [Packages]

def newRequest (core : SignerCore) (method : Method) (path body : String) :
    Except Error Request :=
  let req : Request := {
    method
    url := core.apiBaseURL ++ path
    headers := [("Authorization", "Bearer " ++ core.accessToken)]
    body }
  match Packages.newRequestError req with
  | some _ => .error (newSignerError .httpError "failed to build fordefi request")
  | none => .ok req

/-- The payload that `signRequest` hands to the request signer. -/
def signedPayload (path : String) (timestamp : Int) (body : String) : Bytes :=
  utf8 (path ++ "|" ++ toString timestamp ++ "|" ++ body)

def signRequest (core : SignerCore) (path : String) (timestamp : Int) (body : String) :
    Except Error String :=
  core.requestSigner (signedPayload path timestamp body)

def marshalRequest (request : Value) : Except Error String :=
  (Packages.marshal request).mapError fun _ =>
    newSignerError .serializationError "failed to serialize fordefi request"

/-- The signed submit, or the error that kept it from being formed. -/
def submission (core : SignerCore) (request : Value) (idempotenceID : String) :
    Except Error Request := do
  let body ← marshalRequest request
  let timestamp := Packages.unixMilli
  let signature ← core.signRequest transactionsPath timestamp body
  let req ← core.newRequest .post transactionsPath body
  pure { req with
    headers := req.headers ++
      [("Content-Type", "application/json"), ("x-signature", signature),
        ("x-timestamp", toString timestamp)] ++
      (if idempotenceID ≠ "" then [("x-idempotence-id", idempotenceID)] else []) }

/-- An unresolved failure of a submit that broadcasts is reported as unconfirmed. -/
def classify (idempotenceID : String) (broadcastManaged : Bool) (status : ℕ)
    (providerTxID : String) (err : Error) : Error :=
  if broadcastManaged then
    unconfirmedUnlessRejected status providerTxID idempotenceID err
  else
    err

/-- What `submitTransaction` makes of the response. -/
def submitOutcome [Unmarshal IDObject] (classify : ℕ → String → Error → Error) (sent : Sent) :
    Except Error String :=
  match sent.err with
  | some err => .error (classify sent.status "" err)
  | none =>
    if Reply.isSuccess sent.status then
      match (unmarshal sent.body : Except String IDObject) with
      | .error _ =>
        .error (classify sent.status (transactionIDInBody sent.body)
          (newSignerError .serializationError "failed to parse response"))
      | .ok created =>
        if isBlank created.id then
          .error (classify sent.status (transactionIDInBody sent.body)
            (newSignerError .serializationError "failed to parse response"))
        else
          .ok created.id
    else
      -- The submit may have been accepted even when the body is otherwise
      -- unusable, so an id present there is the caller's recovery handle.
      .error (classify sent.status (transactionIDInBody sent.body)
        (newRemoteAPIError "API error" sent.status sent.body))

/-- POST a signing request and return the Fordefi transaction id. -/
def submitTransaction [Unmarshal IDObject] {σ : Type} (core : SignerCore) (request : Value)
    (idempotenceID : String) (broadcastManaged : Bool) : HttpProg σ Error String :=
  exchange "fordefi" (core.submission request idempotenceID)
    (submitOutcome (classify idempotenceID broadcastManaged))

def getRequest (core : SignerCore) (txID : String) : Except Error Request :=
  core.newRequest .get (transactionsPath ++ "/" ++ pathEscape txID) ""

variable [Unmarshal TransactionStatusResponse]

def getOutcome (sent : Sent) : Except Error TransactionStatusResponse :=
  match sent.err with
  | some err => .error err
  | none =>
    if Reply.isSuccess sent.status then
      (unmarshal sent.body).mapError fun _ =>
        newSignerError .serializationError "failed to parse response"
    else
      .error (newRemoteAPIError "API error" sent.status sent.body)

/-- Fetches the current state of a Fordefi transaction. -/
def getTransaction {σ : Type} (core : SignerCore) (txID : String) :
    HttpProg σ Error TransactionStatusResponse :=
  exchange "fordefi" (core.getRequest txID) getOutcome

def terminalFailureStates : List String :=
  ["aborted", "cancelled", "completed_reverted", "dropped", "error_pushing_to_blockchain",
    "error_signing", "insufficient_funds", "mined_reverted"]

/-- What one polled state says: settled, failed, or still under way. -/
def pollState (txID : String) (pushable : Bool) (response : TransactionStatusResponse) :
    Except Error (Option TransactionStatusResponse) :=
  if response.state = "completed" ∨ (pushable = false ∧ response.state = "signed") then
    .ok (some response)
  else if terminalFailureStates.contains response.state then
    .error (newSignerError .signingFailed
      ("transaction " ++ txID ++ " reached terminal state: " ++ response.state))
  else
    .ok none

/-- The poll loop with so many attempts left. -/
def pollLoop (core : SignerCore) (txID : String) (pushable : Bool) :
    ℕ → HttpProg Context Error TransactionStatusResponse
  | 0 => fail (pollTimeoutError "fordefi" core.maxPollAttempts txID)
  | left + 1 => do
    let response ← core.getTransaction txID
    match ← ofExcept (pollState txID pushable response) with
    | some settled => pure settled
    | none =>
      pause txID pushable left
      core.pollLoop txID pushable left

/-- Polls until the transaction settles or the attempts are used up. -/
def pollForResult (core : SignerCore) (txID : String) (pushable : Bool) :
    HttpProg Context Error TransactionStatusResponse :=
  core.pollLoop txID pushable core.maxPollAttempts

/-- What one poll reply says. -/
def pollVerdict (txID : String) (pushable : Bool) (reply : Reply) :
    Except Error (Option TransactionStatusResponse) :=
  getOutcome (sendRequest "fordefi" reply) >>= pollState txID pushable

variable {core : SignerCore} {txID : String} {pushable : Bool} {left : ℕ}
variable {answers : ℕ → Reply} {w : World Request Reply Context}

theorem pollLoop_blind : (core.pollLoop txID pushable left).Blind := by
  induction left with
  | zero => exact blind_fail
  | succ left ih =>
    refine exchange_blind.bind fun response => blind_ofExcept.bind fun settled => ?_
    cases settled with
    | some settled => exact blind_pure
    | none => exact pause_blind.bind fun _ => ih

theorem pollLoop_asks :
    (core.pollLoop txID pushable left).Asks fun req => core.getRequest txID = .ok req := by
  induction left with
  | zero => exact asks_fail
  | succ left ih =>
    refine (exchange_asks fun _ formed => formed).bind fun response =>
      asks_ofExcept.bind fun settled => ?_
    cases settled with
    | some settled => exact asks_pure
    | none => exact pause_asks.bind fun _ => ih

/-- One attempt of the loop, by its reply. -/
theorem pollLoop_succ_run {req : Request} (formed : core.getRequest txID = .ok req) :
    (core.pollLoop txID pushable (left + 1)).run answers w =
      match pollVerdict txID pushable (answers w.asked) with
      | .error err => (.error err, w.heard req (answers w.asked))
      | .ok (some settled) => (.ok settled, w.heard req (answers w.asked))
      | .ok none => (pause txID pushable left >>= fun _ => core.pollLoop txID pushable left).run
          answers (w.heard req (answers w.asked)) := by
  rw [pollLoop, run_bind, getTransaction, exchange_run, formed, pollVerdict]
  simp only
  cases getOutcome (sendRequest "fordefi" (answers w.asked)) with
  | error err => rfl
  | ok response =>
    simp only [bind, Except.bind]
    cases pollState txID pushable response with
    | error err => rfl
    | ok settled => cases settled <;> rfl

/-- The loop returns exactly when one of its replies settles the transaction, the
earlier ones leave it pending and no wait before is cut short. -/
theorem pollLoop_fst_eq_ok {req : Request} {result : TransactionStatusResponse}
    (formed : core.getRequest txID = .ok req) :
    ((core.pollLoop txID pushable left).run answers w).1 = .ok result ↔
      ∃ k < left, (∀ i < k, pollVerdict txID pushable (answers (w.asked + i)) = .ok none ∧
          w.state.endsIn i = false) ∧
        pollVerdict txID pushable (answers (w.asked + k)) = .ok (some result) := by
  induction left generalizing w with
  | zero =>
    change Except.error _ = _ ↔ _
    simp
  | succ left ih =>
    rw [pollLoop_succ_run formed, exists_lt_succ_first, Nat.add_zero]
    cases judged : pollVerdict txID pushable (answers w.asked) with
    | error err => simp
    | ok settled =>
      cases settled with
      | some settled => simp
      | none =>
        cases left with
        | zero =>
          change Except.error _ = _ ↔ _
          simp
        | succ left =>
          obtain ⟨err, paused⟩ :=
            pause_succ_run txID pushable left answers (w.heard req (answers w.asked))
          simp only [run_bind, paused]
          cases ends : w.state.endsIn 0 with
          | true => simp [ends]
          | false =>
            simp only [World.heard_state, ends, Bool.false_eq_true, if_false]
            rw [ih]
            simp [World.asked, Context.waited, Nat.add_assoc, Nat.add_comm 1]

end

end SignerCore

/-! ## The native auto signer -/

/-- `type|priority_level|unit_price|priority_fee`. -/
def canonicalFee : Option Fee → String
  | none => ""
  | some fee =>
    fee.type ++ "|" ++ fee.priorityLevel ++ "|" ++ fee.unitPrice ++ "|" ++ fee.priorityFee

/-- Binds a native key to the terms the create carries. -/
def nativeIdempotencyKey [Packages] (pushMode : PushMode) (chain : Chain) (vaultID : String)
    (fee : Option Fee) (messageBytes : Bytes) : String :=
  idempotencyKeyFromMessage (utf8 ("fordefi:solana:" ++ pushMode.text ++ ":" ++ chain.text ++ ":" ++
    vaultID ++ ":" ++ canonicalFee fee ++ ":") ++ messageBytes)

/-- Decodes the wire transaction of a native response and verifies the vault's
signature against the message those bytes carry. -/
def extractAndVerifyRewritten [Packages] (result : TransactionStatusResponse) (pubkey : Pubkey) :
    Except Error (VersionedTransaction × Signature) := do
  require (result.rawTransaction ≠ "") (newSignerError .signingFailed
    "Fordefi solana_transaction response missing raw_transaction")
  let wireBytes ← (Packages.base64Decode result.rawTransaction).mapError fun _ =>
    newSignerError .serializationError "failed to decode raw_transaction base64"
  let returned ← (Packages.transactionFromBytes wireBytes).mapError fun _ =>
    newSignerError .serializationError "failed to deserialize Fordefi wire transaction"
  let position ← signingPosition returned pubkey
  let signature ← okOr returned.signatures[position]? (newSignerError .signingFailed
    "Fordefi signature slot missing from returned transaction")
  let returnedMessage ← (Packages.marshalMessage returned.message).mapError fun _ =>
    newSignerError .serializationError "failed to serialize Fordefi-returned transaction message"
  require (Packages.verifyEd25519 pubkey returnedMessage signature) (newSignerError .signingFailed
    "signature verification failed against Fordefi-returned message")
  pure (returned, signature)

structure NativeAutoSigner where
  core : SignerCore
  chain : Chain
  fee : Option Fee

namespace NativeAutoSigner

section

variable [Packages]

/-- Native auto-broadcast submits message bytes only. -/
def requireSoleRequiredSigner (signer : NativeAutoSigner) (tx : VersionedTransaction) :
    Except Error Unit := do
  require (tx.message.numRequired = 1 ∧
      tx.message.staticAccountKeys.head? = some signer.core.pubkey)
    (newSignerError .signingFailed
      "Fordefi native auto-broadcast currently supports only transactions whose sole required signer is the configured vault")
  require (tx.signatures.all (· == Signature.default))
    (newSignerError .signingFailed
      "Fordefi native auto-broadcast must run before any transaction signatures are applied")

def transactionRequest (signer : NativeAutoSigner) (messageBytes : Bytes) : Value :=
  .object [
    ("vault_id", .string signer.core.vaultID), ("signer_type", .string "api_signer"),
    ("sign_mode", .string "auto"), ("type", .string "solana_transaction"),
    ("details", .object ([
      ("type", .string "solana_serialized_transaction_message"),
      ("chain", .string signer.chain.text),
      ("data", .string (Packages.base64Encode messageBytes)),
      ("push_mode", .string PushMode.auto.text)] ++
      (signer.fee.map Fee.toValue).toList.map (("fee", ·))))]

/-- The key of the create of these message bytes. -/
def keyOfMessage (signer : NativeAutoSigner) (messageBytes : Bytes) : String :=
  nativeIdempotencyKey .auto signer.chain signer.core.vaultID signer.fee messageBytes

/-- The fee payer's signature of the landed transaction, read from slot 0 and
verified in its own right. -/
def broadcastSignature (signer : NativeAutoSigner) (result : TransactionStatusResponse) :
    Except Error Signature := do
  let (returned, _) ← extractAndVerifyRewritten result signer.core.pubkey
  let missingFeePayerSignature := newSignerError .signingFailed
    "Fordefi wire transaction carries no fee-payer signature to identify the broadcast by"
  let signature ← okOr (returned.signatures.head?.filter (· != Signature.default))
    missingFeePayerSignature
  let feePayer ← okOr returned.message.staticAccountKeys.head? missingFeePayerSignature
  let returnedMessage ← messageBytes returned
  require (Packages.verifyEd25519 feePayer returnedMessage signature)
    (newSignerError .signingFailed
      "Fordefi fee-payer signature does not verify against the returned message")
  pure signature

/-- Any failure after the submit was accepted. -/
def afterAccept (txID : String) (err : Error) : Error :=
  SignerError.toError (newBroadcastUnconfirmedError txID err.detail)

section

variable [Unmarshal IDObject] [Unmarshal TransactionStatusResponse]

def finishNativeBroadcast (signer : NativeAutoSigner) (txID : String) :
    HttpProg Context Error Signature := do
  let result ← signer.core.pollForResult txID true
  ofExcept (signer.broadcastSignature result)

/-- The first half of `signTransactionNative`, up to the accepted submit. -/
def submit (signer : NativeAutoSigner) (tx : VersionedTransaction) :
    HttpProg Context Error String := do
  ofExcept (signer.requireSoleRequiredSigner tx)
  let messageBytes ← ofExcept (messageBytes tx)
  signer.core.submitTransaction (signer.transactionRequest messageBytes)
    (signer.keyOfMessage messageBytes) true

/-- `signTransactionNative`; of the signed transaction only the signature is
returned by `SignAndSendTransaction`. -/
def signTransactionNative (signer : NativeAutoSigner) (tx : VersionedTransaction) :
    HttpProg Context Error Signature := do
  let txID ← signer.submit tx
  (signer.finishNativeBroadcast txID).mapError (afterAccept txID)

def signAndSendTransaction (signer : NativeAutoSigner) (tx : VersionedTransaction) :
    HttpProg Context Error Signature :=
  signer.signTransactionNative tx

end

/-! ## Its plan -/

section

variable (signer : NativeAutoSigner) (tx : VersionedTransaction)

/-- The key of the create of this transaction. -/
def idempotencyKey : String :=
  signer.keyOfMessage ((messageBytes tx).toOption.getD [])

/-- The payload the request signer is handed for this transaction. -/
def requestPayload : Except Error Bytes := do
  signer.requireSoleRequiredSigner tx
  let messageBytes ← messageBytes tx
  let body ← SignerCore.marshalRequest (signer.transactionRequest messageBytes)
  pure (SignerCore.signedPayload SignerCore.transactionsPath Packages.unixMilli body)

/-- The create, or why it was not sent. -/
def prepare : Except Error Request := do
  signer.requireSoleRequiredSigner tx
  let messageBytes ← messageBytes tx
  signer.core.submission (signer.transactionRequest messageBytes)
    (signer.keyOfMessage messageBytes)

/-- What a submit makes of its reply. -/
def submitVerdict [Unmarshal IDObject] (reply : Reply) : Except Error String :=
  SignerCore.submitOutcome (SignerCore.classify (signer.idempotencyKey tx) true)
    (sendRequest "fordefi" reply)

variable [Unmarshal IDObject] [Unmarshal TransactionStatusResponse]

/-- The plan of `signTransactionNative` in a context. -/
def nativePlan (ctx : Context) : Broadcast.Plan Error String Signature where
  prepare := signer.prepare tx
  verdict := signer.submitVerdict tx
  followUp txID request := signer.core.getRequest txID = .ok request
  finish txID answers :=
    ((signer.finishNativeBroadcast txID).run answers (.start ctx)).1.mapError (afterAccept txID)

end

section

variable {signer : NativeAutoSigner} {tx : VersionedTransaction}

section

variable [Unmarshal TransactionStatusResponse]

theorem finishNativeBroadcast_blind {txID : String} :
    (signer.finishNativeBroadcast txID).Blind :=
  SignerCore.pollLoop_blind.bind fun _ => blind_ofExcept

theorem finishNativeBroadcast_asks {txID : String} :
    (signer.finishNativeBroadcast txID).Asks fun req => signer.core.getRequest txID = .ok req :=
  SignerCore.pollLoop_asks.bind fun _ => asks_ofExcept

end

/-- The submit, by the stages of the plan. -/
theorem submit_run [Unmarshal IDObject] [Unmarshal TransactionStatusResponse]
    {answers : ℕ → Reply} {w : World Request Reply Context} {ctx : Context} :
    (signer.submit tx).run answers w =
      (signer.nativePlan tx ctx).submitted (answers w.asked) w := by
  unfold submit Broadcast.Plan.submitted nativePlan prepare
  cases signer.requireSoleRequiredSigner tx with
  | error err => rfl
  | ok _ =>
    cases serialized : messageBytes tx with
    | error err => rfl
    | ok bytes =>
      have key : signer.idempotencyKey tx = signer.keyOfMessage bytes := by
        simp [idempotencyKey, serialized, Except.toOption]
      change (signer.core.submitTransaction _ _ _).run answers w = _
      have verdict : signer.submitVerdict tx = fun reply => SignerCore.submitOutcome
          (SignerCore.classify (signer.keyOfMessage bytes) true) (sendRequest "fordefi" reply) := by
        funext reply
        rw [submitVerdict, key]
      rw [SignerCore.submitTransaction, exchange_run, verdict]
      simp only [bind, Except.bind]
      cases signer.core.submission (signer.transactionRequest bytes)
        (signer.keyOfMessage bytes) <;> rfl

variable (signer tx) in
/-- Every run follows the plan. -/
theorem signTransactionNative_course [Unmarshal IDObject] [Unmarshal TransactionStatusResponse]
    (answers : ℕ → Reply) (ctx : Context) :
    Broadcast.Course (signer.nativePlan tx ctx) answers
      ((signer.signTransactionNative tx).run answers (.start ctx)).1
      ((signer.signTransactionNative tx).run answers (.start ctx)).2.log := by
  refine .of_stages (signer.nativePlan tx ctx) (signer.submit tx) _ ctx ?_ ?_ ?_ answers
  · exact fun answers w => submit_run
  · exact fun txID => finishNativeBroadcast_asks.mapError
  · intro txID answers w same
    rw [run_mapError, finishNativeBroadcast_blind.fst_eq, same]
    rfl

/-! ## Its keys -/

theorem newRequest_eq_ok {core : SignerCore} {method : Method} {path body : String}
    {req : Request} (formed : core.newRequest method path body = .ok req) :
    req = ⟨method, core.apiBaseURL ++ path, [("Authorization", "Bearer " ++ core.accessToken)],
      body⟩ := by
  unfold SignerCore.newRequest at formed
  simp only at formed
  split at formed
  · cases formed
  · cases formed
    rfl

theorem newRequest_plain {core : SignerCore} {method : Method} {path body : String} :
    Plain (core.newRequest method path body) := by
  unfold SignerCore.newRequest
  simp only
  split
  · exact plain_error (by simp)
  · exact plain_ok

omit [Packages] in
theorem requireSoleRequiredSigner_plain : Plain (signer.requireSoleRequiredSigner tx) :=
  (plain_require (by simp)).bind fun _ => plain_require (by simp)

theorem idempotencyKey_ne : signer.idempotencyKey tx ≠ "" := idempotencyKeyFromMessage_ne

/-- A prepared create carries the key of its transaction. -/
theorem lookup_of_prepare {req : Request} (prepared : signer.prepare tx = .ok req) :
    req.headers.lookup "x-idempotence-id" = some (signer.idempotencyKey tx) := by
  obtain ⟨_, -, prepared⟩ := bind_eq_ok.mp prepared
  obtain ⟨bytes, serialized, prepared⟩ := bind_eq_ok.mp prepared
  have key : signer.idempotencyKey tx = signer.keyOfMessage bytes := by
    simp [idempotencyKey, serialized, Except.toOption]
  obtain ⟨body, -, prepared⟩ := bind_eq_ok.mp prepared
  obtain ⟨signature, -, prepared⟩ := bind_eq_ok.mp prepared
  obtain ⟨built, formed, prepared⟩ := bind_eq_ok.mp prepared
  cases newRequest_eq_ok formed
  cases prepared
  have named : signer.keyOfMessage bytes ≠ "" := idempotencyKeyFromMessage_ne
  rw [key, if_pos named]
  rfl

/-- The submit's own errors are unconfirmed under the key of the transaction, or
not at all. -/
theorem key_of_submitVerdict [Unmarshal IDObject] {reply : Reply} {err : Error}
    {outcome : Broadcast.Outcome} (judged : signer.submitVerdict tx reply = .error err)
    (unconfirmed : err.unconfirmed? = some outcome) :
    outcome.idempotencyKey = some (signer.idempotencyKey tx) := by
  have classified : ∀ status id e,
      SignerCore.classify (signer.idempotencyKey tx) true status id e = err →
      (Reply.isRejection status → e.unconfirmed? = none) →
      outcome.idempotencyKey = some (signer.idempotencyKey tx) := by
    intro status id e same plain
    subst same
    exact key_of_unconfirmedUnlessRejected unconfirmed plain idempotencyKey_ne
  unfold submitVerdict SignerCore.submitOutcome at judged
  split at judged
  · next failed =>
    refine classified _ _ _ (Except.error.inj judged) fun rejected => ?_
    rw [status_eq_zero_of_err failed] at rejected
    exact absurd rejected (by decide)
  split at judged
  · split at judged
    · exact classified _ _ _ (Except.error.inj judged) fun _ => by simp
    split at judged
    · exact classified _ _ _ (Except.error.inj judged) fun _ => by simp
    · cases judged
  · exact classified _ _ _ (Except.error.inj judged) fun _ => by simp [newRemoteAPIError]

variable (signer tx) in
/-- A rejected submit is reported as such exactly when its body can be read. -/
theorem submitVerdict_of_isRejection [Unmarshal IDObject] {status : ℕ} (body : BodyStream)
    (rejected : Reply.isRejection status) :
    ∃ err, signer.submitVerdict tx (.response status body) = .error err ∧
      (err.codeOf = some .remoteAPIError ↔ Readable body) := by
  rcases sendRequest_response "fordefi" status body with
    ⟨readable, sent⟩ | ⟨unreadable, err, sent⟩
  · have failed : Reply.isSuccess status = false := Reply.not_isSuccess_of_isRejection rejected
    refine ⟨newRemoteAPIError "API error" status body.bytes, ?_, fun _ => readable, fun _ => rfl⟩
    rw [submitVerdict, sent, SignerCore.submitOutcome]
    simp only [failed]
    exact congrArg Except.error (unconfirmedUnlessRejected_of_isRejection rejected)
  · refine ⟨unconfirmedUnlessRejected 0 "" (signer.idempotencyKey tx) err, ?_,
      fun code => ?_, fun readable => absurd readable unreadable⟩
    · rw [submitVerdict, sent]
      rfl
    · rw [unconfirmedUnlessRejected_of_not_isRejection (by decide)] at code
      cases code

theorem nativePlan_keyed [Unmarshal IDObject] [Unmarshal TransactionStatusResponse]
    {ctx : Context} :
    (signer.nativePlan tx ctx).Keyed Error.unconfirmed? "x-idempotence-id"
      (signer.idempotencyKey tx) where
  create _ prepared := lookup_of_prepare prepared
  verdict _ _ _ judged unconfirmed := key_of_submitVerdict judged unconfirmed

/-- Only the request signer can fail a create that was not sent as unconfirmed. -/
theorem prepare_unconfirmed_iff {err : Error} {outcome : Broadcast.Outcome}
    (unconfirmed : err.unconfirmed? = some outcome) :
    signer.prepare tx = .error err ↔
      ∃ payload, signer.requestPayload tx = .ok payload ∧
        signer.core.requestSigner payload = .error err := by
  have reported : err.unconfirmed? ≠ none := by simp [unconfirmed]
  constructor
  · intro failed
    rcases bind_eq_error.mp failed with early | ⟨_, valid, failed⟩
    · exact absurd (requireSoleRequiredSigner_plain err early) reported
    rcases bind_eq_error.mp failed with early | ⟨bytes, serialized, failed⟩
    · exact absurd (messageBytes_plain err early) reported
    rcases bind_eq_error.mp failed with early | ⟨body, marshalled, failed⟩
    · exact absurd (plain_mapError (fun _ => by simp) err early) reported
    rcases bind_eq_error.mp failed with unsigned | ⟨signature, -, failed⟩
    · refine ⟨_, ?_, unsigned⟩
      simp only [requestPayload, valid, serialized, marshalled, bind, Except.bind, pure,
        Except.pure]
    · rcases bind_eq_error.mp failed with late | ⟨req, -, done⟩
      · exact absurd (newRequest_plain err late) reported
      · cases done
  · intro unsigned
    obtain ⟨payload, formed, unsigned⟩ := unsigned
    obtain ⟨_, valid, formed⟩ := bind_eq_ok.mp formed
    obtain ⟨bytes, serialized, formed⟩ := bind_eq_ok.mp formed
    obtain ⟨body, marshalled, formed⟩ := bind_eq_ok.mp formed
    cases formed
    simp only [prepare, valid, serialized, SignerCore.submission, marshalled,
      SignerCore.signRequest, unsigned, bind, Except.bind]

/-- An accepted create is confirmed: the poll can be formed, one of its replies
completes the transaction with a verified fee payer's signature, the earlier ones
leave it pending and no wait before is cut short. -/
def Confirms [Unmarshal TransactionStatusResponse] (signer : NativeAutoSigner) (ctx : Context)
    (txID : String) (answers : ℕ → Reply) : Prop :=
  (∃ req, signer.core.getRequest txID = .ok req) ∧
    ∃ k < signer.core.maxPollAttempts,
      (∀ i < k, SignerCore.pollVerdict txID true (answers i) = .ok none ∧
        ctx.endsIn i = false) ∧
      ∃ result signature, SignerCore.pollVerdict txID true (answers k) = .ok (some result) ∧
        signer.broadcastSignature result = .ok signature

variable (tx) in
theorem exists_finish_eq_ok [Unmarshal IDObject] [Unmarshal TransactionStatusResponse]
    {ctx : Context} {txID : String} {answers : ℕ → Reply} :
    (∃ signature, (signer.nativePlan tx ctx).finish txID answers = .ok signature) ↔
      signer.Confirms ctx txID answers := by
  have finished : ∀ signature, (signer.nativePlan tx ctx).finish txID answers = .ok signature ↔
      ∃ result, ((signer.core.pollForResult txID true).run answers (.start ctx)).1 = .ok result ∧
        signer.broadcastSignature result = .ok signature := by
    intro signature
    change Except.mapError _ _ = _ ↔ _
    rw [mapError_eq_ok, finishNativeBroadcast, run_bind_ofExcept_fst, bind_eq_ok]
  simp only [finished]
  cases formed : signer.core.getRequest txID with
  | error err =>
    obtain ⟨attempts, positive⟩ : ∃ n, signer.core.maxPollAttempts = n + 1 :=
      Nat.exists_eq_succ_of_ne_zero (Nat.pos_iff_ne_zero.mp signer.core.maxPollAttempts_pos)
    have unsent : ((signer.core.pollForResult txID true).run answers (.start ctx)).1 =
        .error err := by
      rw [SignerCore.pollForResult, positive, SignerCore.pollLoop, run_bind,
        SignerCore.getTransaction, exchange_run, formed]
    simp [unsent, Confirms, formed]
  | ok req =>
    simp only [SignerCore.pollForResult, SignerCore.pollLoop_fst_eq_ok formed, World.start_asked,
      World.start_state, Nat.zero_add]
    constructor
    · intro given
      rcases given with ⟨signature, result, ⟨k, bound, before, settled⟩, extracted⟩
      exact ⟨⟨req, formed⟩, k, bound, before, result, signature, settled, extracted⟩
    · intro given
      rcases given with ⟨-, k, bound, before, result, signature, settled, extracted⟩
      exact ⟨signature, result, ⟨k, bound, before, settled⟩, extracted⟩

/-- An unconfirmed broadcast that the request signer itself reports names a key. -/
def RequestSignerKeyed (signer : NativeAutoSigner) (tx : VersionedTransaction) : Prop :=
  ∀ payload err outcome, signer.requestPayload tx = .ok payload →
    signer.core.requestSigner payload = .error err → err.unconfirmed? = some outcome →
    outcome.idempotencyKey.isSome

/-- An unconfirmed outcome carries the key exactly when an accepted create is
confirmed: the error of any later failure has no key. -/
theorem signTransactionNative_keyCarried_iff [Unmarshal IDObject]
    [Unmarshal TransactionStatusResponse] {answers : ℕ → Reply} {ctx : Context} :
    Broadcast.KeyCarried Error.unconfirmed? "x-idempotence-id"
        ((signer.signTransactionNative tx).run answers (.start ctx)).2.log
        ((signer.signTransactionNative tx).run answers (.start ctx)).1 ↔
      signer.RequestSignerKeyed tx ∧
        ∀ create txID, signer.prepare tx = .ok create →
          signer.submitVerdict tx (answers 0) = .ok txID →
          signer.Confirms ctx txID (fun i => answers (i + 1)) := by
  rw [(signer.signTransactionNative_course tx answers ctx).keyCarried_iff nativePlan_keyed]
  refine and_congr ⟨?_, ?_⟩ ?_
  · intro keyed payload err outcome formed failed unconfirmed
    exact keyed err outcome
      ((prepare_unconfirmed_iff unconfirmed).mpr ⟨payload, formed, failed⟩) unconfirmed
  · intro keyed err outcome failed unconfirmed
    obtain ⟨payload, formed, failed⟩ := (prepare_unconfirmed_iff unconfirmed).mp failed
    exact keyed payload err outcome formed failed unconfirmed
  · refine forall_congr' fun create => forall_congr' fun txID => forall_congr' fun prepared =>
      forall_congr' fun accepted => ?_
    rw [← exists_finish_eq_ok tx]
    constructor
    · intro keyed
      cases finished : (signer.nativePlan tx ctx).finish txID (fun i => answers (i + 1)) with
      | ok signature => exact ⟨signature, rfl⟩
      | error err =>
        obtain ⟨e, -, rfl⟩ := mapError_eq_error.mp finished
        cases keyed _ ⟨Error.present txID, none⟩ finished rfl
    · intro landed err outcome failed
      obtain ⟨signature, finished⟩ := landed
      rw [finished] at failed
      cases failed

end

end

end NativeAutoSigner

end Keychain.Go.Fordefi
