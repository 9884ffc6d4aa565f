import Keychain.Python.TransactionUtil

/-!
`fordefi/signer.py`: `FordefiNativeAutoSigner`, which posts a create with push mode
`auto`, polls it and reads the landed transaction's signature.

`signTransactionNative_course` places every run on the plan `nativePlan`.
-/

namespace Keychain.Python.Fordefi

open Prog

/-- `FordefiNativeAutoSigner` after `__init__`. A `requestSigner` is any
`FordefiRequestSigner`. -/
structure FordefiNativeAutoSigner where
  accessToken : String
  vaultId : String
  requestSigner : Bytes → Except Raised String
  apiBaseUrl : String
  publicKey : Pubkey
  maxPollAttempts : ℕ
  chain : String
  /-- The fee configuration, passed through verbatim. -/
  fee : Option Dict
  /-- Whether a slot was configured. -/
  pendingTransactionId : Bool
  accessToken_ne : accessToken ≠ ""
  vaultId_ne : vaultId ≠ ""
  maxPollAttempts_pos : 0 < maxPollAttempts
  chain_supported : chain = "solana_devnet" ∨ chain = "solana_mainnet"

def noFeePayerSignature : String :=
  "Fordefi wire transaction carries no fee-payer signature to identify the broadcast by"

def transactionsPath : String := "/api/v1/transactions"

def terminalFailureStates : List Str :=
  ["aborted", "cancelled", "completed_reverted", "dropped", "error_pushing_to_blockchain",
    "error_signing", "insufficient_funds", "mined_reverted"].map Str.ofString

section

variable [Modules]

/-- `type|priority_level|unit_price|priority_fee`, each through `str`. -/
def canonicalFee : Option Dict → Except Exc Str
  | none => .ok ""
  | some fee => do
    let field (name : String) : Except Exc Str :=
      str ((fee.lookup (Str.ofString name)).getD (.string ""))
    let type ← field "type"
    let priorityLevel ← field "priority_level"
    let unitPrice ← field "unit_price"
    let priorityFee ← field "priority_fee"
    pure (type ++ Str.ofString "|" ++ priorityLevel ++ Str.ofString "|" ++ unitPrice ++
      Str.ofString "|" ++ priorityFee)

namespace FordefiNativeAutoSigner

/-! ## The create -/

def requireSoleRequiredSigner (signer : FordefiNativeAutoSigner)
    (transaction : VersionedTransaction) : Except Raised Unit :=
  if transaction.message.numRequired ≠ 1 ∨
      transaction.message.staticAccountKeys.head? ≠ some signer.publicKey then
    raiseSignerError .signingFailed (Str.ofString
      ("Fordefi native auto-broadcast currently supports only transactions " ++
        "whose sole required signer is the configured vault"))
  else if transaction.signatures.any (· != Signature.default) then
    raiseSignerError .signingFailed (Str.ofString
      "Fordefi native auto-broadcast must run before any transaction signatures are applied")
  else
    .ok ()

def solanaTransactionRequest (signer : FordefiNativeAutoSigner) (data : Bytes) : Value :=
  let text (s : String) : Value := .string (Str.ofString s)
  let details : Dict := [
    ("type", text "solana_serialized_transaction_message"), ("chain", text signer.chain),
    ("data", text (Modules.b64encode data)), ("push_mode", text "auto")]
  let fee : Dict := signer.fee.toList.map fun fee => (Str.ofString "fee", .object fee)
  .object [
    ("vault_id", text signer.vaultId), ("signer_type", text "api_signer"),
    ("sign_mode", text "auto"), ("type", text "solana_transaction"),
    ("details", .object (details ++ fee))]

def nativeIdempotenceId (signer : FordefiNativeAutoSigner) (messageData : Bytes) :
    Except Exc String := do
  let fee ← canonicalFee signer.fee
  let keyNamespace ← encode (Str.ofString ("fordefi:solana:auto:" ++ signer.chain ++ ":" ++
    signer.vaultId ++ ":") ++ fee ++ Str.ofString ":")
  pure (idempotencyKeyFromMessage (keyNamespace ++ messageData))

/-- The signed create, without sending it. -/
def prepareTransactionPost (signer : FordefiNativeAutoSigner) (request : Value)
    (idempotenceId : String) : Except Raised Request := do
  let body ← uncaught (Modules.jsonDumpsCompact request)
  let timestamp := Modules.timestampMs
  let signature ← signer.requestSigner
    (utf8 (transactionsPath ++ "|" ++ toString timestamp ++ "|" ++ body))
  pure {
    method := .post
    url := signer.apiBaseUrl ++ transactionsPath
    headers := [("Authorization", "Bearer " ++ signer.accessToken),
      ("Content-Type", "application/json"), ("x-signature", signature),
      ("x-timestamp", toString timestamp), ("x-idempotence-id", idempotenceId)]
    body }

/-- The id of the response to a create. -/
def createdId : Value → Except Raised Str
  | .object members =>
    match Dict.get members "id" with
    | .string transactionId =>
      if transactionId.isBlank then
        raiseSignerError .serializationError (Str.ofString "Failed to parse response")
      else
        .ok transactionId
    | _ => raiseSignerError .serializationError (Str.ofString "Failed to parse response")
  | _ => raiseSignerError .serializationError (Str.ofString "Failed to parse response")

/-! ## Polling -/

/-- How a response in this state settles the transaction. A `list` or a `dict` is
not hashable, so asking whether a set of states holds it raises. -/
def stateOutcome (transactionId : Str) (response : Dict) : Value → Except Raised (Option Dict)
  | .array _ => .error (.exception (.typeError "unhashable type: 'list'"))
  | .object _ => .error (.exception (.typeError "unhashable type: 'dict'"))
  | .string state =>
    if state = Str.ofString "completed" then
      .ok (some response)
    else if terminalFailureStates.contains state then
      raiseSignerError .signingFailed (Str.ofString "Transaction " ++ transactionId ++
        Str.ofString " reached terminal state: " ++ state)
    else
      .ok none
  | _ => .ok none

/-- The body of the loop of `_poll_for_result` for a pushable transaction, after the
response arrived. -/
def pollOutcome (transactionId : Str) : Value → Except Raised (Option Dict)
  | .object response => stateOutcome transactionId response (Dict.get response "state")
  | _ => raiseSignerError .serializationError (Str.ofString "Failed to parse response")

def pollRequest (signer : FordefiNativeAutoSigner) (transactionId : Str) :
    Except Exc Request := do
  let quoted ← quote "" transactionId
  pure {
    method := .get
    url := signer.apiBaseUrl ++ "/api/v1/transactions/" ++ quoted
    headers := [("Authorization", "Bearer " ++ signer.accessToken)]
    body := "" }

def pollTimeout (signer : FordefiNativeAutoSigner) (transactionId : Str) : Raised :=
  .signerError {
    code := .remoteApiError
    detail := Str.ofString ("Polling timeout after " ++ toString signer.maxPollAttempts ++
      " attempts")
    providerTransactionId := some transactionId }

def pollForResult {σ : Type} (signer : FordefiNativeAutoSigner) (transactionId : Str) :
    HttpProg σ Raised Dict :=
  retry (signer.pollTimeout transactionId)
    (exchange "Fordefi" (uncaught (signer.pollRequest transactionId)) (pollOutcome transactionId))
    signer.maxPollAttempts

/-! ## The result -/

/-- The transaction a completed response carries. -/
def rawTransaction (result : Dict) : Except Raised VersionedTransaction :=
  match Dict.get result "raw_transaction" with
  | .string rawTransaction =>
    match Modules.b64decode rawTransaction with
    | none =>
      raiseSignerError .serializationError
        (Str.ofString "Failed to decode raw_transaction base64")
    | some wireBytes =>
      match Modules.transactionFromBytes wireBytes with
      | none =>
        raiseSignerError .serializationError
          (Str.ofString "Failed to deserialize Fordefi wire transaction")
      | some returned => .ok returned
  | _ =>
    raiseSignerError .signingFailed
      (Str.ofString "Fordefi solana_transaction response missing raw_transaction")

/-- The fee payer's signature, which identifies the broadcast and is verified in its
own right. -/
def feePayerSignature (returned : VersionedTransaction) : Except Raised Signature :=
  match returned.signatures.head?, returned.message.staticAccountKeys.head? with
  | some first, some feePayer =>
    if first = Signature.default then
      raiseSignerError .signingFailed (Str.ofString noFeePayerSignature)
    else do
      verifyReturnedSignature first feePayer (signedMessageBytes returned.message)
      pure first
  | _, _ => raiseSignerError .signingFailed (Str.ofString noFeePayerSignature)

/-- The part of `_finish_native_broadcast` after the poll. -/
def broadcastSignature (signer : FordefiNativeAutoSigner) (result : Dict) :
    Except Raised Signature := do
  let returned ← rawTransaction result
  let position ← getSigningKeypairPosition returned signer.publicKey
  match returned.signatures[position]? with
  | none =>
    raiseSignerError .signingFailed
      (Str.ofString "Fordefi signature slot missing from returned transaction")
  | some signature =>
    verifyReturnedSignature signature signer.publicKey (signedMessageBytes returned.message)
    feePayerSignature returned

/-! ## The call -/

def finishNativeBroadcast {σ : Type} (signer : FordefiNativeAutoSigner) (transactionId : Str) :
    HttpProg σ Raised Signature := do
  let result ← signer.pollForResult transactionId
  ofExcept (signer.broadcastSignature result)

/-- The signed create with its key, before anything is sent. -/
def signedCreate (signer : FordefiNativeAutoSigner) (transaction : VersionedTransaction) :
    Except Raised (String × Request) := do
  signer.requireSoleRequiredSigner transaction
  let messageData := signedMessageBytes transaction.message
  let idempotencyKey ← uncaught (signer.nativeIdempotenceId messageData)
  let post ← signer.prepareTransactionPost (signer.solanaTransactionRequest messageData)
    idempotencyKey
  pure (idempotencyKey, post)

/-- `_sign_transaction_native`, as far as it is not cancelled. -/
def signTransactionNative (signer : FordefiNativeAutoSigner) (transaction : VersionedTransaction) :
    HttpProg PendingTransactionId Raised Signature := do
  let (idempotencyKey, post) ← ofExcept (signer.signedCreate transaction)
  let transactionId ← (exchange "Fordefi" (.ok post) createdId).mapError
    (classifyCreate idempotencyKey)
  settleAccepted signer.pendingTransactionId transactionId idempotencyKey
    (signer.finishNativeBroadcast transactionId)

def signAndSendTransaction (signer : FordefiNativeAutoSigner)
    (transaction : VersionedTransaction) : HttpProg PendingTransactionId Raised Signature :=
  signer.signTransactionNative transaction

/-! ## Its plan -/

section

variable (signer : FordefiNativeAutoSigner) (transaction : VersionedTransaction)

/-- The key of the create of this transaction. -/
def idempotencyKey : String :=
  (signer.nativeIdempotenceId (signedMessageBytes transaction.message)).toOption.getD ""

/-- The create, or why it was not sent. -/
def prepare : Except Raised Request := do
  let (_, post) ← signer.signedCreate transaction
  sendable (.ok post)

/-- What a create makes of its reply. -/
def createVerdict (reply : Reply) : Except Raised Str :=
  (receivedJson "Fordefi" reply >>= createdId).mapError
    (classifyCreate (signer.idempotencyKey transaction))

/-- The plan of `signTransactionNative`. -/
def nativePlan : Broadcast.Plan Raised Str Signature where
  prepare := signer.prepare transaction
  verdict := signer.createVerdict transaction
  followUp transactionId request := uncaught (signer.pollRequest transactionId) = .ok request
  finish transactionId answers :=
    ((signer.finishNativeBroadcast transactionId).run answers
      (.start (⟨[]⟩ : PendingTransactionId))).1.mapError
        (afterAccept transactionId (signer.idempotencyKey transaction))

end

section

variable {signer : FordefiNativeAutoSigner} {transaction : VersionedTransaction}

theorem finishNativeBroadcast_oblivious {σ : Type} {transactionId : Str} :
    (signer.finishNativeBroadcast transactionId : HttpProg σ Raised Signature).Oblivious :=
  (exchange_oblivious.retry _).bind fun _ => oblivious_ofExcept

theorem finishNativeBroadcast_asks {σ : Type} {transactionId : Str} :
    (signer.finishNativeBroadcast transactionId : HttpProg σ Raised Signature).Asks
      fun request => uncaught (signer.pollRequest transactionId) = .ok request :=
  ((exchange_asks fun _ formed => formed).retry _).bind fun _ => asks_ofExcept

/-- A signed create carries the key of its transaction. -/
theorem signedCreate_eq_ok {key : String} {post : Request}
    (signed : signer.signedCreate transaction = .ok (key, post)) :
    key = signer.idempotencyKey transaction ∧
      post.headers.lookup "x-idempotence-id" = some key := by
  obtain ⟨_, -, signed⟩ := bind_eq_ok.mp signed
  obtain ⟨derived, named, signed⟩ := bind_eq_ok.mp signed
  obtain ⟨sent, prepared, signed⟩ := bind_eq_ok.mp signed
  cases signed
  refine ⟨by simp [idempotencyKey, mapError_eq_ok.mp named, Except.toOption], ?_⟩
  obtain ⟨body, -, prepared⟩ := bind_eq_ok.mp prepared
  obtain ⟨signature, -, prepared⟩ := bind_eq_ok.mp prepared
  cases prepared
  rfl

/-- The submit of a signed create, by the stages of the plan. -/
theorem submit_run (answers : ℕ → Reply) (w : World Request Reply PendingTransactionId)
    {post : Request}
    (signed : signer.signedCreate transaction = .ok (signer.idempotencyKey transaction, post)) :
    ((exchange "Fordefi" (.ok post) createdId).mapError
      (classifyCreate (signer.idempotencyKey transaction))).run answers w =
        (signer.nativePlan transaction).submitted (answers w.asked) w := by
  have prepared : (signer.nativePlan transaction).prepare = sendable (.ok post) := by
    simp [nativePlan, prepare, signed, bind, Except.bind]
  rw [run_mapError, exchange_run, Broadcast.Plan.submitted, prepared]
  cases unsent : sendable (.ok post) with
  | ok sent => rfl
  | error raised =>
    obtain ⟨e, rfl⟩ : ∃ e, raised = .exception e := by
      change sendable (uncaught (.ok post)) = _ at unsent
      exact sendable_uncaught unsent
    rfl

variable (signer transaction) in
/-- Every run follows the plan. -/
theorem signTransactionNative_course (answers : ℕ → Reply) (slot : PendingTransactionId) :
    Broadcast.Course (signer.nativePlan transaction) answers
      ((signer.signTransactionNative transaction).run answers (.start slot)).1
      ((signer.signTransactionNative transaction).run answers (.start slot)).2.log := by
  rw [signTransactionNative]
  cases signed : signer.signedCreate transaction with
  | error raised =>
    refine .unsent ?_
    simp [nativePlan, prepare, signed, bind, Except.bind]
  | ok both =>
    obtain ⟨key, post⟩ := both
    obtain ⟨rfl, -⟩ := signedCreate_eq_ok signed
    simp only [ofExcept_ok_bind]
    refine .of_stages (signer.nativePlan transaction) _ _ slot ?_ ?_ ?_ answers
    · exact fun answers w => submit_run answers w signed
    · exact fun transactionId => settleAccepted_asks finishNativeBroadcast_asks
    · exact fun transactionId answers w _ => settleAccepted_fst finishNativeBroadcast_oblivious

/-! ## What escapes an accepted create -/

/-- The judgement of a poll's reply. -/
def pollVerdict (transactionId : Str) (reply : Reply) : Except Raised (Option Dict) :=
  receivedJson "Fordefi" reply >>= pollOutcome transactionId

/-- The state of a response cannot be hashed. -/
def UnhashableState (response : Dict) : Prop :=
  (∃ items, Dict.get response "state" = .array items) ∨
    ∃ members, Dict.get response "state" = .object members

/-- The reply raises past the handlers: its JSON value cannot be formed, or it is an
object whose state cannot be hashed. -/
def Trips (reply : Reply) : Prop :=
  Throws (receivedJson "Fordefi" reply) ∨
    ∃ response, receivedJson "Fordefi" reply = .ok (.object response) ∧ UnhashableState response

theorem throws_pollVerdict {transactionId : Str} {reply : Reply} :
    Throws (pollVerdict transactionId reply) ↔ Trips reply := by
  have judged : ∀ value, Throws (pollOutcome transactionId value) ↔
      ∃ response, value = .object response ∧ UnhashableState response := by
    intro value
    cases value with
    | object response =>
      simp only [pollOutcome, Json.object.injEq, exists_eq_left', UnhashableState]
      cases Dict.get response "state" with
      | string state =>
        simp only [stateOutcome]
        split_ifs <;> simp
      | _ => simp [stateOutcome]
    | _ => simp [pollOutcome]
  rw [pollVerdict, throws_bind, Trips]
  simp only [judged]
  constructor
  · intro given
    rcases given with early | ⟨value, received, response, rfl, unhashable⟩
    · exact .inl early
    · exact .inr ⟨response, received, unhashable⟩
  · intro given
    rcases given with early | ⟨response, received, unhashable⟩
    · exact .inl early
    · exact .inr ⟨_, received, response, rfl, unhashable⟩

theorem broadcastSignature_not_throws {result : Dict} :
    ¬ Throws (signer.broadcastSignature result) := by
  have decoded : ¬ Throws (rawTransaction result) := by
    unfold rawTransaction
    split
    · split
      · simp
      · split <;> simp
    · simp
  have paid : ∀ returned, ¬ Throws (feePayerSignature returned) := by
    intro returned
    unfold feePayerSignature
    split
    · split
      · simp
      · exact not_throws_bind verifyReturnedSignature_not_throws fun _ => throws_ok
    · simp
  refine not_throws_bind decoded fun returned => ?_
  refine not_throws_bind getSigningKeypairPosition_not_throws fun position => ?_
  split
  · simp
  · exact not_throws_bind verifyReturnedSignature_not_throws fun _ => paid returned

/-- An accepted create escapes: its poll cannot be sent, or some reply within the
budget trips and every earlier one is pending. -/
def Escapes (signer : FordefiNativeAutoSigner) (transactionId : Str) (answers : ℕ → Reply) :
    Prop :=
  Unsendable (signer.pollRequest transactionId) ∨
    ∃ k < signer.maxPollAttempts,
      (∀ i < k, pollVerdict transactionId (answers i) = .ok none) ∧ Trips (answers k)

theorem finishNativeBroadcast_throws {σ : Type} {transactionId : Str} {answers : ℕ → Reply}
    {s : σ} :
    Throws ((signer.finishNativeBroadcast transactionId).run answers (.start s)).1 ↔
      signer.Escapes transactionId answers := by
  rw [finishNativeBroadcast, run_bind_ofExcept_fst, throws_bind]
  have noLate : ¬ ∃ result, ((signer.pollForResult transactionId).run answers (.start s)).1 =
      .ok result ∧ Throws (signer.broadcastSignature result) := by
    intro given
    rcases given with ⟨result, -, late⟩
    exact broadcastSignature_not_throws late
  rw [or_iff_left noLate, Escapes, ← throws_sendable_uncaught, pollForResult]
  cases formed : sendable (uncaught (signer.pollRequest transactionId)) with
  | error raised =>
    obtain ⟨e, rfl⟩ := sendable_uncaught formed
    obtain ⟨attempts, counted⟩ :=
      Nat.exists_eq_succ_of_ne_zero (Nat.ne_of_gt signer.maxPollAttempts_pos)
    rw [counted, retry, run_bind, exchange_run, formed]
    simp
  | ok sent =>
    have consults : (exchange "Fordefi" (uncaught (signer.pollRequest transactionId))
        (pollOutcome transactionId) : HttpProg σ Raised _).Consults sent
          (pollVerdict transactionId) := by
      intro answers w
      rw [exchange_run, formed]
      rfl
    rw [consults.retry_fst]
    simp only [pollTimeout, throws_settle, throws_pollVerdict, throws_ok, false_or,
      World.start_asked, Nat.zero_add]

variable (signer transaction) in
/-- A call whose create was accepted concludes exactly when nothing escapes. -/
theorem signAndSendTransaction_concluded_iff (answers : ℕ → Reply) (slot : PendingTransactionId)
    {create : Request} {transactionId : Str} (prepared : signer.prepare transaction = .ok create)
    (accepted : signer.createVerdict transaction (answers 0) = .ok transactionId) :
    Concluded slot "x-idempotence-id" create transactionId
      ((signer.signAndSendTransaction transaction).run answers (.start slot)) ↔
      ¬ signer.Escapes transactionId fun i => answers (i + 1) := by
  obtain ⟨⟨key, post⟩, signed, sent⟩ := bind_eq_ok.mp prepared
  obtain ⟨rfl, keyed⟩ := signedCreate_eq_ok signed
  cases sendable_eq_ok sent
  have submitted := submit_run answers (.start slot) signed
  rw [World.start_asked, Broadcast.Plan.submitted_of_accepted prepared accepted] at submitted
  rw [signAndSendTransaction, signTransactionNative, signed, ofExcept_ok_bind,
    ← finishNativeBroadcast_throws]
  exact submit_concluded_iff submitted rfl finishNativeBroadcast_oblivious keyed

end

end FordefiNativeAutoSigner

end

end Keychain.Python.Fordefi
