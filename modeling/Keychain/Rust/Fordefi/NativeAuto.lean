import Keychain.Broadcast
import Keychain.Rust.Fordefi.Core

/-!
`FordefiNativeAutoSigner`: a create with `push_mode: "auto"` is broadcast by
Fordefi, so the signer submits, polls and reads the landed transaction's
signature from the response.

`signAndBroadcast_course` places every run on the plan `broadcastPlan`, and
`broadcastPlan_honest` is the promise of `Keychain.Broadcast` stage by stage.
-/

namespace Keychain.Rust.Fordefi

open Prog

structure FordefiNativeAutoSigner where
  core : FordefiCore
  chain : SolanaChainUniqueId
  fee : Option FordefiSolanaFee
  /-- Whether a slot was registered by `with_pending_transaction_id`. -/
  pendingTransactionId : Bool

namespace FordefiNativeAutoSigner

/-! ## The signer -/

/-- Native auto-broadcast submits message bytes only: the vault has to be the
sole required signer and no signature may be present yet. -/
def validateTransaction (signer : FordefiNativeAutoSigner) (transaction : VersionedTransaction) :
    Except SignerError Unit := do
  require (transaction.message.numRequired = 1 ∧
      transaction.message.staticAccountKeys.head? = some signer.core.publicKey)
    (.signingFailed "Fordefi native auto-broadcast currently supports only transactions whose sole required signer is the configured vault")
  require (transaction.signatures.all (· == Signature.default))
    (.signingFailed "Fordefi native auto-broadcast must run before any transaction signatures are applied")

section

variable [Crates] [FromSlice CreateTransactionResponse] [FromSlice TransactionStatusResponse]

/-- The fee payer's signature of the transaction a completed response carries,
verified over the returned message. -/
def broadcastSignature (signer : FordefiNativeAutoSigner) (result : TransactionStatusResponse) :
    Except SignerError Signature := do
  let wireBytes ← FordefiCore.decodeRawTransaction result
  let (returned, _) ← extractAndVerifyRewrittenTransaction wireBytes signer.core.publicKey
  let missingFeePayerSignature : SignerError := .signingFailed
    "Fordefi wire transaction carries no fee-payer signature to identify the broadcast by"
  let signature ← okOr (returned.signatures.head?.filter (· != Signature.default))
    missingFeePayerSignature
  let feePayer ← okOr returned.message.staticAccountKeys.head? missingFeePayerSignature
  verifyOrReject signature feePayer (Crates.serializeMessage returned.message)
  pure signature

/-- The broadcast is identified by the fee payer's signature, which is read from
slot 0 rather than from the vault's own slot. -/
def finishBroadcast {σ : Type} (signer : FordefiNativeAutoSigner) (txId : String) :
    HttpProg σ SignerError Signature := do
  let result ← signer.core.pollForResult txId true
  ofExcept (signer.broadcastSignature result)

/-- Any failure after the submit was accepted. -/
def afterAccept (txId : String) (error : SignerError) : SignerError :=
  .broadcastUnconfirmed {
    providerTxId := some txId
    providerStatus := none
    idempotencyKey := none
    transactionSignature := none
    detail := error.detailString }

/-- Sign and broadcast: submit, poll, parse the wire transaction. -/
def signAndBroadcast (signer : FordefiNativeAutoSigner) (transaction : VersionedTransaction) :
    HttpProg PendingTransactionId SignerError Signature := do
  ofExcept (signer.validateTransaction transaction)
  let messageData := Crates.serializeMessage transaction.message
  let txId ← signer.core.submitSolanaTransaction signer.chain signer.fee .auto messageData
  modifyState fun slot => if signer.pendingTransactionId then slot.set txId else slot
  finallyModify (fun slot => if signer.pendingTransactionId then slot.clear txId else slot)
    ((signer.finishBroadcast txId).mapError (afterAccept txId))

def signAndSendTransaction (signer : FordefiNativeAutoSigner)
    (transaction : VersionedTransaction) : HttpProg PendingTransactionId SignerError Signature :=
  signer.signAndBroadcast transaction

end

/-! ## Its plan -/

section

variable [Crates] [FromSlice CreateTransactionResponse] [FromSlice TransactionStatusResponse]
variable (signer : FordefiNativeAutoSigner) (transaction : VersionedTransaction)

/-- The key the create of this transaction is sent with. -/
def idempotencyKey : String :=
  idempotencyKeyFromMessage
    (signer.core.namespacedKeyInput signer.chain signer.fee .auto
      (Crates.serializeMessage transaction.message))

/-- A failed create is classified under the key it was sent with. -/
def classify : Option ℕ → Option String → SignerError → SignerError :=
  FordefiCore.classify (some (signer.idempotencyKey transaction)) true

/-- The create as it goes to the request signer and comes back signed. -/
def signedCreate : Except SignerError Request := do
  signer.validateTransaction transaction
  signer.core.submission
    (signer.core.solanaTransactionRequest signer.chain signer.fee .auto
      (Crates.serializeMessage transaction.message))
    (some (signer.idempotencyKey transaction))

/-- The create, or why it was not sent. -/
def prepare : Except SignerError Request := do
  let create ← signer.signedCreate transaction
  (sendable (.ok create)).mapError (signer.classify transaction none none)

/-- What one poll reply says. -/
def pollVerdict (txId : String) (reply : Reply) :
    Except SignerError (PollOutcome TransactionStatusResponse) :=
  received reply >>= FordefiCore.pollOutcome txId true

/-- The result of the follow-ups, by the answers to them. -/
def finishOutcome (txId : String) (answers : ℕ → Reply) : Except SignerError Signature :=
  match Crates.builderError (signer.core.pollRequest txId) with
  | some e => .error (.httpError e)
  | none =>
    settle (signer.core.pollTimeout txId) (pollVerdict txId) answers signer.core.maxPollAttempts
      >>= signer.broadcastSignature

/-- The plan of `signAndBroadcast`. -/
def broadcastPlan : Broadcast.Plan SignerError String Signature where
  prepare := signer.prepare transaction
  verdict := FordefiCore.submitVerdict (signer.classify transaction)
  followUp txId request := request = signer.core.pollRequest txId
  finish txId answers := (signer.finishOutcome txId answers).mapError (afterAccept txId)

end

section

variable [Crates] [FromSlice TransactionStatusResponse] {signer : FordefiNativeAutoSigner}

theorem finishBroadcast_asks {σ : Type} {txId : String} :
    (signer.finishBroadcast txId : HttpProg σ SignerError Signature).Asks
      (fun request => request = signer.core.pollRequest txId) := by
  have attempt : (signer.core.pollAttempt txId true : HttpProg σ _ _).Asks
      (fun request => request = signer.core.pollRequest txId) := by
    refine asks_exchange fun sent formed => ?_
    exact (Except.ok.inj formed).symm
  exact (attempt.retry _).bind fun _ => asks_ofExcept

/-- The attempts of a poll whose request can be formed consult Fordefi once each. -/
theorem pollAttempt_consults {σ : Type} {txId : String}
    (formed : Crates.builderError (signer.core.pollRequest txId) = none) :
    (signer.core.pollAttempt txId true : HttpProg σ _ _).Consults
      (signer.core.pollRequest txId) (pollVerdict txId) :=
  consults_exchange formed

theorem finishBroadcast_fst {σ : Type} {txId : String} {answers : ℕ → Reply}
    {w : World Request Reply σ} :
    ((signer.finishBroadcast txId).run answers w).1 =
      signer.finishOutcome txId (fun i => answers (w.asked + i)) := by
  rw [finishBroadcast, run_bind_ofExcept_fst, finishOutcome]
  cases formed : Crates.builderError (signer.core.pollRequest txId) with
  | some e =>
    obtain ⟨n, positive⟩ : ∃ n, signer.core.maxPollAttempts = n + 1 :=
      Nat.exists_eq_succ_of_ne_zero (Nat.pos_iff_ne_zero.mp signer.core.maxPollAttempts_pos)
    have unsent : exchanged (.ok (signer.core.pollRequest txId)) = .error (.httpError e) := by
      simp [exchanged, sendable, Except.mapError, bind, Except.bind, formed, throw, throwThe,
        MonadExceptOf.throw]
    simp only [FordefiCore.pollForResult, pollUntil, positive, retry, FordefiCore.pollAttempt,
      run_bind, exchange_run, unsent]
    rfl
  | none =>
    rw [FordefiCore.pollForResult, pollUntil, (pollAttempt_consults formed).retry_fst]

end

section

variable [Crates] [FromSlice CreateTransactionResponse] [FromSlice TransactionStatusResponse]
variable {signer : FordefiNativeAutoSigner} {transaction : VersionedTransaction}

/-- The submit of a valid transaction, by the stages of the plan. -/
theorem submit_run (answers : ℕ → Reply) (w : World Request Reply PendingTransactionId)
    (valid : signer.validateTransaction transaction = .ok ()) :
    (signer.core.submitSolanaTransaction signer.chain signer.fee .auto
      (Crates.serializeMessage transaction.message)).run answers w =
      (signer.broadcastPlan transaction).submitted (answers w.asked) w := by
  have submit : signer.core.submitSolanaTransaction signer.chain signer.fee .auto
      (Crates.serializeMessage transaction.message) =
      (signer.core.submitRequest (signer.core.solanaTransactionRequest signer.chain signer.fee
        .auto (Crates.serializeMessage transaction.message))
        (some (signer.idempotencyKey transaction)) true :
          HttpProg PendingTransactionId SignerError String) := rfl
  have created : signer.signedCreate transaction = signer.core.submission
      (signer.core.solanaTransactionRequest signer.chain signer.fee .auto
        (Crates.serializeMessage transaction.message))
      (some (signer.idempotencyKey transaction)) := by
    rw [signedCreate, valid]
    rfl
  have prepared : (signer.broadcastPlan transaction).prepare =
      signer.signedCreate transaction >>= fun create =>
        (sendable (.ok create)).mapError (signer.classify transaction none none) := rfl
  rw [submit, FordefiCore.submitRequest_run, Broadcast.Plan.submitted, prepared, ← created]
  cases signer.signedCreate transaction with
  | error e => rfl
  | ok create =>
    simp only [bind, Except.bind]
    cases sendable (.ok create) <;> rfl

variable (signer transaction) in
/-- Every run follows the plan. -/
theorem signAndBroadcast_course (answers : ℕ → Reply) (slot : PendingTransactionId) :
    Broadcast.Course (signer.broadcastPlan transaction) answers
      ((signer.signAndBroadcast transaction).run answers (.start slot)).1
      ((signer.signAndBroadcast transaction).run answers (.start slot)).2.log := by
  rw [signAndBroadcast]
  cases valid : signer.validateTransaction transaction with
  | error e =>
    refine .unsent ?_
    simp [broadcastPlan, prepare, signedCreate, valid, bind, Except.bind]
  | ok _ =>
    simp only [ofExcept_ok_bind]
    refine .of_stages (signer.broadcastPlan transaction) _ _ slot ?_ ?_ ?_ answers
    · exact fun answers w => submit_run answers w valid
    · exact fun txId =>
        asks_modifyState.bind fun _ => finishBroadcast_asks.mapError.finallyModify
    · intro txId answers w _
      simp only [run_bind, run_modifyState, run_finallyModify, run_mapError, finishBroadcast_fst]
      rfl

omit [FromSlice CreateTransactionResponse] [FromSlice TransactionStatusResponse] in
/-- The broadcast is identified by a signature that is present. -/
theorem broadcastSignature_ne_default {result : TransactionStatusResponse} {signature : Signature}
    (extracted : signer.broadcastSignature result = .ok signature) :
    signature ≠ Signature.default := by
  obtain ⟨wireBytes, -, extracted⟩ := bind_eq_ok.mp extracted
  obtain ⟨⟨returned, own⟩, -, extracted⟩ := bind_eq_ok.mp extracted
  obtain ⟨found, slot, extracted⟩ := bind_eq_ok.mp extracted
  obtain ⟨feePayer, -, extracted⟩ := bind_eq_ok.mp extracted
  obtain ⟨_, -, extracted⟩ := bind_eq_ok.mp extracted
  cases extracted
  have kept := (Option.filter_eq_some_iff.mp (okOr_eq_ok.mp slot)).2
  simpa using kept

/-- A run never returns the default signature. -/
theorem signAndBroadcast_fst_ne_default {answers : ℕ → Reply} {slot : PendingTransactionId} :
    ((signer.signAndBroadcast transaction).run answers (.start slot)).1 ≠
      .ok Signature.default := by
  intro returned
  obtain ⟨_, txId, -, -, finished⟩ :=
    (signer.signAndBroadcast_course transaction answers slot).eq_ok_iff.mp returned
  have finished := mapError_eq_ok.mp finished
  unfold finishOutcome at finished
  split at finished
  · cases finished
  · obtain ⟨result, -, extracted⟩ := bind_eq_ok.mp finished
    exact broadcastSignature_ne_default extracted rfl

/-! ## Its promise -/

/-- The id of an accepted create: the status is no error and the body can be read
and names a transaction, either as the typed response or at its top level. -/
def acceptedId : Reply → Option String
  | .failed _ => none
  | .response status body =>
    if 400 ≤ status then none
    else
      match readBodyCapped body with
      | .error _ => none
      | .ok bytes =>
        match (fromSlice bytes : Except String CreateTransactionResponse) with
        | .ok created =>
          if Reply.isSuccess status && !isBlank created.id then some created.id
          else transactionIdInBody bytes
        | .error _ => transactionIdInBody bytes

/-- How a conversation with Fordefi is read. -/
def reading (signer : FordefiNativeAutoSigner) : Broadcast.Reading SignerError where
  isCreate request :=
    request.method == .post && request.url == signer.core.apiBaseUrl ++ FordefiCore.path
  acceptedId := acceptedId
  unconfirmed? error := error.unconfirmed?.map fun u => ⟨u.providerTxId, u.idempotencyKey⟩

omit [FromSlice TransactionStatusResponse] in
/-- A rejected create fails with the provider's own status, whatever its body. -/
theorem submitVerdict_of_isRejection {status : ℕ} {body : BodyStream}
    (rejected : Reply.isRejection status) :
    FordefiCore.submitVerdict (signer.classify transaction) (.response status body) =
      .error (extractApiError ⟨status, body⟩ "Fordefi API submit_request") := by
  have failed : Reply.isSuccess status = false := Reply.not_isSuccess_of_isRejection rejected
  change FordefiCore.submitOutcome _ ⟨status, body⟩ = _
  rw [FordefiCore.submitOutcome_eq]
  simp [failed, classify, FordefiCore.classify, rejected, extractApiErrorWithTransactionId,
    extractApiErrorWithBody, extractApiError]

omit [FromSlice TransactionStatusResponse] in
/-- A create that failed without being rejected is reported as unconfirmed, under
its key and with the id its response named. -/
theorem submitVerdict_unconfirmed {reply : Reply} {error : SignerError}
    (judged : FordefiCore.submitVerdict (signer.classify transaction) reply = .error error)
    (unresolved : ¬ reply.Rejects) :
    ∃ outcome, error = .broadcastUnconfirmed outcome ∧
      outcome.idempotencyKey = some (signer.idempotencyKey transaction) ∧
      ∀ id, acceptedId reply = some id → outcome.providerTxId = some id := by
  cases reply with
  | failed e =>
    cases judged
    exact ⟨_, unconfirmedUnlessRejected_none, rfl, by simp [acceptedId]⟩
  | response status body =>
    have notRejected : Reply.isRejection status = false := by
      by_contra rejected
      exact unresolved ⟨status, body, rfl, by simpa using rejected⟩
    have classified : ∀ id e, signer.classify transaction (some status) id e =
        .broadcastUnconfirmed ⟨id, if 400 ≤ status then some status else none,
          some (signer.idempotencyKey transaction), none, e.detailString⟩ :=
      fun _ _ => unconfirmedUnlessRejected_of_not_isRejection notRejected
    change FordefiCore.submitOutcome _ ⟨status, body⟩ = _ at judged
    simp only [FordefiCore.submitOutcome_eq, classified] at judged
    by_cases success : Reply.isSuccess status
    · rw [if_pos success] at judged
      cases read : readBodyCapped body with
      | error e =>
        simp only [read, Except.error.injEq] at judged
        exact ⟨_, judged.symm, rfl, by simp [acceptedId, read]⟩
      | ok bytes =>
        simp only [read] at judged
        cases parsed : (fromSlice bytes : Except String CreateTransactionResponse) with
        | error e =>
          simp only [parsed, Except.error.injEq] at judged
          exact ⟨_, judged.symm, rfl, by simp [acceptedId, read, parsed]⟩
        | ok created =>
          simp only [parsed] at judged
          by_cases blank : isBlank created.id
          · simp only [blank, if_true, Except.error.injEq] at judged
            exact ⟨_, judged.symm, rfl, by simp [acceptedId, read, parsed, blank]⟩
          · simp [blank] at judged
    · rw [if_neg success] at judged
      cases judged
      refine ⟨_, rfl, rfl, ?_⟩
      cases read : readBodyCapped body with
      | error e => simp [acceptedId, read]
      | ok bytes =>
        cases parsed : (fromSlice bytes : Except String CreateTransactionResponse) <;>
          simp [acceptedId, read, parsed, success, extractApiErrorWithTransactionId,
            extractApiErrorWithBody]

omit [FromSlice TransactionStatusResponse] in
theorem acceptedId_of_submitVerdict {reply : Reply} {txId : String}
    (judged : FordefiCore.submitVerdict (signer.classify transaction) reply = .ok txId) :
    acceptedId reply = some txId := by
  cases reply with
  | failed e => cases judged
  | response status body =>
    change FordefiCore.submitOutcome _ ⟨status, body⟩ = _ at judged
    rw [FordefiCore.submitOutcome_eq] at judged
    by_cases success : Reply.isSuccess status
    · rw [if_pos success] at judged
      have noError : ¬ 400 ≤ status := by
        simp only [Reply.isSuccess, Bool.and_eq_true, decide_eq_true_eq] at success
        omega
      cases read : readBodyCapped body with
      | error e => simp [read] at judged
      | ok bytes =>
        cases parsed : (fromSlice bytes : Except String CreateTransactionResponse) with
        | error e => simp [read, parsed] at judged
        | ok created =>
          by_cases blank : isBlank created.id
          · simp [read, parsed, blank] at judged
          · simp only [read, parsed, if_neg blank, Except.ok.injEq] at judged
            subst judged
            simp [acceptedId, noError, read, parsed, success, blank]
    · rw [if_neg success] at judged
      cases judged

omit [FromSlice CreateTransactionResponse] [FromSlice TransactionStatusResponse] in
/-- A prepared create is the POST to the transactions collection, under the key. -/
theorem prepare_eq_ok {create : Request} (prepared : signer.prepare transaction = .ok create) :
    create.method = .post ∧ create.url = signer.core.apiBaseUrl ++ FordefiCore.path ∧
      ("x-idempotence-id", signer.idempotencyKey transaction) ∈ create.headers := by
  obtain ⟨signed, signedOk, formed⟩ := bind_eq_ok.mp prepared
  have same : signed = create :=
    Except.ok.inj (sendable_eq_ok.mp (mapError_eq_ok.mp formed)).1
  obtain ⟨_, -, submitted⟩ := bind_eq_ok.mp signedOk
  obtain ⟨body, -, submitted⟩ := bind_eq_ok.mp submitted
  obtain ⟨millis, -, submitted⟩ := bind_eq_ok.mp submitted
  obtain ⟨signature, -, submitted⟩ := bind_eq_ok.mp submitted
  cases submitted
  subst same
  simp

theorem broadcastPlan_honest :
    (signer.broadcastPlan transaction).Honest signer.reading id where
  create request prepared := by
    obtain ⟨method, url, -⟩ := prepare_eq_ok prepared
    simp [reading, method, url]
  followUp txId request polled := by
    cases polled
    simp [reading, FordefiCore.pollRequest]
  refused reply error judged plain := by
    by_contra unresolved
    obtain ⟨outcome, rfl, -⟩ := submitVerdict_unconfirmed judged unresolved
    simp [reading] at plain
  recovered reply error id judged acceptedAs := by
    have unresolved : ¬ reply.Rejects := by
      intro given
      rcases given with ⟨status, body, rfl, rejected⟩
      have atLeast : 400 ≤ status := (Reply.isRejection_iff.mp rejected).1
      simp [reading, acceptedId, atLeast] at acceptedAs
    obtain ⟨outcome, rfl, -, names⟩ := submitVerdict_unconfirmed judged unresolved
    exact ⟨_, rfl, names id acceptedAs⟩
  accepted reply txId judged := acceptedId_of_submitVerdict judged
  finish txId answers error failed := by
    obtain ⟨e, -, rfl⟩ := mapError_eq_error.mp failed
    exact ⟨⟨some txId, none⟩, rfl, rfl⟩

end

end FordefiNativeAutoSigner

end Keychain.Rust.Fordefi
