import Keychain.Rust.Fordefi.NativeAuto
import Keychain.Rust.Crossmint.Managed

/-!
The idempotency key in the unconfirmed outcomes of the two Rust sending signers.

Crossmint sets it wherever it builds such an error. Fordefi sets it for a create
that was not accepted and leaves it out afterwards, so there the key is carried
exactly when an accepted create is confirmed.
-/

namespace Keychain.Rust

/-! ## Fordefi -/

namespace Fordefi.FordefiNativeAutoSigner

open Prog

variable [Crates] {signer : FordefiNativeAutoSigner} {transaction : VersionedTransaction}

/-- The payload the request signer is handed for this transaction. -/
def requestPayload (signer : FordefiNativeAutoSigner) (transaction : VersionedTransaction) :
    Except SignerError Bytes := do
  signer.validateTransaction transaction
  let body ← (Crates.jsonToString (signer.core.solanaTransactionRequest signer.chain signer.fee
    .auto (Crates.serializeMessage transaction.message))).mapError .serializationError
  let millis ← Crates.unixMillis.mapError fun e => .other s!"System time error: {e}"
  pure (utf8 s!"{FordefiCore.path}|{millis % UInt64.size}|{body}")

/-- An unconfirmed broadcast that the request signer itself reports names a key. -/
def RequestSignerKeyed (signer : FordefiNativeAutoSigner) (transaction : VersionedTransaction) :
    Prop :=
  ∀ payload outcome, signer.requestPayload transaction = .ok payload →
    signer.core.requestSigner payload = .error (.broadcastUnconfirmed outcome) →
    outcome.idempotencyKey.isSome

/-- Only the request signer can fail the forming of a create as unconfirmed. -/
theorem signedCreate_unconfirmed_iff {outcome : Unconfirmed} :
    signer.signedCreate transaction = .error (.broadcastUnconfirmed outcome) ↔
      ∃ payload, signer.requestPayload transaction = .ok payload ∧
        signer.core.requestSigner payload = .error (.broadcastUnconfirmed outcome) := by
  constructor
  · intro failed
    rcases bind_eq_error.mp failed with early | ⟨_, valid, failed⟩
    · rcases bind_eq_error.mp early with first | ⟨_, -, second⟩
      · cases (require_eq_error.mp first).2
      · cases (require_eq_error.mp second).2
    rcases bind_eq_error.mp failed with early | ⟨body, printed, failed⟩
    · obtain ⟨_, -, other⟩ := mapError_eq_error.mp early
      cases other
    rcases bind_eq_error.mp failed with early | ⟨millis, clock, failed⟩
    · obtain ⟨_, -, other⟩ := mapError_eq_error.mp early
      cases other
    rcases bind_eq_error.mp failed with unsigned | ⟨signature, -, done⟩
    · refine ⟨_, ?_, unsigned⟩
      simp only [requestPayload, valid, printed, clock, bind, Except.bind, pure, Except.pure]
    · cases done
  · intro unsigned
    obtain ⟨payload, formed, unsigned⟩ := unsigned
    obtain ⟨_, valid, formed⟩ := bind_eq_ok.mp formed
    obtain ⟨body, printed, formed⟩ := bind_eq_ok.mp formed
    obtain ⟨millis, clock, formed⟩ := bind_eq_ok.mp formed
    cases formed
    simp only [signedCreate, valid, FordefiCore.submission, printed, clock,
      FordefiCore.signRequest, unsigned, bind, Except.bind]

/-- The unconfirmed errors of a create that was not sent: those of the request
signer, and that of a request that could not be formed, which names the key. -/
theorem prepare_unconfirmed {outcome : Unconfirmed}
    (failed : signer.prepare transaction = .error (.broadcastUnconfirmed outcome)) :
    signer.signedCreate transaction = .error (.broadcastUnconfirmed outcome) ∨
      outcome.idempotencyKey = some (signer.idempotencyKey transaction) := by
  rcases bind_eq_error.mp failed with unsigned | ⟨create, -, unsent⟩
  · exact .inl unsigned
  · obtain ⟨e, -, classified⟩ := mapError_eq_error.mp unsent
    have same : SignerError.broadcastUnconfirmed _ = .broadcastUnconfirmed outcome :=
      unconfirmedUnlessRejected_none.symm.trans classified
    cases same
    exact .inr rfl

section

variable [FromSlice CreateTransactionResponse] [FromSlice TransactionStatusResponse]

theorem broadcastPlan_keyed :
    (signer.broadcastPlan transaction).Keyed signer.reading.unconfirmed? "x-idempotence-id"
      (signer.idempotencyKey transaction) where
  create request prepared := by
    obtain ⟨signed, signedOk, formed⟩ := bind_eq_ok.mp prepared
    have same : signed = request :=
      Except.ok.inj (sendable_eq_ok.mp (mapError_eq_ok.mp formed)).1
    obtain ⟨_, -, submitted⟩ := bind_eq_ok.mp signedOk
    obtain ⟨body, -, submitted⟩ := bind_eq_ok.mp submitted
    obtain ⟨millis, -, submitted⟩ := bind_eq_ok.mp submitted
    obtain ⟨signature, -, submitted⟩ := bind_eq_ok.mp submitted
    cases submitted
    subst same
    rfl
  verdict reply error outcome judged unconfirmed := by
    by_cases rejects : reply.Rejects
    · obtain ⟨status, body, rfl, rejected⟩ := rejects
      cases (submitVerdict_of_isRejection rejected).symm.trans judged
      cases unconfirmed
    · obtain ⟨reported, rfl, key, -⟩ := submitVerdict_unconfirmed judged rejects
      cases unconfirmed
      exact key

omit [FromSlice CreateTransactionResponse] in
/-- An accepted create is confirmed: the poll can be formed, one of its replies
completes the transaction with a verified fee payer's signature, and the earlier
ones leave it pending. -/
def Confirms (signer : FordefiNativeAutoSigner) (txId : String) (answers : ℕ → Reply) : Prop :=
  Crates.builderError (signer.core.pollRequest txId) = none ∧
    ∃ k < signer.core.maxPollAttempts,
      (∀ i < k, pollVerdict txId (answers i) = .ok .pending) ∧
      ∃ result signature, pollVerdict txId (answers k) = .ok (.done result) ∧
        signer.broadcastSignature result = .ok signature

omit [FromSlice CreateTransactionResponse] in
theorem exists_finishOutcome_eq_ok {txId : String} {answers : ℕ → Reply} :
    (∃ signature, signer.finishOutcome txId answers = .ok signature) ↔
      signer.Confirms txId answers := by
  unfold finishOutcome Confirms
  cases Crates.builderError (signer.core.pollRequest txId) with
  | some e => simp
  | none =>
    simp only [bind_eq_ok, settle_eq_ok_iff, true_and]
    constructor
    · intro given
      rcases given with ⟨signature, result, ⟨k, bound, before, settled⟩, extracted⟩
      exact ⟨k, bound, before, result, signature, settled, extracted⟩
    · intro given
      rcases given with ⟨k, bound, before, result, signature, settled, extracted⟩
      exact ⟨signature, result, ⟨k, bound, before, settled⟩, extracted⟩

/-- An unconfirmed outcome carries the key exactly when an accepted create is
confirmed: the error of any later failure has no key. -/
theorem signAndBroadcast_keyCarried_iff {answers : ℕ → Reply} {slot : PendingTransactionId} :
    Broadcast.KeyCarried signer.reading.unconfirmed? "x-idempotence-id"
        ((signer.signAndBroadcast transaction).run answers (.start slot)).2.log
        ((signer.signAndBroadcast transaction).run answers (.start slot)).1 ↔
      signer.RequestSignerKeyed transaction ∧
        ∀ create txId, signer.prepare transaction = .ok create →
          FordefiCore.submitVerdict (signer.classify transaction) (answers 0) = .ok txId →
          signer.Confirms txId (fun i => answers (i + 1)) := by
  rw [(signer.signAndBroadcast_course transaction answers slot).keyCarried_iff
    broadcastPlan_keyed]
  refine and_congr ⟨?_, ?_⟩ ?_
  · intro keyed payload outcome formed failed
    have unsigned : signer.prepare transaction = .error (.broadcastUnconfirmed outcome) := by
      rw [prepare, signedCreate_unconfirmed_iff.mpr ⟨payload, formed, failed⟩]
      rfl
    exact keyed _ _ unsigned rfl
  · intro keyed error outcome failed unconfirmed
    obtain ⟨reported, found, rfl⟩ := Option.map_eq_some_iff.mp unconfirmed
    cases SignerError.eq_broadcastUnconfirmed_of_unconfirmed? found
    rcases prepare_unconfirmed failed with unsigned | named
    · obtain ⟨payload, formed, failed⟩ := signedCreate_unconfirmed_iff.mp unsigned
      exact keyed payload reported formed failed
    · exact Option.isSome_iff_exists.mpr ⟨_, named⟩
  · refine forall_congr' fun create => forall_congr' fun txId => forall_congr' fun prepared =>
      forall_congr' fun accepted => ?_
    rw [← exists_finishOutcome_eq_ok]
    constructor
    · intro keyed
      cases finished : signer.finishOutcome txId (fun i => answers (i + 1)) with
      | ok signature => exact ⟨signature, rfl⟩
      | error error =>
        have failed : (signer.broadcastPlan transaction).finish txId (fun i => answers (i + 1)) =
            .error (afterAccept txId error) := mapError_eq_error.mpr ⟨error, finished, rfl⟩
        cases keyed _ ⟨some txId, none⟩ failed rfl
    · intro landed error outcome failed
      obtain ⟨signature, finished⟩ := landed
      obtain ⟨e, failed, -⟩ := mapError_eq_error.mp failed
      rw [finished] at failed
      cases failed

end

end Fordefi.FordefiNativeAutoSigner

/-! ## Crossmint -/

namespace Crossmint.CrossmintSigner

open Prog

variable [Crates] {signer : CrossmintSigner} {transaction : VersionedTransaction}

variable (signer transaction) in
/-- A rejected create fails with an error of its own, whatever its body. -/
theorem createVerdict_of_isRejection {status : ℕ} (body : BodyStream)
    (rejected : Reply.isRejection status) :
    ∃ error, signer.createVerdict transaction (.response status body) = .error error ∧
      error.unconfirmed? = none := by
  have atLeast : 400 ≤ status := (Reply.isRejection_iff.mp rejected).1
  change ∃ error, createOutcome _ ⟨status, body⟩ = _ ∧ _
  rw [createOutcome_eq]
  cases read : readJsonValue ⟨status, body⟩ with
  | error e =>
    refine ⟨e, by simp only [unconfirmedUnlessRejected_of_isRejection rejected], ?_⟩
    rcases bind_eq_error.mp read with unread | ⟨bytes, -, parsed⟩
    · rw [readBodyCapped_eq] at unread
      split at unread
      · cases unread
        rfl
      · split at unread <;> cases unread
        rfl
    · split at parsed <;> cases parsed
  | ok value =>
    have refused : valueToTyped TransactionResponse.fromValue status value "id"
        "create_transaction" = .error (.remoteApi _) := if_pos atLeast
    simp only [refused, mapError_error, unconfirmedUnlessRejected_of_isRejection rejected]
    exact ⟨_, rfl, rfl⟩

theorem managedPlan_keyed :
    (signer.managedPlan transaction).Keyed signer.reading.unconfirmed? "x-idempotency-key"
      (signer.idempotencyKey transaction) where
  create request prepared := by
    obtain ⟨publicKey, -, prepared⟩ := bind_eq_ok.mp prepared
    obtain ⟨serialized, -, prepared⟩ := bind_eq_ok.mp prepared
    obtain ⟨url, -, prepared⟩ := bind_eq_ok.mp prepared
    obtain ⟨built, -⟩ := sendable_eq_ok.mp (mapError_eq_ok.mp prepared)
    obtain ⟨body, -, built⟩ := bind_eq_ok.mp built
    cases built
    rfl
  verdict reply error outcome judged unconfirmed := by
    by_cases rejects : reply.Rejects
    · obtain ⟨status, body, rfl, rejected⟩ := rejects
      obtain ⟨e, refused, plain⟩ :=
        signer.createVerdict_of_isRejection transaction body rejected
      have same : e = error := Except.error.inj (refused.symm.trans judged)
      rw [same] at plain
      change Option.map _ error.unconfirmed? = _ at unconfirmed
      rw [plain] at unconfirmed
      cases unconfirmed
    · obtain ⟨reported, rfl, key, -⟩ := createVerdict_unconfirmed judged rejects
      cases unconfirmed
      exact key

/-- Every unconfirmed outcome names the key of its create. -/
theorem executeManagedTransaction_keyCarried {answers : ℕ → Reply}
    {slot : PendingTransactionId} :
    Broadcast.KeyCarried signer.reading.unconfirmed? "x-idempotency-key"
      ((signer.executeManagedTransaction transaction).run answers (.start slot)).2.log
      ((signer.executeManagedTransaction transaction).run answers (.start slot)).1 := by
  rw [(signer.executeManagedTransaction_course transaction answers slot).keyCarried_iff
    managedPlan_keyed]
  refine ⟨?_, ?_⟩
  · intro error outcome failed unconfirmed
    obtain ⟨reported, found, rfl⟩ := Option.map_eq_some_iff.mp unconfirmed
    cases SignerError.eq_broadcastUnconfirmed_of_unconfirmed? found
    rcases bind_eq_error.mp failed with early | ⟨publicKey, -, failed⟩
    · unfold initializedPubkey at early
      split at early <;> cases early
    rcases bind_eq_error.mp failed with early | ⟨serialized, -, failed⟩
    · obtain ⟨_, -, other⟩ := mapError_eq_error.mp early
      cases other
    rcases bind_eq_error.mp failed with early | ⟨url, -, failed⟩
    · rcases bind_eq_error.mp early with unparsed | ⟨base, -, unusable⟩
      · obtain ⟨_, -, other⟩ := mapError_eq_error.mp unparsed
        cases other
      · rcases bind_eq_error.mp unusable with other | ⟨_, -, done⟩
        · cases (require_eq_error.mp other).2
        · cases done
    · obtain ⟨e, -, classified⟩ := mapError_eq_error.mp failed
      have same : SignerError.broadcastUnconfirmed _ = .broadcastUnconfirmed reported :=
        unconfirmedUnlessRejected_none.symm.trans classified
      cases same
      rfl
  · intro create created _ _ error outcome failed unconfirmed
    obtain ⟨e, -, rfl⟩ := mapError_eq_error.mp failed
    cases unconfirmed
    rfl

end Crossmint.CrossmintSigner

end Keychain.Rust
