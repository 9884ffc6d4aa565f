import Keychain.Broadcast
import Keychain.Rust.Crossmint.Signer

/-!
The managed flow of `CrossmintSigner` as a plan of `Keychain.Broadcast`.

`executeManagedTransaction_course` places every run on the plan and
`managedPlan_honest` is the promise stage by stage. `Settles` describes, by the
provider's answers alone, which success response the polling loop ends on.
-/

namespace Keychain.Rust.Crossmint.CrossmintSigner

open Prog

variable [Crates] {σ : Type} {signer : CrossmintSigner} {transaction : VersionedTransaction}

/-! ## Follow-ups -/

/-- The approval this signer owes a response, or why it cannot approve. -/
def approvalRequest (signer : CrossmintSigner) (response : TransactionResponse) :
    Except SignerError Request :=
  match signer.signingKey, signer.signer with
  | some signingKey, some signerLocator => do
    let message ← pendingMessage signerLocator response
    signer.submitApprovalRequest response.id signerLocator message signingKey
  | _, _ => .error awaitingApprovalError

theorem handleAwaitingApproval_eq {response : TransactionResponse} :
    (signer.handleAwaitingApproval response : HttpProg σ SignerError TransactionResponse) =
      exchange (signer.approvalRequest response)
        (parseResponseWithRequiredField TransactionResponse.fromValue "id" "submit_approval") := by
  unfold handleAwaitingApproval approvalRequest
  cases signer.signingKey with
  | none => rfl
  | some signingKey =>
    cases signer.signer with
    | none => rfl
    | some signerLocator =>
      simp only
      cases pendingMessage signerLocator response <;> rfl

theorem pollLoop_oblivious {attempts : ℕ} {approvalSubmitted : Bool}
    {response : TransactionResponse} :
    (signer.pollLoop attempts approvalSubmitted response :
      HttpProg σ SignerError TransactionResponse).Oblivious := by
  induction attempts generalizing approvalSubmitted response with
  | zero => exact oblivious_ofExcept
  | succ attempts ih =>
    unfold pollLoop
    split
    · exact oblivious_pure
    split
    · exact oblivious_fail
    split
    · rw [handleAwaitingApproval_eq]
      exact oblivious_exchange.bind fun _ => ih
    · exact oblivious_exchange.bind fun _ => ih

/-- A follow-up is a GET or the approval of a created transaction. -/
def IsFollowUp (signer : CrossmintSigner) (request : Request) : Prop :=
  request.method = .get ∨
    ∃ id, signer.buildWalletsApiUrl ["transactions", id, "approvals"] = .ok request.url

theorem isFollowUp_of_getRequest {id : String} {request : Request}
    (built : signer.getRequest id = .ok request) : signer.IsFollowUp request := by
  obtain ⟨url, -, rest⟩ := bind_eq_ok.mp built
  cases rest
  exact Or.inl rfl

theorem isFollowUp_of_approvalRequest {response : TransactionResponse} {request : Request}
    (built : signer.approvalRequest response = .ok request) : signer.IsFollowUp request := by
  unfold approvalRequest at built
  split at built
  · obtain ⟨message, -, built⟩ := bind_eq_ok.mp built
    obtain ⟨messageBytes, -, built⟩ := bind_eq_ok.mp built
    obtain ⟨url, located, built⟩ := bind_eq_ok.mp built
    obtain ⟨body, -, built⟩ := bind_eq_ok.mp built
    cases built
    exact Or.inr ⟨_, located⟩
  · cases built

theorem pollLoop_asks {attempts : ℕ} {approvalSubmitted : Bool}
    {response : TransactionResponse} :
    (signer.pollLoop attempts approvalSubmitted response :
      HttpProg σ SignerError TransactionResponse).Asks signer.IsFollowUp := by
  induction attempts generalizing approvalSubmitted response with
  | zero => exact asks_ofExcept
  | succ attempts ih =>
    unfold pollLoop
    split
    · exact asks_pure
    split
    · exact asks_fail
    split
    · rw [handleAwaitingApproval_eq]
      exact (asks_exchange fun _ => isFollowUp_of_approvalRequest).bind fun _ => ih
    · exact (asks_exchange fun _ => isFollowUp_of_getRequest).bind fun _ => ih

/-! ## What the loop settles on -/

/-- What the reply to the approval amounts to. -/
def approvalReply (signer : CrossmintSigner) (response : TransactionResponse) (reply : Reply) :
    Except SignerError TransactionResponse :=
  exchanged (signer.approvalRequest response) >>= fun _ => received reply >>=
    parseResponseWithRequiredField TransactionResponse.fromValue "id" "submit_approval"

/-- What the reply to a poll amounts to. -/
def pollReply (signer : CrossmintSigner) (transactionId : String) (reply : Reply) :
    Except SignerError TransactionResponse :=
  exchanged (signer.getRequest transactionId) >>= fun _ => received reply >>=
    parseResponseWithRequiredField TransactionResponse.fromValue "id" "get_transaction"

/-- `Settles attempts approved response answers final`: from `response`, with so
many attempts left, the provider's answers lead to the success response `final`.
Each answer but the last is that of an approval (the first time one is awaited)
or of a poll, and neither ends the loop. -/
inductive Settles (signer : CrossmintSigner) :
    ℕ → Bool → TransactionResponse → (ℕ → Reply) → TransactionResponse → Prop
  | success {attempts : ℕ} {approved : Bool} {response : TransactionResponse}
      {answers : ℕ → Reply} :
    response.status = "success" → Settles signer attempts approved response answers response
  | approve {attempts : ℕ} {response next final : TransactionResponse} {answers : ℕ → Reply} :
    response.status = "awaiting-approval" →
    signer.approvalReply response (answers 0) = .ok next →
    Settles signer attempts true next (fun i => answers (i + 1)) final →
    Settles signer (attempts + 1) false response answers final
  | poll {attempts : ℕ} {approved : Bool} {response next final : TransactionResponse}
      {answers : ℕ → Reply} :
    response.status ≠ "success" → response.status ≠ "failed" →
    ¬ (response.status = "awaiting-approval" ∧ approved = false) →
    signer.pollReply response.id (answers 0) = .ok next →
    Settles signer attempts approved next (fun i => answers (i + 1)) final →
    Settles signer (attempts + 1) approved response answers final

/-- The first component of an exchange followed by a program. -/
theorem exchange_bind_fst_eq_ok {T α : Type} {request : Except SignerError Request}
    {judge : Response → Except SignerError T} {next : T → HttpProg σ SignerError α}
    {answers : ℕ → Reply} {w : World Request Reply σ} {a : α}
    (oblivious : ∀ t, (next t).Oblivious) :
    ((exchange request judge >>= next).run answers w).1 = .ok a ↔
      ∃ t, (exchanged request >>= fun _ => received (answers w.asked) >>= judge) = .ok t ∧
        ((next t).run (fun i => answers (w.asked + (i + 1))) (.start w.state)).1 = .ok a := by
  rw [run_bind, exchange_run]
  cases exchanged request with
  | error e => simp [bind, Except.bind]
  | ok sent =>
    have whole : (Except.ok sent >>= fun _ => received (answers w.asked) >>= judge) =
      received (answers w.asked) >>= judge := rfl
    rw [whole]
    cases received (answers w.asked) >>= judge with
    | error e => simp
    | ok t =>
      simp only [Except.ok.injEq, exists_eq_left']
      rw [(oblivious t).fst_eq w.state]
      simp [Nat.add_assoc, Nat.add_comm 1]

/-- When the attempts are used up only a transaction that succeeded is returned. -/
theorem pollExhausted_eq_ok {approvalSubmitted : Bool} {response final : TransactionResponse} :
    signer.pollExhausted approvalSubmitted response = .ok final ↔
      response.status = "success" ∧ response = final := by
  unfold pollExhausted
  split
  · next success => simp [success]
  · next other => split_ifs <;> simp [other]

theorem pollLoop_fst_eq_ok {attempts : ℕ} {approvalSubmitted : Bool}
    {response final : TransactionResponse} {answers : ℕ → Reply} {w : World Request Reply σ} :
    ((signer.pollLoop attempts approvalSubmitted response).run answers w).1 = .ok final ↔
      signer.Settles attempts approvalSubmitted response (fun i => answers (w.asked + i))
        final := by
  induction attempts generalizing approvalSubmitted response answers w with
  | zero =>
    change signer.pollExhausted approvalSubmitted response = .ok final ↔ _
    rw [pollExhausted_eq_ok]
    constructor
    · intro given
      rcases given with ⟨success, rfl⟩
      exact .success success
    · intro settles
      cases settles with
      | success success => exact ⟨success, rfl⟩
  | succ attempts ih =>
    unfold pollLoop
    by_cases success : response.status = "success"
    · rw [if_pos success]
      constructor
      · intro same
        cases same
        exact .success success
      · intro settles
        cases settles with
        | success _ => rfl
        | approve awaiting => simp [success] at awaiting
        | poll notSuccess => exact absurd success notSuccess
    rw [if_neg success]
    by_cases failed : response.status = "failed"
    · rw [if_pos failed]
      constructor
      · intro same
        cases same
      · intro settles
        cases settles with
        | success done => exact absurd done success
        | approve awaiting => simp [failed] at awaiting
        | poll _ notFailed => exact absurd failed notFailed
    rw [if_neg failed]
    by_cases owed : response.status = "awaiting-approval" ∧ approvalSubmitted = false
    · rw [if_pos owed, handleAwaitingApproval_eq,
        exchange_bind_fst_eq_ok fun _ => pollLoop_oblivious]
      obtain ⟨awaiting, rfl⟩ := owed
      constructor
      · intro given
        rcases given with ⟨next, replied, settled⟩
        exact .approve awaiting replied (by simpa using ih.mp settled)
      · intro settles
        cases settles with
        | success done => exact absurd done success
        | approve _ replied settled => exact ⟨_, replied, ih.mpr (by simpa using settled)⟩
        | poll _ _ notOwed => exact absurd ⟨awaiting, rfl⟩ notOwed
    · rw [if_neg owed, getTransaction, exchange_bind_fst_eq_ok fun _ => pollLoop_oblivious]
      constructor
      · intro given
        rcases given with ⟨next, replied, settled⟩
        exact .poll success failed owed replied (by simpa using ih.mp settled)
      · intro settles
        cases settles with
        | success done => exact absurd done success
        | approve awaiting => exact absurd ⟨awaiting, rfl⟩ owed
        | poll _ _ _ replied settled => exact ⟨_, replied, ih.mpr (by simpa using settled)⟩

/-! ## Which signature is extracted -/

/-- The text decodes to a transaction that lists its required keys and starts with a
signature: this one, of this fee payer, over these bytes. -/
def Decodes (serialized : String) (signature : Signature) (feePayer : Pubkey)
    (message : Bytes) : Prop :=
  ∃ wire transaction, Crates.bs58Decode serialized = .ok wire ∧
    Crates.deserializeWire wire = .ok transaction ∧
    transaction.message.numRequired ≤ transaction.message.staticAccountKeys.length ∧
    transaction.message.staticAccountKeys.head? = some feePayer ∧
    transaction.signatures.head? = some signature ∧ signature ≠ Signature.default ∧
    message = Crates.serializeMessage transaction.message

theorem feePayerSignature_eq_ok {serialized : String} {signature : Signature}
    {feePayer : Pubkey} {message : Bytes} :
    feePayerSignatureFromSerializedTransaction serialized = .ok (signature, feePayer, message) ↔
      Decodes serialized signature feePayer message := by
  constructor
  · intro extracted
    obtain ⟨wire, decoded, extracted⟩ := bind_eq_ok.mp extracted
    obtain ⟨transaction, read, extracted⟩ := bind_eq_ok.mp extracted
    obtain ⟨_, enough, extracted⟩ := bind_eq_ok.mp extracted
    obtain ⟨payer, listed, extracted⟩ := bind_eq_ok.mp extracted
    obtain ⟨found, slot, extracted⟩ := bind_eq_ok.mp extracted
    cases extracted
    obtain ⟨first, present⟩ := Option.filter_eq_some_iff.mp (okOr_eq_ok.mp slot)
    exact ⟨wire, transaction, mapError_eq_ok.mp decoded,
      mapError_eq_ok.mp (mapError_eq_ok.mp read), require_eq_ok.mp enough,
      okOr_eq_ok.mp listed, first, by simpa using present, rfl⟩
  · intro decodes
    obtain ⟨wire, transaction, decoded, read, enough, listed, first, present, rfl⟩ := decodes
    have slot : transaction.signatures.head?.filter (· != Signature.default) = some signature :=
      Option.filter_eq_some_iff.mpr ⟨first, by simpa using present⟩
    refine bind_eq_ok.mpr ⟨wire, mapError_eq_ok.mpr decoded, bind_eq_ok.mpr
      ⟨transaction, mapError_eq_ok.mpr (mapError_eq_ok.mpr read), bind_eq_ok.mpr
        ⟨(), require_eq_ok.mpr enough, bind_eq_ok.mpr ⟨feePayer, okOr_eq_ok.mpr listed,
          bind_eq_ok.mpr ⟨signature, okOr_eq_ok.mpr slot, rfl⟩⟩⟩⟩⟩

/-- The embedded transaction identifies itself by a signature that is present. -/
theorem feePayerSignature_ne_default {serialized : String} {signature : Signature}
    {feePayer : Pubkey} {message : Bytes}
    (extracted : feePayerSignatureFromSerializedTransaction serialized =
      .ok (signature, feePayer, message)) : signature ≠ Signature.default := by
  obtain ⟨wire, transaction, -, -, -, -, -, present, -⟩ := feePayerSignature_eq_ok.mp extracted
  exact present

/-- The response embeds a transaction that decodes. -/
def Embeds (response : TransactionResponse) (signature : Signature) (feePayer : Pubkey)
    (message : Bytes) : Prop :=
  ∃ onChain serialized, response.onChain = some onChain ∧
    onChain.transaction = some serialized ∧ Decodes serialized signature feePayer message

/-- A response embeds at most one transaction. -/
theorem Embeds.unique {response : TransactionResponse} {signature signature' : Signature}
    {feePayer feePayer' : Pubkey} {message message' : Bytes}
    (embeds : Embeds response signature feePayer message)
    (embeds' : Embeds response signature' feePayer' message') :
    signature = signature' ∧ feePayer = feePayer' ∧ message = message' := by
  obtain ⟨onChain, serialized, given, embedded, decodes⟩ := embeds
  obtain ⟨onChain', serialized', given', embedded', decodes'⟩ := embeds'
  cases given.symm.trans given'
  cases embedded.symm.trans embedded'
  have same := (feePayerSignature_eq_ok.mpr decodes).symm.trans
    (feePayerSignature_eq_ok.mpr decodes')
  simpa using same

/-- The response has a `txId` that spells these bytes. -/
def NamesTxId (response : TransactionResponse) (bytes : Bytes) : Prop :=
  ∃ onChain txId, response.onChain = some onChain ∧ onChain.txId = some txId ∧
    Crates.bs58Decode txId = .ok bytes

theorem signatureFromTxId_eq_ok {txId : String} {signature : Signature} :
    signatureFromTxId txId = .ok signature ↔ Crates.bs58Decode txId = .ok signature.bytes := by
  rw [signatureFromTxId, mapError_eq_ok, signatureFromBase58, signatureFromEncoded]
  cases Crates.bs58Decode txId with
  | error e => simp
  | ok bytes =>
    simp only [signatureFromBytes_eq_ok, Except.ok.injEq]
    exact eq_comm

/-- An embedded transaction that decodes is the answer or an error; the `txId` is not
looked at. -/
theorem extractSignature_of_embeds {response : TransactionResponse} {signature : Signature}
    {feePayer : Pubkey} {message : Bytes}
    (embeds : Embeds response signature feePayer message) :
    extractSignatureFromResponse response =
      (verifyOrReject signature feePayer message).map fun _ => signature := by
  obtain ⟨onChain, serialized, given, embedded, decodes⟩ := embeds
  have extracted := feePayerSignature_eq_ok.mpr decodes
  simp only [extractSignatureFromResponse, given, embedded, Option.map_some, extracted]

/-- Without one the `txId` is the answer. -/
theorem extractSignature_of_not_embeds {response : TransactionResponse} {signature : Signature}
    (bare : ¬ ∃ found feePayer message, Embeds response found feePayer message) :
    extractSignatureFromResponse response = .ok signature ↔
      NamesTxId response signature.bytes := by
  unfold extractSignatureFromResponse NamesTxId
  cases given : response.onChain with
  | none => simp
  | some onChain =>
    rcases onChain with ⟨_ | serialized, _ | txId⟩
    · simp
    · simp [signatureFromTxId_eq_ok]
    · cases extracted : feePayerSignatureFromSerializedTransaction serialized with
      | error e => simp [extracted]
      | ok found =>
        exact absurd ⟨_, _, _, _, _, given, rfl, feePayerSignature_eq_ok.mp extracted⟩ bare
    · cases extracted : feePayerSignatureFromSerializedTransaction serialized with
      | error e => simp [extracted, signatureFromTxId_eq_ok]
      | ok found =>
        exact absurd ⟨_, _, _, _, _, given, rfl, feePayerSignature_eq_ok.mp extracted⟩ bare

/-- An embedded transaction is identified by its own signature, if that verifies. -/
theorem extractSignature_ok_of_embeds {response : TransactionResponse}
    {signature found : Signature} {feePayer : Pubkey} {message : Bytes}
    (embeds : Embeds response found feePayer message) :
    extractSignatureFromResponse response = .ok signature ↔
      ∃ feePayer message, Embeds response signature feePayer message ∧
        verifies signature feePayer message = true := by
  rw [extractSignature_of_embeds embeds, verifyOrReject]
  refine ⟨fun returned => ?_, fun given => ?_⟩
  · cases verified : verifies found feePayer message with
    | true =>
      rw [verified] at returned
      cases returned
      exact ⟨feePayer, message, embeds, verified⟩
    | false =>
      rw [verified] at returned
      cases returned
  · obtain ⟨feePayer', message', embeds', verified⟩ := given
    obtain ⟨rfl, rfl, rfl⟩ := embeds.unique embeds'
    rw [verified]
    rfl

/-- Nothing else than a signature that does not verify refuses it. -/
theorem extractSignature_error_of_embeds {response : TransactionResponse} {found : Signature}
    {feePayer : Pubkey} {message : Bytes} (embeds : Embeds response found feePayer message) :
    (∃ error, extractSignatureFromResponse response = .error error) ↔
      ∃ found feePayer message, Embeds response found feePayer message ∧
        verifies found feePayer message = false := by
  rw [extractSignature_of_embeds embeds, verifyOrReject]
  refine ⟨fun failed => ?_, fun given => ?_⟩
  · cases verified : verifies found feePayer message with
    | true =>
      rw [verified] at failed
      obtain ⟨error, failed⟩ := failed
      cases failed
    | false => exact ⟨found, feePayer, message, embeds, verified⟩
  · obtain ⟨found', feePayer', message', embeds', refused⟩ := given
    obtain ⟨rfl, rfl, rfl⟩ := embeds.unique embeds'
    rw [refused]
    exact ⟨_, rfl⟩

/-- The signature of an embedded transaction that decodes is returned if it verifies, and
nothing else is; only a response without such a transaction is identified by its `txId`. -/
theorem extractSignatureFromResponse_exact (response : TransactionResponse) :
    (∀ signature, extractSignatureFromResponse response = .ok signature ↔
      (∃ feePayer message, Embeds response signature feePayer message ∧
        verifies signature feePayer message = true) ∨
      (¬ ∃ found feePayer message, Embeds response found feePayer message) ∧
        NamesTxId response signature.bytes) ∧
    ((∃ error, extractSignatureFromResponse response = .error error) ↔
      (∃ found feePayer message, Embeds response found feePayer message ∧
        verifies found feePayer message = false) ∨
      (¬ ∃ found feePayer message, Embeds response found feePayer message) ∧
        ¬ ∃ bytes, NamesTxId response bytes ∧ bytes.length = 64) := by
  by_cases embeds : ∃ found feePayer message, Embeds response found feePayer message
  · have occupied := not_not.mpr embeds
    obtain ⟨found, feePayer, message, embedded⟩ := embeds
    refine ⟨fun signature => ?_, ?_⟩
    · rw [extractSignature_ok_of_embeds embedded]
      exact ⟨.inl, fun given => given.resolve_right fun bare => occupied bare.1⟩
    · rw [extractSignature_error_of_embeds embedded]
      exact ⟨.inl, fun given => given.resolve_right fun bare => occupied bare.1⟩
  · have unsigned : ∀ found feePayer message, ¬ Embeds response found feePayer message :=
      fun found feePayer message embedded => embeds ⟨found, feePayer, message, embedded⟩
    refine ⟨fun signature => ?_, ?_⟩
    · rw [extractSignature_of_not_embeds embeds]
      simp [unsigned]
    · have named : (∃ bytes, NamesTxId response bytes ∧ bytes.length = 64) ↔
          ∃ signature, extractSignatureFromResponse response = .ok signature := by
        simp only [extractSignature_of_not_embeds embeds]
        constructor
        · intro given
          obtain ⟨bytes, names, size⟩ := given
          exact ⟨⟨bytes, size⟩, names⟩
        · intro given
          obtain ⟨signature, names⟩ := given
          exact ⟨signature.bytes, names, signature.size⟩
      rw [named]
      cases extractSignatureFromResponse response <;> simp [unsigned]

/-- The response names its transaction only by a `txId` that spells 64 zero
bytes: it embeds no transaction, or none that can be decoded. -/
def NamesZeroTxId (response : TransactionResponse) : Prop :=
  ∃ onChain txId, response.onChain = some onChain ∧
    (∀ serialized, onChain.transaction = some serialized →
      ∃ error, feePayerSignatureFromSerializedTransaction serialized = .error error) ∧
    onChain.txId = some txId ∧ Crates.bs58Decode txId = .ok Signature.default.bytes

theorem extractSignatureFromResponse_eq_default {response : TransactionResponse} :
    extractSignatureFromResponse response = .ok Signature.default ↔ NamesZeroTxId response := by
  by_cases embeds : ∃ found feePayer message, Embeds response found feePayer message
  · obtain ⟨found, feePayer, message, embedded⟩ := embeds
    rw [extractSignature_of_embeds embedded]
    obtain ⟨onChain, serialized, given, present, decodes⟩ := embedded
    have extracted := feePayerSignature_eq_ok.mpr decodes
    have signed := feePayerSignature_ne_default extracted
    constructor
    · intro returned
      cases verified : verifyOrReject found feePayer message with
      | error e =>
        rw [verified] at returned
        cases returned
      | ok u =>
        rw [verified] at returned
        exact absurd (Except.ok.inj returned) signed
    · intro names
      obtain ⟨onChain', txId, given', undecodable, -⟩ := names
      cases given.symm.trans given'
      obtain ⟨error, refused⟩ := undecodable serialized present
      cases extracted.symm.trans refused
  · rw [extractSignature_of_not_embeds embeds]
    constructor
    · intro names
      obtain ⟨onChain, txId, given, named, zeros⟩ := names
      refine ⟨onChain, txId, given, fun serialized present => ?_, named, zeros⟩
      cases extracted : feePayerSignatureFromSerializedTransaction serialized with
      | error e => exact ⟨e, rfl⟩
      | ok found =>
        exact absurd ⟨_, _, _, _, _, given, present, feePayerSignature_eq_ok.mp extracted⟩ embeds
    · intro names
      obtain ⟨onChain, txId, given, -, named, zeros⟩ := names
      exact ⟨onChain, txId, given, named, zeros⟩

/-! ## The plan -/

/-- A failed create is classified under the key it was sent with. -/
def classify (signer : CrossmintSigner) (transaction : VersionedTransaction) (status : Option ℕ)
    (providerTxId : Option String) (error : SignerError) : SignerError :=
  unconfirmedUnlessRejected status providerTxId (some (signer.idempotencyKey transaction)) error

/-- The create, or why it was not sent. -/
def prepare (signer : CrossmintSigner) (transaction : VersionedTransaction) :
    Except SignerError Request := do
  let _ ← signer.initializedPubkey
  let serialized ← serializeWireTransaction transaction
  let url ← signer.buildWalletsApiUrl ["transactions"]
  (sendable (signer.createRequest url (Crates.bs58Encode serialized)
    (signer.idempotencyKey transaction))).mapError (signer.classify transaction none none)

/-- What a create makes of its reply. -/
def createVerdict (signer : CrossmintSigner) (transaction : VersionedTransaction) (reply : Reply) :
    Except SignerError TransactionResponse :=
  (received reply).mapError (signer.classify transaction none none) >>=
    createOutcome (signer.idempotencyKey transaction)

/-- The plan of `executeManagedTransaction`. -/
def managedPlan (signer : CrossmintSigner) (transaction : VersionedTransaction) :
    Broadcast.Plan SignerError TransactionResponse Signature where
  prepare := signer.prepare transaction
  verdict := signer.createVerdict transaction
  followUp _ := signer.IsFollowUp
  finish created answers :=
    ((signer.finishManagedTransaction created).run answers
      (.start (⟨[]⟩ : PendingTransactionId))).1.mapError
        (afterCreate created.id (signer.idempotencyKey transaction))

theorem finishManagedTransaction_oblivious {created : TransactionResponse} :
    (signer.finishManagedTransaction created : HttpProg σ SignerError Signature).Oblivious :=
  pollLoop_oblivious.bind fun _ => oblivious_ofExcept

theorem finishManagedTransaction_asks {created : TransactionResponse} :
    (signer.finishManagedTransaction created : HttpProg σ SignerError Signature).Asks
      signer.IsFollowUp :=
  pollLoop_asks.bind fun _ => asks_ofExcept

/-- The create of a serialized transaction, by the stages of the plan. -/
theorem createTransaction_run (answers : ℕ → Reply) (w : World Request Reply PendingTransactionId)
    {publicKey : Pubkey} {serialized : Bytes}
    (initialized : signer.initializedPubkey = .ok publicKey)
    (wire : serializeWireTransaction transaction = .ok serialized) :
    (signer.createTransaction (Crates.bs58Encode serialized)
      (signer.idempotencyKey transaction)).run answers w =
      (signer.managedPlan transaction).submitted (answers w.asked) w := by
  rw [createTransaction, run_bind, run_ofExcept, Broadcast.Plan.submitted]
  cases located : signer.buildWalletsApiUrl ["transactions"] with
  | error e =>
    have unsent : (signer.managedPlan transaction).prepare = .error e := by
      simp [managedPlan, prepare, initialized, wire, located, bind, Except.bind]
    rw [unsent]
  | ok url =>
    have prepared : (signer.managedPlan transaction).prepare =
        (sendable (signer.createRequest url (Crates.bs58Encode serialized)
          (signer.idempotencyKey transaction))).mapError
            (signer.classify transaction none none) := by
      simp [managedPlan, prepare, initialized, wire, located, bind, Except.bind]
    have verdict : (signer.managedPlan transaction).verdict = signer.createVerdict transaction :=
      rfl
    simp only [run_bind, run_mapError, send_run, prepared, verdict]
    cases sendable (signer.createRequest url (Crates.bs58Encode serialized)
      (signer.idempotencyKey transaction)) with
    | error e => rfl
    | ok create =>
      simp only [createVerdict]
      cases received (answers w.asked) <;> rfl

variable (signer transaction) in
/-- Every run follows the plan. -/
theorem executeManagedTransaction_course (answers : ℕ → Reply) (slot : PendingTransactionId) :
    Broadcast.Course (signer.managedPlan transaction) answers
      ((signer.executeManagedTransaction transaction).run answers (.start slot)).1
      ((signer.executeManagedTransaction transaction).run answers (.start slot)).2.log := by
  rw [executeManagedTransaction]
  cases initialized : signer.initializedPubkey with
  | error e =>
    refine .unsent ?_
    simp [managedPlan, prepare, initialized, bind, Except.bind]
  | ok publicKey =>
    simp only [ofExcept_ok_bind]
    cases wire : serializeWireTransaction transaction with
    | error e =>
      refine .unsent ?_
      simp [managedPlan, prepare, initialized, wire, bind, Except.bind]
    | ok serialized =>
      simp only [ofExcept_ok_bind]
      refine .of_stages (signer.managedPlan transaction) _ _ slot ?_ ?_ ?_ answers
      · exact fun answers w => createTransaction_run answers w initialized wire
      · exact fun created =>
          asks_modifyState.bind fun _ => finishManagedTransaction_asks.mapError.finallyModify
      · intro created answers w _
        simp only [run_bind, run_modifyState, run_finallyModify, run_mapError]
        rw [finishManagedTransaction_oblivious.fst_eq ⟨[]⟩]
        rfl

/-! ## The promise -/

/-- The id of an accepted create: the status is no error and the body can be read
and names a transaction. -/
def acceptedId : Reply → Option String
  | .failed _ => none
  | .response status body =>
    if 400 ≤ status then none
    else
      match readJsonValue ⟨status, body⟩ with
      | .error _ => none
      | .ok value => transactionIdInValue value

/-- How a conversation with Crossmint is read. -/
def reading (signer : CrossmintSigner) : Broadcast.Reading SignerError where
  isCreate request :=
    request.method == .post &&
      (signer.buildWalletsApiUrl ["transactions"]).toOption == some request.url
  acceptedId := acceptedId
  unconfirmed? error := error.unconfirmed?.map fun u => ⟨u.providerTxId, u.idempotencyKey⟩

/-- An approval goes to a longer path than the create. -/
theorem isCreate_of_isFollowUp {request : Request} (followUp : signer.IsFollowUp request) :
    signer.reading.isCreate request = false := by
  rcases followUp with get | ⟨id, located⟩
  · simp [reading, get]
  · change signer.buildWalletsApiUrl (["transactions"] ++ [id, "approvals"]) = _ at located
    rw [buildWalletsApiUrl_append] at located
    cases collection : signer.buildWalletsApiUrl ["transactions"] with
    | error e => simp [reading, collection, Except.toOption]
    | ok url =>
      rw [collection] at located
      have longer : pushSegments url [id, "approvals"] = request.url := Except.ok.inj located
      have different : url ≠ request.url := by
        intro same
        have lengths := congrArg String.length (longer.trans same.symm)
        simp only [pushSegments, List.foldl_cons, List.foldl_nil, String.length_append] at lengths
        have slash : "/".length = 1 := rfl
        omega
      simp [reading, collection, Except.toOption, different]

/-! ### The create's reply -/

/-- The part of `createOutcome` after the body was read. -/
theorem createOutcome_eq {response : Response} {key : String} :
    createOutcome key response =
      match readJsonValue response with
      | .error e =>
        .error (unconfirmedUnlessRejected (some response.status) none (some key) e)
      | .ok value =>
        (valueToTyped TransactionResponse.fromValue response.status value "id"
          "create_transaction").mapError
            (unconfirmedUnlessRejected (some response.status) (transactionIdInValue value)
              (some key)) := by
  unfold createOutcome
  cases readJsonValue response <;> rfl

/-- A create that failed without being rejected is reported as unconfirmed, under
its key and with the id its response named. -/
theorem createVerdict_unconfirmed {reply : Reply} {error : SignerError}
    (judged : signer.createVerdict transaction reply = .error error)
    (unresolved : ¬ reply.Rejects) :
    ∃ outcome, error = .broadcastUnconfirmed outcome ∧
      outcome.idempotencyKey = some (signer.idempotencyKey transaction) ∧
      ∀ id, acceptedId reply = some id → outcome.providerTxId = some id := by
  cases reply with
  | failed e =>
    cases judged
    exact ⟨_, unconfirmedUnlessRejected_none, rfl, by simp [acceptedId]⟩
  | response status body =>
    have notRejected : Reply.isRejection status = false := by
      by_contra rejected
      exact unresolved ⟨status, body, rfl, by simpa using rejected⟩
    change createOutcome _ ⟨status, body⟩ = _ at judged
    rw [createOutcome_eq] at judged
    cases read : readJsonValue ⟨status, body⟩ with
    | error e =>
      simp only [read, Except.error.injEq] at judged
      rw [unconfirmedUnlessRejected_of_not_isRejection notRejected] at judged
      exact ⟨_, judged.symm, rfl, by simp [acceptedId, read]⟩
    | ok value =>
      simp only [read] at judged
      obtain ⟨e, -, classified⟩ := mapError_eq_error.mp judged
      rw [unconfirmedUnlessRejected_of_not_isRejection notRejected] at classified
      exact ⟨_, classified.symm, rfl, by simp [acceptedId, read]⟩

/-- A typed value has the id that stands in it, and it is not blank. -/
theorem transactionIdInValue_of_valueToTyped {status : ℕ} {value : Value} {context : String}
    {created : TransactionResponse}
    (typed : valueToTyped TransactionResponse.fromValue status value "id" context = .ok created) :
    ¬ 400 ≤ status ∧ transactionIdInValue value = some created.id := by
  unfold valueToTyped at typed
  split at typed
  · cases typed
  · next noError =>
    split at typed
    · split at typed <;> cases typed
    · next present =>
      refine ⟨noError, ?_⟩
      cases decoded : TransactionResponse.fromValue value with
      | none => simp [decoded] at typed
      | some response =>
        simp only [decoded, Except.ok.injEq] at typed
        subst typed
        cases got : value.get "id" with
        | none => simp [lacksField, got] at present
        | some field =>
          have same := TransactionResponse.get_id_of_fromValue decoded got
          subst same
          have visible : isBlank response.id = false := by
            simpa [lacksField, got, Json.asStr] using present
          simp [transactionIdInValue, got, Json.asStr, Option.filter, visible]

theorem acceptedId_of_createVerdict {reply : Reply} {created : TransactionResponse}
    (judged : signer.createVerdict transaction reply = .ok created) :
    acceptedId reply = some created.id := by
  cases reply with
  | failed e => cases judged
  | response status body =>
    change createOutcome _ ⟨status, body⟩ = _ at judged
    rw [createOutcome_eq] at judged
    cases read : readJsonValue ⟨status, body⟩ with
    | error e => simp [read] at judged
    | ok value =>
      simp only [read] at judged
      obtain ⟨noError, named⟩ := transactionIdInValue_of_valueToTyped (mapError_eq_ok.mp judged)
      simp [acceptedId, noError, read, named]

/-- A prepared create is the POST to the transactions collection, under the key. -/
theorem prepare_eq_ok {create : Request} (prepared : signer.prepare transaction = .ok create) :
    create.method = .post ∧ signer.buildWalletsApiUrl ["transactions"] = .ok create.url ∧
      ("x-idempotency-key", signer.idempotencyKey transaction) ∈ create.headers := by
  obtain ⟨publicKey, -, prepared⟩ := bind_eq_ok.mp prepared
  obtain ⟨serialized, -, prepared⟩ := bind_eq_ok.mp prepared
  obtain ⟨url, located, prepared⟩ := bind_eq_ok.mp prepared
  obtain ⟨built, -⟩ := sendable_eq_ok.mp (mapError_eq_ok.mp prepared)
  obtain ⟨body, -, built⟩ := bind_eq_ok.mp built
  cases built
  exact ⟨rfl, located, by simp⟩

theorem managedPlan_honest :
    (signer.managedPlan transaction).Honest signer.reading TransactionResponse.id where
  create request prepared := by
    obtain ⟨method, located, -⟩ := prepare_eq_ok prepared
    simp [reading, method, located, Except.toOption]
  followUp _ request followUp := isCreate_of_isFollowUp followUp
  refused reply error judged plain := by
    by_contra unresolved
    obtain ⟨outcome, rfl, -⟩ := createVerdict_unconfirmed judged unresolved
    simp [reading] at plain
  recovered reply error id judged acceptedAs := by
    have unresolved : ¬ reply.Rejects := by
      intro given
      rcases given with ⟨status, body, rfl, rejected⟩
      have atLeast : 400 ≤ status := (Reply.isRejection_iff.mp rejected).1
      simp [reading, acceptedId, atLeast] at acceptedAs
    obtain ⟨outcome, rfl, -, names⟩ := createVerdict_unconfirmed judged unresolved
    exact ⟨_, rfl, names id acceptedAs⟩
  accepted reply created judged := acceptedId_of_createVerdict judged
  finish created answers error failed := by
    obtain ⟨e, -, rfl⟩ := mapError_eq_error.mp failed
    exact ⟨⟨some created.id, some (signer.idempotencyKey transaction)⟩, rfl, rfl⟩

/-- The run lands on a success response that names its transaction only by a
`txId` of 64 zero bytes: the create is accepted and the answers to the
follow-ups settle on such a response. -/
def LandsOnZeroTxId (signer : CrossmintSigner) (transaction : VersionedTransaction)
    (answers : ℕ → Reply) : Prop :=
  ∃ create created final, signer.prepare transaction = .ok create ∧
    signer.createVerdict transaction (answers 0) = .ok created ∧
    signer.Settles signer.maxPollAttempts false created (fun i => answers (i + 1)) final ∧
    NamesZeroTxId final

theorem finishManagedTransaction_fst_eq_default {created : TransactionResponse}
    {answers : ℕ → Reply} {w : World Request Reply σ} :
    ((signer.finishManagedTransaction created).run answers w).1 = .ok Signature.default ↔
      ∃ final, signer.Settles signer.maxPollAttempts false created
        (fun i => answers (w.asked + i)) final ∧ NamesZeroTxId final := by
  rw [finishManagedTransaction, run_bind_ofExcept_fst, bind_eq_ok]
  simp only [pollTransaction, pollLoop_fst_eq_ok, extractSignatureFromResponse_eq_default]

/-- A run returns the default signature exactly when it lands on a zero `txId`. -/
theorem executeManagedTransaction_fst_eq_default {answers : ℕ → Reply}
    {slot : PendingTransactionId} :
    ((signer.executeManagedTransaction transaction).run answers (.start slot)).1 =
      .ok Signature.default ↔ signer.LandsOnZeroTxId transaction answers := by
  have finished : ∀ created, (signer.managedPlan transaction).finish created
      (fun i => answers (i + 1)) = .ok Signature.default ↔
      ∃ final, signer.Settles signer.maxPollAttempts false created (fun i => answers (i + 1))
        final ∧ NamesZeroTxId final := by
    intro created
    change Except.mapError _ _ = _ ↔ _
    rw [mapError_eq_ok, finishManagedTransaction_fst_eq_default]
    simp only [World.start_asked, Nat.zero_add]
  rw [(signer.executeManagedTransaction_course transaction answers slot).eq_ok_iff]
  simp only [finished]
  constructor
  · intro given
    rcases given with ⟨create, created, prepared, judged, final, settles, zero⟩
    exact ⟨create, created, final, prepared, judged, settles, zero⟩
  · intro given
    rcases given with ⟨create, created, final, prepared, judged, settles, zero⟩
    exact ⟨create, created, prepared, judged, final, settles, zero⟩

end Keychain.Rust.Crossmint.CrossmintSigner
