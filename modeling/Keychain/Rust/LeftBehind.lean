import Keychain.Rust.Accepted
import Keychain.Rust.Fordefi.NativeManual
import Keychain.Rust.Polled

/-!
What a failed call of a polling backend left behind at its provider.

Each backend is a create and a bounded run of polls, so the rules of
`Keychain.Rust.Accepted` say when its errors name the accepted request:
`remoteApiError_names_accepted_iff`. `strandedRun` is a call whose error does not.
-/

namespace Keychain.Rust

open Prog

variable {σ : Type}

/-! ## Fireblocks -/

namespace FireblocksSigner

open Fireblocks

variable [Crates]

/-- The create that is sent at this moment, or why none is. -/
def createRequestAt (signer : FireblocksSigner) (request : Value) (moment : ℕ) :
    Except SignerError Request := do
  let body ← (Crates.jsonToString request).mapError .serializationError
  let token ← signer.authTokenAt moment "/v1/transactions" body
  exchanged (.ok (signer.createRequest token body))

/-- The create for a transaction, in the mode of the signer. -/
def create (signer : FireblocksSigner) (transaction : VersionedTransaction) :
    Except SignerError Request := do
  let _ ← signer.initializedPubkey
  let request ←
    if signer.useProgramCall then signer.programCallRequest transaction
    else pure (signer.rawRequest (Crates.serializeMessage transaction.message))
  signer.createRequestAt request 0

/-- The poll that is sent at this moment. -/
def pollRequestAt (signer : FireblocksSigner) (txId : String) (moment : ℕ) :
    Except SignerError Request := do
  let uri := transactionUri txId
  let token ← signer.authTokenAt moment uri ""
  exchanged (.ok (signer.pollRequest token uri))

def mode (signer : FireblocksSigner) : SigningMode :=
  if signer.useProgramCall then .programCall else .raw

variable [FromSlice CreateTransactionResponse] [FromSlice TransactionResponse]

def createVerdict (reply : Reply) : Except SignerError CreateTransactionResponse :=
  received reply >>= createdTransaction

omit [FromSlice CreateTransactionResponse] [FromSlice TransactionResponse] in
theorem createAuthToken_reckons {signer : FireblocksSigner} {uri body : String} :
    (signer.createAuthToken uri body : HttpProg σ SignerError _).Reckons
      (signer.authTokenAt · uri body) := fun _ _ => rfl

omit [FromSlice TransactionResponse] in
theorem createTransaction_creates {signer : FireblocksSigner} {request : Value} :
    Creates (signer.createTransaction request : HttpProg σ SignerError _)
      (signer.createRequestAt request) createVerdict where
  consults :=
    reckons_ofExcept.consultsAt_bind fun _ => createAuthToken_reckons.consultsAt_bind fun _ =>
      consultsAt_exchange
  posts := by
    intro moment create formed
    rcases bind_eq_ok.mp formed with ⟨body, -, formed⟩
    rcases bind_eq_ok.mp formed with ⟨token, -, sends⟩
    exact method_of_exchanged sends

omit [Crates] [FromSlice CreateTransactionResponse] [FromSlice TransactionResponse] in
theorem pollOutcome_spares {txId : String} {mode : SigningMode} {response : TransactionResponse} :
    Spares IsRemoteApi (pollOutcome txId mode response) := by
  unfold pollOutcome
  split_ifs
  · exact spares_ok
  · exact spares_error (by simp [IsRemoteApi])
  · exact spares_error (by simp [IsRemoteApi])
  · exact spares_ok

omit [FromSlice CreateTransactionResponse] in
theorem getTransaction_consultsAt {signer : FireblocksSigner} {txId : String}
    {mode : SigningMode} :
    (signer.getTransaction txId >>= fun response => ofExcept (pollOutcome txId mode response) :
      HttpProg σ SignerError _).ConsultsAt (signer.pollRequestAt txId)
      (pollVerdict "Fireblocks API get_transaction" (pollOutcome txId mode)) := by
  have fetched : (signer.getTransaction txId : HttpProg σ SignerError _).ConsultsAt
      (signer.pollRequestAt txId)
      (fun reply => received reply >>= (parseJsonResponse · "Fireblocks API get_transaction")) :=
    createAuthToken_reckons.consultsAt_bind fun _ => consultsAt_exchange
  have judged := fetched.bind_ofExcept (f := pollOutcome txId mode)
  simp only [bind_assoc] at judged
  exact judged

omit [FromSlice CreateTransactionResponse] in
theorem getTransaction_polls {signer : FireblocksSigner} {txId : String} {mode : SigningMode} :
    Polls (signer.getTransaction txId >>= fun response =>
        ofExcept (pollOutcome txId mode response) : HttpProg σ SignerError _)
      (signer.pollRequestAt txId)
      (pollVerdict "Fireblocks API get_transaction" (pollOutcome txId mode)) where
  consults := getTransaction_consultsAt
  gets := by
    intro moment poll formed
    rcases bind_eq_ok.mp formed with ⟨token, -, sends⟩
    exact method_of_exchanged sends
  spares := fun _ => (spares_okOr (by simp [IsRemoteApi])).bind fun _ => exchanged_spares
  reports := fun _ _ => pollVerdict_eq_remoteApiError_iff fun _ => pollOutcome_spares

/-- A create and its polls keep the promise unless a poll is refused. -/
theorem namesAccepted_create_iff {signer : FireblocksSigner} {request : Value}
    {mode : SigningMode} {extract : TransactionResponse → Except SignerError Signature}
    (spares : ∀ response, Spares IsRemoteApi (extract response)) {answers : ℕ → Reply} {s : σ} :
    NamesAccepted (acceptedId createVerdict (some ·.id))
        (do
          let created ← signer.createTransaction request
          let response ← signer.pollForCompletion created.id mode
          ofExcept (extract response)) answers (.start s) ↔
      ∀ create created, signer.createRequestAt request 0 = .ok create →
        createVerdict (answers 0) = .ok created →
        ¬ PollRefused (signer.pollRequestAt created.id)
          (pollVerdict "Fireblocks API get_transaction" (pollOutcome created.id mode)) answers
          signer.maxPollAttempts :=
  namesAccepted_retried_iff createTransaction_creates (fun _ => getTransaction_polls)
    (fun _ => ⟨_, rfl⟩) fun response => avoids_ofExcept (spares response)

omit [FromSlice CreateTransactionResponse] [FromSlice TransactionResponse] in
theorem signatureFromSignedMessages_spares {response : TransactionResponse} :
    Spares IsRemoteApi (signatureFromSignedMessages response) := by
  unfold signatureFromSignedMessages
  cases response.signedMessages.head? with
  | some signedMessage => exact signatureFromEncoded_spares
  | none => exact spares_error (by simp [IsRemoteApi])

omit [FromSlice CreateTransactionResponse] [FromSlice TransactionResponse] in
theorem signatureFromProgramCall_spares {response : TransactionResponse} :
    Spares IsRemoteApi (signatureFromProgramCall response) := by
  have signed : Spares IsRemoteApi (signatureFromSignedMessages response) :=
    signatureFromSignedMessages_spares
  unfold signatureFromProgramCall
  cases outcome : signatureFromSignedMessages response with
  | ok signature => exact spares_ok
  | error e =>
    cases response.txHash with
    | some txHash => exact signatureFromEncoded_spares
    | none => exact spares_error (signed e outcome)

theorem signRawBytes_namesAccepted_iff {signer : FireblocksSigner} {publicKey : Pubkey}
    {message : Bytes} {answers : ℕ → Reply} {s : σ}
    (own : signer.initializedPubkey = .ok publicKey) :
    NamesAccepted (acceptedId createVerdict (some ·.id)) (signer.signRawBytes message) answers
        (.start s) ↔
      ∀ create created, signer.createRequestAt (signer.rawRequest message) 0 = .ok create →
        createVerdict (answers 0) = .ok created →
        ¬ PollRefused (signer.pollRequestAt created.id)
          (pollVerdict "Fireblocks API get_transaction" (pollOutcome created.id .raw)) answers
          signer.maxPollAttempts := by
  rw [signRawBytes, own, ofExcept_ok_bind,
    namesAccepted_checked_iff fun _ => verifyOrReject_spares]
  exact namesAccepted_create_iff fun _ => signatureFromSignedMessages_spares

theorem signProgramCall_namesAccepted_iff {signer : FireblocksSigner} {publicKey : Pubkey}
    {transaction : VersionedTransaction} {message : Bytes} {answers : ℕ → Reply} {s : σ}
    (own : signer.initializedPubkey = .ok publicKey) :
    NamesAccepted (acceptedId createVerdict (some ·.id))
        (signer.signProgramCall transaction message) answers (.start s) ↔
      ∀ create created, (do
          let request ← signer.programCallRequest transaction
          signer.createRequestAt request 0) = .ok create →
        createVerdict (answers 0) = .ok created →
        ¬ PollRefused (signer.pollRequestAt created.id)
          (pollVerdict "Fireblocks API get_transaction" (pollOutcome created.id .programCall))
          answers signer.maxPollAttempts := by
  have rejected : ∀ signature,
      Spares IsRemoteApi (rejectProgramCall publicKey message signature) :=
    fun _ => spares_require (by simp [IsRemoteApi])
  rw [signProgramCall, own, ofExcept_ok_bind, namesAccepted_ofExcept_bind]
  simp only [namesAccepted_checked_iff rejected,
    namesAccepted_create_iff fun _ => signatureFromProgramCall_spares]
  constructor
  · intro names create created formed
    rcases bind_eq_ok.mp formed with ⟨request, requested, formed⟩
    exact names request requested create created formed
  · intro names request requested create created formed
    exact names create created (bind_eq_ok.mpr ⟨request, requested, formed⟩)

/-- A call keeps the promise unless a poll of the transaction it created is refused. -/
theorem signTransaction_namesAccepted_iff {signer : FireblocksSigner}
    {transaction : VersionedTransaction} {answers : ℕ → Reply} :
    NamesAccepted (acceptedId createVerdict (some ·.id)) signer.signTransaction answers
        (.start transaction) ↔
      ∀ create created, signer.create transaction = .ok create →
        createVerdict (answers 0) = .ok created →
        ¬ PollRefused (signer.pollRequestAt created.id)
          (pollVerdict "Fireblocks API get_transaction" (pollOutcome created.id signer.mode))
          answers signer.maxPollAttempts := by
  rw [signTransaction, namesAccepted_signAndClassify_iff, signAndSerialize,
    namesAccepted_ofExcept_bind]
  cases own : signer.initializedPubkey with
  | error e => simp [create, own, bind, Except.bind]
  | ok publicKey =>
    simp only [Except.ok.injEq, forall_eq', namesAccepted_state_bind, World.start_state, create,
      own, mode]
    by_cases programCall : signer.useProgramCall
    · simp only [programCall, if_true]
      rw [namesAccepted_bind_iff fun _ => placeAndSerialize_avoids]
      exact signProgramCall_namesAccepted_iff own
    · simp only [programCall, Bool.false_eq_true, if_false]
      rw [namesAccepted_bind_iff fun _ => placeAndSerialize_avoids]
      exact signRawBytes_namesAccepted_iff own

end FireblocksSigner

/-! ## Fordefi -/

namespace Fordefi

variable [Crates]

namespace FordefiCore

variable [FromSlice CreateTransactionResponse] [FromSlice TransactionStatusResponse]

/-- The verdict on a create that broadcasts nothing. -/
def createVerdict (idempotenceId : Option String) (reply : Reply) : Except SignerError String :=
  submitVerdict (classify idempotenceId false) reply

/-- The create of these requests that is sent, or why none is. -/
def create (core : FordefiCore) (request : Value) (idempotenceId : Option String) :
    Except SignerError Request :=
  exchanged (core.submission request idempotenceId)

omit [FromSlice TransactionStatusResponse] in
theorem submitRequest_creates {core : FordefiCore} {request : Value}
    {idempotenceId : Option String} :
    Creates (core.submitRequest request idempotenceId false : HttpProg σ SignerError _)
      (fun _ => core.create request idempotenceId) (createVerdict idempotenceId) where
  consults := by
    intro answers w
    rw [submitRequest_run]
    dsimp only [create, exchanged]
    cases core.submission request idempotenceId with
    | error e => rfl
    | ok create =>
      dsimp only [bind, Except.bind]
      cases sendable (.ok create) <;> rfl
  posts := by
    intro moment create formed
    have submitted := (exchanged_eq_ok.mp formed).1
    rcases bind_eq_ok.mp submitted with ⟨body, -, submitted⟩
    rcases bind_eq_ok.mp submitted with ⟨millis, -, submitted⟩
    rcases bind_eq_ok.mp submitted with ⟨signature, -, submitted⟩
    cases submitted
    rfl

omit [FromSlice CreateTransactionResponse] in
theorem pollAttempt_polls {core : FordefiCore} {txId : String} {pushable : Bool} :
    Polls (core.pollAttempt txId pushable : HttpProg σ SignerError _)
      (fun _ => exchanged (.ok (core.pollRequest txId)))
      (fun reply => received reply >>= pollOutcome txId pushable) where
  consults := consultsAt_exchange
  gets := fun _ _ formed => method_of_exchanged formed
  spares := fun _ => exchanged_spares
  reports := by
    intro reply providerTxId
    refine pollVerdict_eq_remoteApiError_iff fun parsed => ?_
    split_ifs
    · exact spares_ok
    · exact spares_error (by simp [IsRemoteApi])
    · exact spares_ok

/-- A create and its polls keep the promise unless a poll is refused. -/
theorem namesAccepted_create_iff {T : Type} {core : FordefiCore} {request : Value}
    {idempotenceId : Option String} {rest : TransactionStatusResponse → HttpProg σ SignerError T}
    (quiet : ∀ result, (rest result).Avoids IsRemoteApi) {answers : ℕ → Reply} {s : σ} :
    NamesAccepted (acceptedId (createVerdict idempotenceId) some)
        (do
          let txId ← core.submitRequest request idempotenceId false
          let result ← core.pollForResult txId false
          rest result) answers (.start s) ↔
      ∀ create txId, core.create request idempotenceId = .ok create →
        createVerdict idempotenceId (answers 0) = .ok txId →
        ¬ PollRefused (fun _ => exchanged (.ok (core.pollRequest txId)))
          (fun reply => received reply >>= pollOutcome txId false) answers
          core.maxPollAttempts :=
  namesAccepted_retried_iff submitRequest_creates (fun _ => pollAttempt_polls)
    (fun _ => ⟨_, rfl⟩) quiet

end FordefiCore

section

variable [FromSlice CreateTransactionResponse] [FromSlice TransactionStatusResponse]

namespace FordefiBlackBoxSigner

def request (signer : FordefiBlackBoxSigner) (transaction : VersionedTransaction) : Value :=
  signer.core.blackBoxRequest (Crates.serializeMessage transaction.message)

/-- A call keeps the promise unless a poll of the transaction it created is refused. -/
theorem signTransaction_namesAccepted_iff {signer : FordefiBlackBoxSigner}
    {transaction : VersionedTransaction} {answers : ℕ → Reply} :
    NamesAccepted (acceptedId (FordefiCore.createVerdict none) some) signer.signTransaction
        answers (.start transaction) ↔
      ∀ create txId, signer.core.create (signer.request transaction) none = .ok create →
        FordefiCore.createVerdict none (answers 0) = .ok txId →
        ¬ PollRefused (fun _ => exchanged (.ok (signer.core.pollRequest txId)))
          (fun reply => received reply >>= FordefiCore.pollOutcome txId false) answers
          signer.core.maxPollAttempts := by
  have verified : ∀ signature, Spares IsRemoteApi (signer.core.verifySignature signature
      (Crates.serializeMessage transaction.message)) := by
    intro signature
    unfold FordefiCore.verifySignature
    split_ifs
    · exact spares_ok
    · exact spares_error (by simp [IsRemoteApi])
  have extracted : ∀ result,
      Spares IsRemoteApi (FordefiCore.extractSignatureFromResult result) := by
    intro result
    unfold FordefiCore.extractSignatureFromResult
    cases result.signatures.bind List.head? with
    | some entry => exact signatureFromEncoded_spares
    | none => exact spares_error (by simp [IsRemoteApi])
  rw [signTransaction, namesAccepted_signAndClassify_iff, signAndSerialize,
    namesAccepted_state_bind, namesAccepted_bind_iff fun _ => placeAndSerialize_avoids,
    World.start_state, namesAccepted_checked_iff verified]
  exact FordefiCore.namesAccepted_create_iff fun result => avoids_ofExcept (extracted result)

end FordefiBlackBoxSigner

namespace FordefiNativeManualSigner

def idempotencyKey (signer : FordefiNativeManualSigner) (transaction : VersionedTransaction) :
    String :=
  idempotencyKeyFromMessage (signer.core.namespacedKeyInput signer.chain signer.fee .manual
    (Crates.serializeMessage transaction.message))

/-- The create for a transaction, or why none is sent. -/
def create (signer : FordefiNativeManualSigner) (transaction : VersionedTransaction) :
    Except SignerError Request := do
  signer.validateTransaction transaction
  signer.core.create
    (signer.core.solanaTransactionRequest signer.chain signer.fee .manual
      (Crates.serializeMessage transaction.message))
    (some (signer.idempotencyKey transaction))

/-- A call keeps the promise unless a poll of the transaction it created is refused. -/
theorem modifyAndSignTransaction_namesAccepted_iff {signer : FordefiNativeManualSigner}
    {transaction : VersionedTransaction} {answers : ℕ → Reply} :
    NamesAccepted
        (acceptedId (FordefiCore.createVerdict (some (signer.idempotencyKey transaction))) some)
        signer.modifyAndSignTransaction answers (.start transaction) ↔
      ∀ create txId, signer.create transaction = .ok create →
        FordefiCore.createVerdict (some (signer.idempotencyKey transaction)) (answers 0) =
          .ok txId →
        ¬ PollRefused (fun _ => exchanged (.ok (signer.core.pollRequest txId)))
          (fun reply => received reply >>= FordefiCore.pollOutcome txId false) answers
          signer.core.maxPollAttempts := by
  have decoded : ∀ result, Spares IsRemoteApi (FordefiCore.decodeRawTransaction result) := by
    intro result
    unfold FordefiCore.decodeRawTransaction
    cases result.rawTransaction with
    | none => exact spares_error (by simp [IsRemoteApi])
    | some raw => exact spares_mapError (by simp [IsRemoteApi])
  have extracted : ∀ wire, Spares IsRemoteApi
      (extractAndVerifyRewrittenTransaction wire signer.core.publicKey) := by
    intro wire
    exact deserializeWireTransaction_spares.bind fun _ =>
      signatureAtSignerPosition_spares.bind fun _ => verifyOrReject_spares.bind fun _ => spares_ok
  rw [modifyAndSignTransaction, namesAccepted_signAndClassify_iff, modifyAndSerialize,
    namesAccepted_state_bind, World.start_state, create]
  cases valid : signer.validateTransaction transaction with
  | error e =>
    rw [namesAccepted_ofExcept_bind]
    simp [bind, Except.bind]
  | ok u =>
    rw [ofExcept_ok_bind]
    refine FordefiCore.namesAccepted_create_iff fun result => ?_
    refine (avoids_ofExcept (decoded result)).bind fun wire => ?_
    refine (avoids_ofExcept (extracted wire)).bind fun returned => ?_
    refine (avoids_ofExcept serializeTransaction_spares).bind fun encoded => ?_
    exact avoids_modifyState.bind fun _ => avoids_pure

end FordefiNativeManualSigner

end

end Fordefi

/-! ## Utila -/

namespace UtilaSigner

open Utila

def transactionId? (transaction : UtilaTransaction) : Option String :=
  match extractTransactionId transaction.name with
  | .ok id => some id
  | .error _ => none

variable [Crates]

/-- The poll that is sent at this moment. -/
def pollRequestAt (signer : UtilaSigner) (transactionId : String) (moment : ℕ) :
    Except SignerError Request := do
  let token ← signer.accessTokenAt moment
  exchanged (.ok (signer.getRequest (signer.transactionPath transactionId) token))

/-- The create that is sent at this moment, or why none is. -/
def createRequestAt (signer : UtilaSigner) (rawTransaction : String) (moment : ℕ) :
    Except SignerError Request := do
  let token ← signer.accessTokenAt moment
  exchanged (signer.postRequest signer.initiatePath (signer.initiateRequest rawTransaction) token)

/-- The create for a transaction. -/
def create (signer : UtilaSigner) (transaction : VersionedTransaction) :
    Except SignerError Request := do
  let _ ← signer.initializedPubkey
  let wire ← serializeWireTransaction transaction
  signer.createRequestAt (Crates.base64Encode wire) 0

variable [FromSlice TransactionEnvelope]

def createVerdict (reply : Reply) : Except SignerError UtilaTransaction := do
  let response ← received reply
  let envelope : TransactionEnvelope ←
    parseJsonResponse response "Utila API initiate_transaction"
  pure envelope.transaction

def fetchVerdict (reply : Reply) : Except SignerError (PollOutcome UtilaTransaction) :=
  pollVerdict "Utila API get_transaction"
    (fun envelope : TransactionEnvelope => stateOutcome envelope.transaction) reply

omit [FromSlice TransactionEnvelope] in
theorem createAccessToken_reckons {signer : UtilaSigner} :
    (signer.createAccessToken : HttpProg σ SignerError _).Reckons signer.accessTokenAt :=
  fun _ _ => rfl

theorem initiateTransaction_creates {signer : UtilaSigner} {rawTransaction : String} :
    Creates (signer.initiateTransaction rawTransaction : HttpProg σ SignerError _)
      (signer.createRequestAt rawTransaction) createVerdict where
  consults := by
    have posted : (signer.postJson signer.initiatePath
        (signer.initiateRequest rawTransaction) "initiate_transaction" :
          HttpProg σ SignerError _).ConsultsAt (signer.createRequestAt rawTransaction)
        (fun reply => received reply >>= (parseJsonResponse · "Utila API initiate_transaction")) :=
      createAccessToken_reckons.consultsAt_bind fun _ => consultsAt_exchange
    have judged := posted.bind_ofExcept
      (f := fun envelope : TransactionEnvelope => .ok envelope.transaction)
    simp only [bind_assoc] at judged
    exact judged
  posts := by
    intro moment create formed
    rcases bind_eq_ok.mp formed with ⟨token, -, sends⟩
    rcases bind_eq_ok.mp (exchanged_eq_ok.mp sends).1 with ⟨body, -, same⟩
    cases same
    rfl

omit [Crates] [FromSlice TransactionEnvelope] in
theorem stateOutcome_spares {transaction : UtilaTransaction} :
    Spares IsRemoteApi (stateOutcome transaction) := by
  unfold stateOutcome
  split_ifs
  · exact spares_ok
  · exact spares_error (by simp [IsRemoteApi])
  · exact spares_ok

theorem getTransaction_polls {signer : UtilaSigner} {transactionId : String} :
    Polls (signer.getTransaction transactionId >>= fun transaction =>
        ofExcept (stateOutcome transaction) : HttpProg σ SignerError _)
      (signer.pollRequestAt transactionId) fetchVerdict where
  consults := by
    have fetched : (signer.getJson (signer.transactionPath transactionId)
        "get_transaction" : HttpProg σ SignerError _).ConsultsAt
        (signer.pollRequestAt transactionId)
        (fun reply => received reply >>= (parseJsonResponse · "Utila API get_transaction")) :=
      createAccessToken_reckons.consultsAt_bind fun _ => consultsAt_exchange
    have judged := fetched.bind_ofExcept
      (f := fun envelope : TransactionEnvelope => stateOutcome envelope.transaction)
    simp only [bind_assoc] at judged
    simp only [getTransaction, bind_assoc, pure_bind]
    exact judged
  gets := by
    intro moment poll formed
    rcases bind_eq_ok.mp formed with ⟨token, -, sends⟩
    exact method_of_exchanged sends
  spares := fun _ => (spares_okOr (by simp [IsRemoteApi])).bind fun _ => exchanged_spares
  reports := fun _ _ => pollVerdict_eq_remoteApiError_iff fun _ => stateOutcome_spares

/-- The poll loop looks at the state in hand and then polls. -/
theorem pollFrom_eq {signer : UtilaSigner} {transactionId : String} {fetches : ℕ}
    {transaction : UtilaTransaction} :
    (signer.pollFrom transactionId fetches transaction : HttpProg σ SignerError _) =
      ofExcept (stateOutcome transaction) >>= fun outcome =>
        match outcome with
        | .done signed => pure signed
        | .pending => retry signer.pollTimeout
            (signer.getTransaction transactionId >>= fun transaction =>
              ofExcept (stateOutcome transaction)) fetches := by
  induction fetches generalizing transaction with
  | zero =>
    unfold pollFrom
    rfl
  | succ fetches ih =>
    unfold pollFrom
    refine bind_congr fun outcome => ?_
    cases outcome with
    | some signed => rfl
    | none =>
      simp only [ih, retry, bind_assoc]
      refine bind_congr fun fetched => bind_congr fun decided => ?_
      cases decided <;> rfl

/-- The poll of an initiated transaction keeps the promise unless the transaction
came undecided and a poll is refused or all of them leave it so. -/
theorem pollSignedTransaction_names_iff {signer : UtilaSigner} {transaction : UtilaTransaction}
    {id : String} (named : extractTransactionId transaction.name = .ok id)
    {answers : ℕ → Reply} {w : World Request Reply σ} (asked : w.asked = 1) :
    (∀ detail providerTxId, ((signer.pollSignedTransaction transaction).run answers w).1 =
        .error (.remoteApiError detail providerTxId) → providerTxId = some id) ↔
      (stateOutcome transaction = .ok .pending →
        ¬ PollRefused (signer.pollRequestAt id) fetchVerdict answers signer.maxPollAttempts ∧
        ¬ StaysPending (signer.pollRequestAt id) fetchVerdict answers signer.maxPollAttempts) := by
  rw [pollSignedTransaction, named, ofExcept_ok_bind, pollFrom_eq]
  cases outcome : stateOutcome transaction with
  | error e =>
    refine iff_of_true ?_ (by simp)
    intro detail providerTxId failed
    cases failed
    exact absurd ⟨detail, providerTxId, rfl⟩ (stateOutcome_spares _ outcome)
  | ok settled =>
    cases settled with
    | some signed => simp [ofExcept_ok_bind]
    | none =>
      rw [ofExcept_ok_bind, getTransaction_polls.names_iff asked]
      simp [pollTimeout, SignerError.remoteApi]

theorem pollSignedTransaction_asks {signer : UtilaSigner} {transaction : UtilaTransaction} :
    (signer.pollSignedTransaction transaction : HttpProg σ SignerError _).Asks
      (·.method = .get) := by
  refine asks_ofExcept.bind fun id => ?_
  rw [pollFrom_eq]
  refine asks_ofExcept.bind fun outcome => ?_
  cases outcome with
  | some signed => exact asks_pure
  | none => exact getTransaction_polls.asks

omit [Crates] [FromSlice TransactionEnvelope] in
theorem transactionId?_eq_some {transaction : UtilaTransaction} {id : String} :
    transactionId? transaction = some id ↔ extractTransactionId transaction.name = .ok id := by
  unfold transactionId?
  cases extractTransactionId transaction.name <;> simp

/-- A call keeps the promise unless the transaction it created came undecided and a
poll is refused or all of them leave it so. -/
theorem signTransaction_namesAccepted_iff {signer : UtilaSigner}
    {transaction : VersionedTransaction} {answers : ℕ → Reply} :
    NamesAccepted (acceptedId createVerdict transactionId?) signer.signTransaction answers
        (.start transaction) ↔
      ∀ create created id, signer.create transaction = .ok create →
        createVerdict (answers 0) = .ok created →
        extractTransactionId created.name = .ok id → stateOutcome created = .ok .pending →
        ¬ PollRefused (signer.pollRequestAt id) fetchVerdict answers signer.maxPollAttempts ∧
        ¬ StaysPending (signer.pollRequestAt id) fetchVerdict answers signer.maxPollAttempts := by
  have extracted : ∀ raw, Spares IsRemoteApi (signer.extractSignatureFromRawTransaction raw
      (Crates.serializeMessage transaction.message)) := by
    intro raw
    refine (spares_okOr (by simp [IsRemoteApi])).bind fun publicKey => ?_
    refine (spares_mapError (by simp [IsRemoteApi])).bind fun bytes => ?_
    exact deserializeWireTransaction_spares.bind fun _ =>
      signatureAtSignerPosition_spares.bind fun _ => verifyOrReject_spares.bind fun _ => spares_ok
  rw [signTransaction, namesAccepted_signAndClassify_iff, signAndSerialize, create]
  cases own : signer.initializedPubkey with
  | error e =>
    rw [namesAccepted_ofExcept_bind]
    simp [bind, Except.bind]
  | ok publicKey =>
    rw [ofExcept_ok_bind, namesAccepted_state_bind, World.start_state,
      namesAccepted_bind_iff fun _ => placeAndSerialize_avoids, signRawTransaction]
    cases serialized : serializeWireTransaction transaction with
    | error e =>
      rw [namesAccepted_ofExcept_bind]
      simp [bind, Except.bind]
    | ok wire =>
      rw [ofExcept_ok_bind, namesAccepted_polled_iff initiateTransaction_creates
        (fun _ => pollSignedTransaction_asks)
        fun signed => (avoids_ofExcept (spares_okOr (by simp [IsRemoteApi]))).bind fun raw =>
          avoids_ofExcept (extracted raw)]
      refine forall_congr' fun create => forall_congr' fun created => forall_congr' fun id => ?_
      rw [transactionId?_eq_some]
      refine forall_congr' fun _ => forall_congr' fun _ => forall_congr' fun named => ?_
      exact pollSignedTransaction_names_iff named (by simp)

end UtilaSigner

/-! ## The polling backends -/

/-- An error of the remote API names what the call left behind exactly when no poll of
an accepted create is refused. At Utila the polls must also not all leave the transaction
undecided, since the timeout names nothing. -/
theorem remoteApiError_names_accepted_iff [Crates]
    [FromSlice Fireblocks.CreateTransactionResponse] [FromSlice Fireblocks.TransactionResponse]
    [FromSlice Utila.TransactionEnvelope] [FromSlice Fordefi.CreateTransactionResponse]
    [FromSlice Fordefi.TransactionStatusResponse] (transaction : VersionedTransaction)
    (answers : ℕ → Reply) :
    (∀ signer : FireblocksSigner,
      NamesAccepted (acceptedId FireblocksSigner.createVerdict (some ·.id))
          signer.signTransaction answers (.start transaction) ↔
        ∀ create created, signer.create transaction = .ok create →
          FireblocksSigner.createVerdict (answers 0) = .ok created →
          ¬ PollRefused (signer.pollRequestAt created.id)
            (pollVerdict "Fireblocks API get_transaction"
              (FireblocksSigner.pollOutcome created.id signer.mode))
            answers signer.maxPollAttempts) ∧
    (∀ signer : UtilaSigner,
      NamesAccepted (acceptedId UtilaSigner.createVerdict UtilaSigner.transactionId?)
          signer.signTransaction answers (.start transaction) ↔
        ∀ create created id, signer.create transaction = .ok create →
          UtilaSigner.createVerdict (answers 0) = .ok created →
          UtilaSigner.extractTransactionId created.name = .ok id →
          UtilaSigner.stateOutcome created = .ok .pending →
          ¬ PollRefused (signer.pollRequestAt id) UtilaSigner.fetchVerdict answers
              signer.maxPollAttempts ∧
          ¬ StaysPending (signer.pollRequestAt id) UtilaSigner.fetchVerdict answers
              signer.maxPollAttempts) ∧
    (∀ signer : Fordefi.FordefiBlackBoxSigner,
      NamesAccepted (acceptedId (Fordefi.FordefiCore.createVerdict none) some)
          signer.signTransaction answers (.start transaction) ↔
        ∀ create txId, signer.core.create (signer.request transaction) none = .ok create →
          Fordefi.FordefiCore.createVerdict none (answers 0) = .ok txId →
          ¬ PollRefused (fun _ => exchanged (.ok (signer.core.pollRequest txId)))
            (fun reply => received reply >>= Fordefi.FordefiCore.pollOutcome txId false)
            answers signer.core.maxPollAttempts) ∧
    (∀ signer : Fordefi.FordefiNativeManualSigner,
      NamesAccepted
          (acceptedId
            (Fordefi.FordefiCore.createVerdict (some (signer.idempotencyKey transaction))) some)
          signer.modifyAndSignTransaction answers (.start transaction) ↔
        ∀ create txId, signer.create transaction = .ok create →
          Fordefi.FordefiCore.createVerdict (some (signer.idempotencyKey transaction))
            (answers 0) = .ok txId →
          ¬ PollRefused (fun _ => exchanged (.ok (signer.core.pollRequest txId)))
            (fun reply => received reply >>= Fordefi.FordefiCore.pollOutcome txId false)
            answers signer.core.maxPollAttempts) :=
  ⟨fun _ => FireblocksSigner.signTransaction_namesAccepted_iff,
    fun _ => UtilaSigner.signTransaction_namesAccepted_iff,
    fun _ => Fordefi.FordefiBlackBoxSigner.signTransaction_namesAccepted_iff,
    fun _ => Fordefi.FordefiNativeManualSigner.modifyAndSignTransaction_namesAccepted_iff⟩

/-! ## A create that is accepted and not named -/

section

namespace Fordefi

/-- The create body of `emptyTransaction` as it is printed. -/
def blackBoxText : String :=
  "\x7b\"vault_id\":\"vault-1\",\"signer_type\":\"api_signer\",\"sign_mode\":\"auto\"," ++
    "\"type\":\"black_box_signature\",\"details\":\x7b\"format\":\"hash_binary\"," ++
    "\"hash_binary\":\"" ++ emptyMessageBase64 ++ "\"\x7d\x7d"

local instance strandedCrates : Crates :=
  { Crates.linked emptyDigest (fun _ => .ok (.object [("id", .string "tx-2")]))
      (fun _ => blackBoxText) with
    base64Encode := fun _ => emptyMessageBase64 }

local instance strandedCreate : FromSlice CreateTransactionResponse :=
  ⟨fun body => if body = utf8 "\x7b\"id\":\"tx-2\"\x7d" then .ok ⟨"tx-2"⟩
    else .error "expected value"⟩

local instance strandedStatus : FromSlice TransactionStatusResponse :=
  ⟨fun _ => .error "expected value"⟩

def strandedSigner : FordefiBlackBoxSigner where
  core := { FordefiCore.vaultOne with publicKey := emptyPayer }

/-- The create is accepted as `tx-2`, and its first poll is answered with status 503. -/
def strandedAnswers : ℕ → Reply := fun i =>
  if i = 0 then .response 201 (.whole (utf8 "\x7b\"id\":\"tx-2\"\x7d"))
  else .response 503 (.whole [])

def strandedRun :
    Except SignerError SignTransactionResult × World Request Reply VersionedTransaction :=
  strandedSigner.signTransaction.run strandedAnswers (.start emptyTransaction)

/-- The error names no id, and the provider holds the request. -/
theorem strandedRun_unnamed :
    strandedRun.1 = .error (.remoteApiError "Fordefi API poll_result error 503" none) ∧
      AcceptedIn (acceptedId (FordefiCore.createVerdict none) some) strandedRun.2.log "tx-2" ∧
      ¬ NamesAccepted (acceptedId (FordefiCore.createVerdict none) some)
        strandedSigner.signTransaction strandedAnswers (.start emptyTransaction) := by
  have result : strandedRun.1 =
      .error (.remoteApiError "Fordefi API poll_result error 503" none) := by
    decide +kernel
  have accepted : AcceptedIn (acceptedId (FordefiCore.createVerdict none) some)
      strandedRun.2.log "tx-2" := by
    have first : (strandedRun.2.log.head?.map fun x =>
        (x.1.method, acceptedId (FordefiCore.createVerdict none) some x.2)) =
          some (.post, some "tx-2") := by
      decide +kernel
    rcases Option.map_eq_some_iff.mp first with ⟨x, head, shape⟩
    have member : x ∈ strandedRun.2.log := List.mem_of_mem_head? (by simp [head])
    exact ⟨x, member, congrArg Prod.fst shape, congrArg Prod.snd shape⟩
  refine ⟨result, accepted, ?_⟩
  intro names
  have ran : strandedRun = (.error (.remoteApiError "Fordefi API poll_result error 503" none),
      strandedRun.2) := by
    rw [← result]
  have named := names _ _ _ ran "tx-2" accepted
  cases named

end Fordefi

end

end Keychain.Rust
