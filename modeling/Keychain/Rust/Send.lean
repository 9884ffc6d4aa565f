import Keychain.Rust.Crossmint.Managed
import Keychain.Rust.Fordefi.NativeAuto
import Keychain.Rust.Signing

/-!
`send.rs` and `Signer::sign_and_send`: getting a signed transaction on chain
through the unified signer.

A broadcasting backend sends through its provider; every other backend signs and
hands the encoded transaction to the caller's `send`. The state of a call is the
caller's transaction and, through the unified signer, the pending-id slot.

`BroadcastOnce` is the promise to a caller who broadcasts: `send` runs at most
once, on the encoding of the transaction that the signature belongs to.
-/

namespace Keychain.Rust

open Prog Rust.Crossmint Fordefi

/-- A `TransactionSigner` trait object: it signs the transaction in its state. -/
structure TransactionSigner where
  signTransaction : HttpProg VersionedTransaction SignerError SignTransactionResult

/-- A `ModifyingSigner` trait object: it may replace the transaction it signs. -/
structure ModifyingSigner where
  modifyAndSignTransaction : HttpProg VersionedTransaction SignerError SignTransactionResult

/-- A `SendingSigner` trait object. -/
structure SendingSigner where
  signAndSendTransaction :
    VersionedTransaction → HttpProg PendingTransactionId SignerError Signature

/-- The unified signer. `signing` stands for every backend that returns signed
bytes: Memory, Vault, Privy, Turnkey, AWS and GCP KMS, Fireblocks, CDP, Dfns,
Openfort, Para, Utila, Fordefi black box and Ledger. -/
inductive Signer where
  | signing (backend : TransactionSigner)
  | fordefiNativeManual (backend : ModifyingSigner)
  | fordefiNativeAuto (backend : FordefiNativeAutoSigner)
  | crossmint (backend : CrossmintSigner)

namespace Signer

variable [Crates] [FromSlice CreateTransactionResponse] [FromSlice TransactionStatusResponse]

def asTransactionSigner : Signer → Option TransactionSigner
  | .signing backend => some backend
  | _ => none

def asModifyingSigner : Signer → Option ModifyingSigner
  | .fordefiNativeManual backend => some backend
  | _ => none

def asSendingSigner : Signer → Option SendingSigner
  | .fordefiNativeAuto backend => some ⟨backend.signAndSendTransaction⟩
  | .crossmint backend => some ⟨backend.signAndSendTransaction⟩
  | _ => none

end Signer

/-! ## Sending -/

section

variable {σ τ : Type}

def broadcastComplete (result : SignTransactionResult)
    (transactionSignature : Option Signature)
    (send : String → HttpProg σ SignerError Signature) :
    HttpProg σ SignerError Signature := do
  if !result.isComplete then
    fail (.signingFailed
      "Transaction is still missing signatures after signing and cannot be broadcast")
  else
    match transactionSignature.filter (· != Signature.default) with
    | none =>
      fail (.signingFailed "Broadcast transaction has no fee payer signature to identify it by")
    | some transactionSignature =>
      (send result.signed.encoded).mapError fun error => .broadcastUnconfirmed {
        providerTxId := none
        providerStatus := none
        idempotencyKey := none
        transactionSignature := some transactionSignature
        detail := error.detailString }

/-- Sign the transaction and get it on chain with one call. The caller's `send`
keeps a state of its own, `τ`. -/
def signAndSend (signer : TransactionSigner)
    (send : String → HttpProg (VersionedTransaction × τ) SignerError Signature) :
    HttpProg (VersionedTransaction × τ) SignerError Signature := do
  let result ← overFst signer.signTransaction
  let (transaction, _) ← state
  broadcastComplete result transaction.signatures.head? send

/-- Let the signer rewrite the transaction, then get it on chain. -/
def modifyAndSend (signer : ModifyingSigner)
    (send : String → HttpProg (VersionedTransaction × τ) SignerError Signature) :
    HttpProg (VersionedTransaction × τ) SignerError Signature := do
  let result ← overFst signer.modifyAndSignTransaction
  let (transaction, _) ← state
  broadcastComplete result transaction.signatures.head? send

end

/-- The state of a send through the unified signer: the caller's transaction and
the pending-id slot. -/
abbrev SendState := VersionedTransaction × PendingTransactionId

def requireBroadcastSignature (signature : Signature) : Except SignerError Signature :=
  if signature = Signature.default then
    .error (.signingFailed "Signer returned no signature for the transaction it broadcast")
  else
    .ok signature

theorem requireBroadcastSignature_eq_ok {signature returned : Signature} :
    requireBroadcastSignature signature = .ok returned ↔
      signature = returned ∧ returned ≠ Signature.default := by
  unfold requireBroadcastSignature
  split
  · next missing =>
    simp only [reduceCtorEq, false_iff]
    intro given
    rcases given with ⟨rfl, present⟩
    exact present missing
  · next present =>
    simp only [Except.ok.injEq]
    constructor
    · intro same
      subst same
      exact ⟨rfl, present⟩
    · exact And.left

/-- The check for a missing signature keeps an accounted result accounted
exactly when the backend does not return the default signature for an accepted
create. -/
theorem accounted_bind_requireBroadcastSignature {reading : Broadcast.Reading SignerError}
    {log : List (Request × Reply)} {result : Except SignerError Signature}
    (sound : Broadcast.Sound reading log result)
    (plain : ∀ detail, reading.unconfirmed? (.signingFailed detail) = none) :
    Broadcast.Accounted reading log (· ≠ Signature.default)
        (result >>= requireBroadcastSignature) ↔
      ∀ id, Broadcast.Accepted reading log id → result ≠ .ok Signature.default := by
  constructor
  · intro accounted id acceptedAs same
    subst same
    have missing : (Except.ok Signature.default >>= requireBroadcastSignature) =
        .error (.signingFailed
          "Signer returned no signature for the transaction it broadcast") := by
      simp [bind, Except.bind, requireBroadcastSignature]
    rcases accounted id acceptedAs with ⟨_, returned, _⟩ | ⟨e, outcome, failed, unconfirmed, -⟩
    · rw [missing] at returned
      cases returned
    · rw [missing] at failed
      cases failed
      rw [plain] at unconfirmed
      cases unconfirmed
  · intro present id acceptedAs
    cases outcome : result with
    | error e =>
      obtain ⟨reported, unconfirmed, named⟩ := sound.accepted id acceptedAs e outcome
      exact Or.inr ⟨e, reported, rfl, unconfirmed, named⟩
    | ok signature =>
      have nonDefault : signature ≠ Signature.default := by
        intro same
        subst same
        exact present id acceptedAs outcome
      exact Or.inl ⟨signature, requireBroadcastSignature_eq_ok.mpr ⟨rfl, nonDefault⟩, nonDefault⟩

section

variable [Crates] [FromSlice CreateTransactionResponse] [FromSlice TransactionStatusResponse]

/-- `Signer::sign_and_send`. -/
def Signer.signAndSend (signer : Signer)
    (send : String → HttpProg SendState SignerError Signature) :
    HttpProg SendState SignerError Signature :=
  match signer.asSendingSigner with
  | some backend => do
    let (transaction, _) ← state
    let signature ← overSnd (backend.signAndSendTransaction transaction)
    ofExcept (requireBroadcastSignature signature)
  | none =>
    match signer.asTransactionSigner with
    | some backend => Keychain.Rust.signAndSend backend send
    | none =>
      match signer.asModifyingSigner with
      | some backend => modifyAndSend backend send
      | none =>
        fail (.signingFailed
          "This signer supports neither sign_transaction nor sign_and_send_transaction")

/-! ## The promise of the sending signers -/

/-- Both broadcasting backends keep the promise of `Keychain.Broadcast` in every
run, whatever the provider and the transport do. -/
theorem signAndSendTransaction_sound :
    (∀ (signer : FordefiNativeAutoSigner) (transaction : VersionedTransaction)
      (answers : ℕ → Reply) (slot : PendingTransactionId),
      Broadcast.Sound signer.reading
        ((signer.signAndSendTransaction transaction).run answers (.start slot)).2.log
        ((signer.signAndSendTransaction transaction).run answers (.start slot)).1) ∧
    (∀ (signer : CrossmintSigner) (transaction : VersionedTransaction)
      (answers : ℕ → Reply) (slot : PendingTransactionId),
      Broadcast.Sound signer.reading
        ((signer.signAndSendTransaction transaction).run answers (.start slot)).2.log
        ((signer.signAndSendTransaction transaction).run answers (.start slot)).1) := by
  constructor
  · intro signer transaction answers slot
    exact (signer.signAndBroadcast_course transaction answers slot).sound
      FordefiNativeAutoSigner.broadcastPlan_honest
  · intro signer transaction answers slot
    exact (signer.executeManagedTransaction_course transaction answers slot).sound
      CrossmintSigner.managedPlan_honest

/-! ## Accepted broadcasts through the unified signer -/

/-- A sending backend's run, then the check for a missing signature. -/
theorem Signer.signAndSend_run {signer : Signer} {backend : SendingSigner}
    (sending : signer.asSendingSigner = some backend)
    (send : String → HttpProg SendState SignerError Signature) (answers : ℕ → Reply)
    (transaction : VersionedTransaction) (slot : PendingTransactionId) :
    let inner := (backend.signAndSendTransaction transaction).run answers (.start slot)
    let outer := (signer.signAndSend send).run answers (.start (transaction, slot))
    outer.1 = inner.1 >>= requireBroadcastSignature ∧ outer.2.log = inner.2.log := by
  simp only [Signer.signAndSend, sending, run_bind, run_state, run_overSnd, World.start]
  rcases (backend.signAndSendTransaction transaction).run answers ⟨slot, []⟩ with ⟨e | signature, w⟩
  · exact ⟨rfl, rfl⟩
  · exact ⟨rfl, rfl⟩

/-- Through the unified signer, an accepted broadcast of Fordefi is always
accounted for; one of Crossmint is exactly when the run does not land on a
`txId` of 64 zero bytes, which the backend returns as the default signature. -/
theorem Signer.signAndSend_accounted_iff :
    (∀ (signer : FordefiNativeAutoSigner)
      (send : String → HttpProg SendState SignerError Signature) (answers : ℕ → Reply)
      (transaction : VersionedTransaction) (slot : PendingTransactionId),
      Broadcast.Accounted signer.reading
        (((Signer.fordefiNativeAuto signer).signAndSend send).run answers
          (.start (transaction, slot))).2.log
        (· ≠ Signature.default)
        (((Signer.fordefiNativeAuto signer).signAndSend send).run answers
          (.start (transaction, slot))).1) ∧
    (∀ (signer : CrossmintSigner)
      (send : String → HttpProg SendState SignerError Signature) (answers : ℕ → Reply)
      (transaction : VersionedTransaction) (slot : PendingTransactionId),
      Broadcast.Accounted signer.reading
        (((Signer.crossmint signer).signAndSend send).run answers
          (.start (transaction, slot))).2.log
        (· ≠ Signature.default)
        (((Signer.crossmint signer).signAndSend send).run answers
          (.start (transaction, slot))).1 ↔
      ¬ signer.LandsOnZeroTxId transaction answers) := by
  constructor
  · intro signer send answers transaction slot
    obtain ⟨result, log⟩ := Signer.signAndSend_run
      (show (Signer.fordefiNativeAuto signer).asSendingSigner = some ⟨_⟩ from rfl)
      send answers transaction slot
    have course := signer.signAndBroadcast_course transaction answers slot
    rw [result, log]
    refine (accounted_bind_requireBroadcastSignature
      (course.sound FordefiNativeAutoSigner.broadcastPlan_honest) fun _ => rfl).mpr ?_
    exact fun _ _ => FordefiNativeAutoSigner.signAndBroadcast_fst_ne_default
  · intro signer send answers transaction slot
    obtain ⟨result, log⟩ := Signer.signAndSend_run
      (show (Signer.crossmint signer).asSendingSigner = some ⟨_⟩ from rfl)
      send answers transaction slot
    have course := signer.executeManagedTransaction_course transaction answers slot
    rw [result, log]
    refine (accounted_bind_requireBroadcastSignature
      (course.sound CrossmintSigner.managedPlan_honest) fun _ => rfl).trans ?_
    rw [← CrossmintSigner.executeManagedTransaction_fst_eq_default]
    constructor
    · intro present missing
      obtain ⟨id, acceptedAs⟩ :=
        course.accepted_of_ok CrossmintSigner.managedPlan_honest missing
      exact present id acceptedAs missing
    · exact fun present _ _ => present

end

section

/-- Crossmint's answer to a create it has landed, with a `txId` of 64 zero bytes. -/
def zeroTxIdBody : Bytes :=
  utf8 ("\x7b\"id\":\"tx-1\",\"status\":\"success\",\"onChain\":\x7b\"txId\":\"" ++
    String.ofList (List.replicate 64 '1') ++ "\"\x7d\x7d")

def zeroTxIdValue : Value :=
  .object [("id", .string "tx-1"), ("status", .string "success"),
    ("onChain", .object [("txId", .string (String.ofList (List.replicate 64 '1')))])]

def printCreate : Value → String
  | .object [("params", .object [("transaction", .string transaction)])] =>
    "\x7b\"params\":\x7b\"transaction\":\"" ++ transaction ++ "\"\x7d\x7d"
  | _ => "null"

local instance zeroTxIdCrates : Crates :=
  .linked emptyDigest
    (fun body => if body = zeroTxIdBody then .ok zeroTxIdValue else .error "expected value")
    printCreate

local instance zeroTxIdCreate : FromSlice CreateTransactionResponse :=
  ⟨fun _ => .error "expected value"⟩

local instance zeroTxIdStatus : FromSlice TransactionStatusResponse :=
  ⟨fun _ => .error "expected value"⟩

def zeroTxIdSigner : CrossmintSigner where
  apiKey := "sk_production_1"
  walletLocator := "wallet-1"
  signer := none
  apiBaseUrl := "https://www.crossmint.com/api"
  publicKey := some emptyPayer
  maxPollAttempts := 60
  signingKey := none
  pendingTransactionId := false
  maxPollAttempts_pos := by decide

/-- The whole call, against a provider that lands the create at once. -/
def zeroTxIdRun : Except SignerError Signature × World Request Reply SendState :=
  ((Signer.crossmint zeroTxIdSigner).signAndSend fun _ => fail (.other "not called")).run
    (fun _ => .response 201 (.whole zeroTxIdBody)) (.start (emptyTransaction, ⟨[]⟩))

/-- The accepted broadcast is reported as a plain `SigningFailed`. -/
theorem signAndSend_drops_zero_txId :
    Broadcast.Accepted zeroTxIdSigner.reading zeroTxIdRun.2.log "tx-1" ∧
      zeroTxIdRun.1 = .error (.signingFailed
        "Signer returned no signature for the transaction it broadcast") ∧
      ¬ Broadcast.Accounted zeroTxIdSigner.reading zeroTxIdRun.2.log (· ≠ Signature.default)
        zeroTxIdRun.1 := by
  have accepted : Broadcast.Accepted zeroTxIdSigner.reading zeroTxIdRun.2.log "tx-1" := by
    decide +kernel
  have result : zeroTxIdRun.1 = .error (.signingFailed
      "Signer returned no signature for the transaction it broadcast") := by
    decide +kernel
  refine ⟨accepted, result, fun accounted => ?_⟩
  rw [result] at accounted
  rcases accounted "tx-1" accepted with ⟨_, returned, _⟩ | ⟨e, outcome, failed, unconfirmed, -⟩
  · cases returned
  · cases failed
    cases unconfirmed

end

/-! ## Caller-managed broadcast -/

section

variable {τ : Type}

/-- One call of the caller's `send`: what it was handed and what it returned. -/
structure SendCall where
  encoded : String
  outcome : Except SignerError Signature

/-- The caller's `send`, with a record of its calls. -/
def recorded (send : String → HttpProg τ SignerError Signature) (encoded : String) :
    HttpProg (VersionedTransaction × List SendCall × τ) SignerError Signature :=
  let note (outcome : Except SignerError Signature) :
      HttpProg (VersionedTransaction × List SendCall × τ) SignerError Unit :=
    modifyState fun (transaction, calls, own) => (transaction, calls ++ [⟨encoded, outcome⟩], own)
  do
    let signature ← (overSnd (overSnd (send encoded))).handle fun error => do
      note (.error error)
      fail error
    note (.ok signature)
    pure signature

theorem run_recorded {send : String → HttpProg τ SignerError Signature} {encoded : String}
    {answers : ℕ → Reply} {transaction : VersionedTransaction} {calls : List SendCall} {own : τ}
    {log : List (Request × Reply)} :
    (recorded send encoded).run answers ⟨(transaction, calls, own), log⟩ =
      (((send encoded).run answers ⟨own, log⟩).1,
        ⟨(transaction, calls ++ [⟨encoded, ((send encoded).run answers ⟨own, log⟩).1⟩],
          ((send encoded).run answers ⟨own, log⟩).2.state),
          ((send encoded).run answers ⟨own, log⟩).2.log⟩) := by
  simp only [recorded, run_bind, run_handle, run_overSnd]
  rcases (send encoded).run answers ⟨own, log⟩ with ⟨error | signature, w⟩
  · rfl
  · rfl

variable [Crates]

/-- An `Ok` result carries the wire encoding of the transaction the signer leaves. -/
def CarriesEncoding
    (sign : HttpProg VersionedTransaction SignerError SignTransactionResult) : Prop :=
  ∀ answers transaction result w, sign.run answers (.start transaction) = (.ok result, w) →
    serializeTransaction w.state = .ok result.signed.encoded

/-- A backend that binds its results carries their encoding. -/
theorem Binds.carriesEncoding {publicKey : Option Pubkey}
    {sign : HttpProg VersionedTransaction SignerError SignTransactionResult}
    (binds : Binds publicKey sign) : CarriesEncoding sign := by
  intro answers transaction result w ran
  rcases binds transaction answers result w ran with ⟨key, -, binding⟩
  exact serializeTransaction_eq_ok.mpr binding.encoded

/-- What a call makes of the caller's `send`, when the signer ends with `signing`
and leaves the transaction `left`. -/
structure BroadcastOnce (signing : Except SignerError SignTransactionResult)
    (left : VersionedTransaction) (calls : List SendCall)
    (result : Except SignerError Signature) : Prop where
  once : calls.length ≤ 1
  /-- `send` is handed the encoding of a completely signed transaction whose first
  signature is there. -/
  guarded : ∀ call ∈ calls, ∃ signed first, signing = .ok (.complete signed) ∧
    call.encoded = signed.encoded ∧ serializeTransaction left = .ok call.encoded ∧
    left.signatures.head? = some first ∧ first ≠ Signature.default
  /-- A failed `send` is reported under the first signature of what it was handed. -/
  unconfirmed : ∀ call ∈ calls, ∀ error, call.outcome = .error error →
    ∃ outcome, result = .error (.broadcastUnconfirmed outcome) ∧
      outcome.transactionSignature = left.signatures.head?
  /-- Without a `send` the error is the signer's own or `SigningFailed`. -/
  unsent : calls = [] → ∃ error, result = .error error ∧
    (signing = .error error ∨ ∃ detail, error = .signingFailed detail)
  /-- The signature returned is the one `send` returned. -/
  returned : ∀ signature, result = .ok signature →
    ∃ encoded, calls = [⟨encoded, .ok signature⟩]

/-- The signer failed, or the broadcast was refused, before any `send`. -/
theorem BroadcastOnce.of_unsent {signing : Except SignerError SignTransactionResult}
    {left : VersionedTransaction} {error : SignerError}
    (own : signing = .error error ∨ ∃ detail, error = .signingFailed detail) :
    BroadcastOnce signing left [] (.error error) where
  once := by simp
  guarded := by simp
  unconfirmed := by simp
  unsent _ := ⟨error, rfl, own⟩
  returned := by simp

/-- What `broadcastComplete` makes of a signed transaction. -/
theorem broadcastOnce_broadcastComplete {result : SignTransactionResult}
    {left : VersionedTransaction} (encoded : serializeTransaction left = .ok result.signed.encoded)
    {send : String → HttpProg τ SignerError Signature} {answers : ℕ → Reply} {own : τ}
    {log : List (Request × Reply)} :
    let sent := (broadcastComplete result left.signatures.head? (recorded send)).run answers
      ⟨(left, [], own), log⟩
    BroadcastOnce (.ok result) left sent.2.state.2.1 sent.1 := by
  cases result with
  | incomplete signed => exact .of_unsent (.inr ⟨_, rfl⟩)
  | complete signed =>
    simp only [broadcastComplete, SignTransactionResult.isComplete, Bool.not_true,
      Bool.false_eq_true, if_false]
    cases named : left.signatures.head?.filter (· != Signature.default) with
    | none => exact .of_unsent (.inr ⟨_, rfl⟩)
    | some first =>
      obtain ⟨head, nonDefault⟩ := Option.filter_eq_some_iff.mp named
      have present : first ≠ Signature.default := by simpa using nonDefault
      simp only [run_mapError, run_recorded, List.nil_append]
      -- from here `send` has run once, on the signer's encoding
      generalize ((send (SignTransactionResult.complete signed).signed.encoded).run answers
        ⟨own, log⟩).1 = outcome
      refine {
        once := by simp
        guarded := ?_
        unconfirmed := ?_
        unsent := by simp
        returned := ?_ }
      · intro call member
        cases List.mem_singleton.mp member
        exact ⟨signed, first, rfl, rfl, encoded, head, present⟩
      · intro call member error failed
        cases List.mem_singleton.mp member
        cases failed
        exact ⟨_, rfl, head.symm⟩
      · intro signature same
        cases mapError_eq_ok.mp same
        exact ⟨_, rfl⟩

/-- Signing and then sending, whatever the signer does with the transaction. -/
theorem broadcastOnce_of_sign
    {sign : HttpProg VersionedTransaction SignerError SignTransactionResult}
    (carries : CarriesEncoding sign) {send : String → HttpProg τ SignerError Signature}
    {transaction : VersionedTransaction} {answers : ℕ → Reply} {own : τ} :
    let signing := sign.run answers (.start transaction)
    let sent := (do
      let result ← overFst sign
      let (transaction, _) ← state
      broadcastComplete result transaction.signatures.head? (recorded send)).run answers
        (.start (transaction, [], own))
    BroadcastOnce signing.1 signing.2.state sent.2.state.2.1 sent.1 := by
  simp only [run_bind, run_overFst, run_state, World.start]
  rcases signs : sign.run answers ⟨transaction, []⟩ with ⟨error | result, w⟩
  · exact .of_unsent (.inl rfl)
  · exact broadcastOnce_broadcastComplete (carries answers transaction result w signs)

/-- A caller who broadcasts is promised `BroadcastOnce` by either kind of signer,
with the transaction the signer left; the unified signer takes the same routes. -/
theorem signAndSend_broadcasts_once [FromSlice CreateTransactionResponse]
    [FromSlice TransactionStatusResponse] :
    (∀ (signer : TransactionSigner), CarriesEncoding signer.signTransaction →
      ∀ (send : String → HttpProg τ SignerError Signature) (transaction : VersionedTransaction)
        (answers : ℕ → Reply) (own : τ),
      let signing := signer.signTransaction.run answers (.start transaction)
      let sent := (signAndSend signer (recorded send)).run answers
        (.start (transaction, [], own))
      BroadcastOnce signing.1 signing.2.state sent.2.state.2.1 sent.1) ∧
    (∀ (signer : ModifyingSigner), CarriesEncoding signer.modifyAndSignTransaction →
      ∀ (send : String → HttpProg τ SignerError Signature) (transaction : VersionedTransaction)
        (answers : ℕ → Reply) (own : τ),
      let signing := signer.modifyAndSignTransaction.run answers (.start transaction)
      let sent := (modifyAndSend signer (recorded send)).run answers
        (.start (transaction, [], own))
      BroadcastOnce signing.1 signing.2.state sent.2.state.2.1 sent.1) ∧
    (∀ backend send, (Signer.signing backend).signAndSend send = signAndSend backend send) ∧
    (∀ backend send,
      (Signer.fordefiNativeManual backend).signAndSend send = modifyAndSend backend send) := by
  refine ⟨?_, ?_, fun _ _ => rfl, fun _ _ => rfl⟩
  · intro signer carries send transaction answers own
    exact broadcastOnce_of_sign carries
  · intro signer carries send transaction answers own
    exact broadcastOnce_of_sign carries

end

section

local instance sendCrates : Crates :=
  .linked emptyDigest (fun _ => .error "expected value") fun _ => "null"

local instance sendCreate : FromSlice CreateTransactionResponse :=
  ⟨fun _ => .error "expected value"⟩

local instance sendStatus : FromSlice TransactionStatusResponse :=
  ⟨fun _ => .error "expected value"⟩

/-- A signer that fills the only slot of `emptyTransaction`. -/
def fillingSigner : TransactionSigner where
  signTransaction := do
    modifyState fun transaction => { transaction with signatures := [filledSignature] }
    let transaction ← state
    let encoded ← ofExcept (serializeTransaction transaction)
    pure (classifySignedTransaction transaction ⟨encoded, filledSignature⟩)

theorem fillingSigner_carriesEncoding : CarriesEncoding fillingSigner.signTransaction := by
  intro answers transaction result w ran
  cases ran
  simp only [classifySignedTransaction_signed]
  rfl

/-- The call with a `send` whose RPC node cannot be reached. -/
def unreachableRun : Except SignerError Signature ×
    World Request Reply (VersionedTransaction × List SendCall × Unit) :=
  (signAndSend fillingSigner (recorded fun _ => fail (.httpError "connection refused"))).run
    (fun _ => .failed "connection refused") (.start (emptyTransaction, [], ()))

/-- The one failed `send` is reported under the fee payer's signature. -/
theorem unreachable_send_unconfirmed :
    CarriesEncoding fillingSigner.signTransaction ∧
      unreachableRun.2.state.2.1.length = 1 ∧
      BroadcastOnce
        (fillingSigner.signTransaction.run (fun _ => .failed "connection refused")
          (.start emptyTransaction)).1
        { emptyTransaction with signatures := [filledSignature] }
        unreachableRun.2.state.2.1 unreachableRun.1 :=
  ⟨fillingSigner_carriesEncoding, by decide +kernel,
    signAndSend_broadcasts_once.1 fillingSigner fillingSigner_carriesEncoding
      (fun _ => fail (.httpError "connection refused")) emptyTransaction
      (fun _ => .failed "connection refused") ()⟩

end

end Keychain.Rust
