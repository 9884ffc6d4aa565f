import Keychain.Rust.Fordefi.Namespace
import Keychain.Rust.Send

/-!
`FordefiNativeManualSigner`: a create with `push_mode: "manual"` is rewritten and
signed by Fordefi and handed back. The signer replaces the caller's transaction by
the one that came back.

`modifyAndSignTransaction_all_or_nothing` is its promise: the replacement is the
last thing that happens, and everything an `Ok` result says is about the rewritten
transaction.
-/

namespace Keychain.Rust.Fordefi

open Prog

structure FordefiNativeManualSigner where
  core : FordefiCore
  chain : SolanaChainUniqueId
  fee : Option FordefiSolanaFee

namespace FordefiNativeManualSigner

variable {σ : Type}

/-! ## The signer -/

/-- Fordefi only rewrites a message it pays for. -/
def validateTransaction (signer : FordefiNativeManualSigner)
    (transaction : VersionedTransaction) : Except SignerError Unit :=
  require (transaction.message.staticAccountKeys.head? = some signer.core.publicKey)
    (.signingFailed ("Fordefi native manual signing requires the configured vault to be " ++
      "the transaction fee payer"))

section

variable [Crates] [FromSlice CreateTransactionResponse] [FromSlice TransactionStatusResponse]

/-- Rewrite and sign: submit, poll, parse the wire transaction. The caller's
transaction is replaced with the one the returned signature covers. -/
def modifyAndSerialize (signer : FordefiNativeManualSigner) :
    HttpProg VersionedTransaction SignerError SignedTransaction := do
  let transaction ← state
  ofExcept (signer.validateTransaction transaction)
  let messageData := Crates.serializeMessage transaction.message
  let txId ← signer.core.submitSolanaTransaction signer.chain signer.fee .manual messageData
  let result ← signer.core.pollForResult txId false
  let wireBytes ← ofExcept (FordefiCore.decodeRawTransaction result)
  let (returnedTx, signature) ←
    ofExcept (extractAndVerifyRewrittenTransaction wireBytes signer.core.publicKey)
  let encoded ← ofExcept (serializeTransaction returnedTx)
  modifyState fun _ => returnedTx
  pure ⟨encoded, signature⟩

def modifyAndSignTransaction (signer : FordefiNativeManualSigner) :
    HttpProg VersionedTransaction SignerError SignTransactionResult :=
  signAndClassify signer.modifyAndSerialize

def toModifyingSigner (signer : FordefiNativeManualSigner) : ModifyingSigner :=
  ⟨signer.modifyAndSignTransaction⟩

/-! ## What it promises -/

/-- What an `Ok` result says about the transaction `after` left to the caller,
once the conversation `log` is over. -/
structure RewriteBinding (signer : FordefiNativeManualSigner) (log : List (Request × Reply))
    (after : VersionedTransaction) (result : SignTransactionResult) : Prop where
  /-- The transaction is the `raw_transaction` of the last poll, decoded. -/
  decoded : ∃ txId reply status raw wire,
    log.getLast? = some (signer.core.pollRequest txId, reply) ∧
    (received reply >>= FordefiCore.pollOutcome txId false) = .ok (.done status) ∧
    status.rawTransaction = some raw ∧ Crates.base64Decode raw = .ok wire ∧
    Crates.deserializeWire wire = .ok after
  /-- The signature is the vault's own, at its first required position. -/
  slot : ∃ position, after.message.numRequired ≤ after.message.staticAccountKeys.length ∧
    after.message.requiredKeys.idxOf? signer.core.publicKey = some position ∧
    after.signatures[position]? = some result.signed.signature ∧
    result.signed.signature ≠ Signature.default
  /-- It verifies over the message of that very transaction. -/
  verified : verifies result.signed.signature signer.core.publicKey
    (Crates.serializeMessage after.message) = true
  /-- The encoding is the base64 wire form of that transaction. -/
  encoded : ∃ wire, Crates.serializeWire after = .ok wire ∧
    result.signed.encoded = Crates.base64Encode wire
  /-- The result is complete exactly when every required slot of it is filled. -/
  complete : result.isComplete ↔ ∀ i < after.message.numRequired,
    ∃ slot, after.signatures[i]? = some slot ∧ slot ≠ Signature.default

/-- The replacement is the last step: whatever fails before it leaves the caller's
transaction as it was. -/
theorem modifyAndSerialize_meets {signer : FordefiNativeManualSigner}
    {transaction : VersionedTransaction} {answers : ℕ → Reply} :
    signer.modifyAndSerialize.Meets answers (.start transaction)
      (fun signed w => signer.RewriteBinding w.log w.state
        (classifySignedTransaction w.state signed))
      (fun _ w => w.state = transaction) := by
  unfold modifyAndSerialize
  simp only [meets_bind, meets_state, meets_ofExcept]
  refine ⟨fun _ _ => ?_, fun _ _ => rfl⟩
  refine FordefiCore.submitRequest_keeps.meets.mono ?_ fun _ _ kept => kept
  intro txId w submitted
  refine FordefiCore.pollForResult_meets.mono ?_ fun _ _ kept => kept.trans submitted
  intro status w' polled
  rcases polled with ⟨kept, reply, last, settled⟩
  have quiet : w'.state = transaction := kept.trans submitted
  refine ⟨fun wire decoded => ⟨?_, fun _ _ => quiet⟩, fun _ _ => quiet⟩
  intro returned extracted
  rcases returned with ⟨returnedTx, signature⟩
  simp only [meets_modifyState, meets_pure]
  refine ⟨fun encoded serialized => ?_, fun _ _ => quiet⟩
  rcases FordefiCore.decodeRawTransaction_eq_ok.mp decoded with ⟨raw, carried, bytes⟩
  rcases extractAndVerifyRewrittenTransaction_eq_ok.mp extracted
    with ⟨deserialized, located, verified⟩
  rcases signatureAtSignerPosition_eq_ok.mp located with ⟨position, found, slotted, nonDefault⟩
  have required := getSigningKeypairPosition_eq_ok.mp found
  refine {
    decoded := ⟨txId, reply, status, raw, wire, last, settled, carried, bytes, deserialized⟩
    slot := ⟨position, required.1, required.2, ?_, ?_⟩
    verified := ?_
    encoded := ?_
    complete := ?_ }
  · simpa using slotted
  · simpa using nonDefault
  · simpa using verified
  · simpa using serializeTransaction_eq_ok.mp serialized
  · rw [classifySignedTransaction_isComplete]
    exact hasAllRequiredSignatures_iff

theorem modifyAndSignTransaction_meets {signer : FordefiNativeManualSigner}
    {transaction : VersionedTransaction} {answers : ℕ → Reply} :
    signer.modifyAndSignTransaction.Meets answers (.start transaction)
      (fun result w => signer.RewriteBinding w.log w.state result)
      (fun _ w => w.state = transaction) := by
  unfold modifyAndSignTransaction signAndClassify
  simp only [meets_bind, meets_state, meets_pure]
  exact modifyAndSerialize_meets

/-- A caller who broadcasts the rewritten transaction is handed its encoding. -/
theorem toModifyingSigner_carriesEncoding {signer : FordefiNativeManualSigner} :
    CarriesEncoding signer.toModifyingSigner.modifyAndSignTransaction := by
  intro answers transaction result w ran
  have binding := modifyAndSignTransaction_meets.of_run_ok ran
  exact serializeTransaction_eq_ok.mpr binding.encoded

/-- An `Err` leaves the caller's transaction as it was passed in. An `Ok` leaves
the transaction Fordefi returned, and speaks about no other. -/
theorem modifyAndSignTransaction_all_or_nothing (signer : FordefiNativeManualSigner)
    (transaction : VersionedTransaction) (answers : ℕ → Reply) :
    (∀ error w, signer.modifyAndSignTransaction.run answers (.start transaction) =
      (.error error, w) → w.state = transaction) ∧
    (∀ result w, signer.modifyAndSignTransaction.run answers (.start transaction) =
      (.ok result, w) → signer.RewriteBinding w.log w.state result) := by
  have meets : signer.modifyAndSignTransaction.Meets answers (.start transaction)
      (fun result w => signer.RewriteBinding w.log w.state result)
      (fun _ w => w.state = transaction) := modifyAndSignTransaction_meets
  constructor
  · intro error w ran
    exact meets.of_run_error ran
  · intro result w ran
    exact meets.of_run_ok ran

end

/-! ## A rewritten transaction -/

section

/-- `emptyTransaction` with another blockhash, signed by the vault. -/
def rewrittenTransaction : VersionedTransaction where
  signatures := [filledSignature]
  message := { emptyTransaction.message with rest := 7 :: List.replicate 32 0 }

local instance rewriteCrates : Crates :=
  { Crates.linked emptyDigest (fun _ => .error "expected value") (fun _ => "null") with
    base64Encode := Keychain.base64Encode
    base64Decode := fun text =>
      if text = Keychain.base64Encode (legacyWire rewrittenTransaction) then
        .ok (legacyWire rewrittenTransaction)
      else
        .error "Invalid symbol"
    deserializeWire := fun bytes =>
      if bytes = legacyWire rewrittenTransaction then .ok rewrittenTransaction
      else .error "unexpected end of file"
    ed25519Verify := fun signature publicKey _ =>
      signature == filledSignature && publicKey == emptyPayer }

local instance rewriteCreate : FromSlice CreateTransactionResponse := ⟨fun _ => .ok ⟨"tx-1"⟩⟩

local instance rewriteStatus : FromSlice TransactionStatusResponse :=
  ⟨fun _ => .ok ⟨"signed", none, some (base64Encode (legacyWire rewrittenTransaction))⟩⟩

/-- The result of a call that leaves `rewrittenTransaction`. -/
def rewrittenResult : SignTransactionResult :=
  .complete ⟨base64Encode (legacyWire rewrittenTransaction), filledSignature⟩

def rewritingSigner : FordefiNativeManualSigner where
  core := { FordefiCore.vaultOne with publicKey := emptyPayer }
  chain := .solanaMainnet
  fee := none

/-- The call that Fordefi answers with `rewrittenTransaction` at the first poll. -/
def rewritingRun :
    Except SignerError SignTransactionResult × World Request Reply VersionedTransaction :=
  rewritingSigner.modifyAndSignTransaction.run (fun _ => .response 200 (.whole []))
    (.start emptyTransaction)

/-- The caller is left with the rewritten transaction, bound to its signature. -/
theorem rewritingRun_binds :
    rewritingRun.1 = .ok rewrittenResult ∧ rewritingRun.2.state = rewrittenTransaction ∧
      rewritingSigner.RewriteBinding rewritingRun.2.log rewritingRun.2.state
        rewrittenResult := by
  have ends : (rewritingRun.1, rewritingRun.2.state) =
      (.ok rewrittenResult, rewrittenTransaction) := by
    decide +kernel
  rcases Prod.mk.inj ends with ⟨result, left⟩
  refine ⟨result, left, ?_⟩
  have promised := modifyAndSignTransaction_all_or_nothing rewritingSigner emptyTransaction
    fun _ => .response 200 (.whole [])
  have ran : rewritingRun = (.ok rewrittenResult, rewritingRun.2) := by
    rw [← result]
  exact promised.2 rewrittenResult rewritingRun.2 ran

end

end FordefiNativeManualSigner

end Keychain.Rust.Fordefi
