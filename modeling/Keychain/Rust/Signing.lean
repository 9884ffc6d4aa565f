import Keychain.Rust.RemoteUtil
import Keychain.Rust.SignatureUtil

/-!
The tail every `TransactionSigner` backend shares: once a signature is in hand it
is placed into the caller's transaction, the transaction is serialized and the
result classified.

`SignatureBinding` is what an `Ok` result promises about the transaction it
leaves behind. `binds_of_signAndSerialize` reduces the promise of a backend to one fact
about how it obtains its signature: that the signature verifies under the
signer's key over the message bytes.
-/

namespace Keychain.Rust

open Prog

variable {Q A : Type}

/-! ## The promise -/

/-- What an `Ok` result binds: the caller's transaction `before` became `after`. -/
structure SignatureBinding [Crates] (publicKey : Pubkey) (before after : VersionedTransaction)
    (result : SignTransactionResult) : Prop where
  /-- The message is the caller's. -/
  message : after.message = before.message
  /-- The slots are the caller's, extended with default signatures to the
  required number; only the signer's first required position was replaced. -/
  slots : ∃ position, before.message.requiredKeys.idxOf? publicKey = some position ∧
    before.message.numRequired ≤ before.message.staticAccountKeys.length ∧
    position < (resizedSignatures before).length ∧
    after.signatures = (resizedSignatures before).set position result.signed.signature
  /-- The signature verifies over the caller's message bytes. -/
  verified : verifies result.signed.signature publicKey
    (Crates.serializeMessage before.message) = true
  /-- The encoding is the base64 wire form of the resulting transaction. -/
  encoded : ∃ wire, Crates.serializeWire after = .ok wire ∧
    result.signed.encoded = Crates.base64Encode wire
  /-- The result is complete exactly when every required slot is filled. -/
  complete : result.isComplete ↔ ∀ i < after.message.numRequired,
    ∃ slot, after.signatures[i]? = some slot ∧ slot ≠ Signature.default

/-- Every `Ok` run of a `sign_transaction` binds its result to the signer's key. -/
def Binds [Crates] (publicKey : Option Pubkey)
    (signTransaction : Prog Q A VersionedTransaction SignerError SignTransactionResult) : Prop :=
  ∀ transaction answers result w,
    signTransaction.run answers (.start transaction) = (.ok result, w) →
      ∃ key, publicKey = some key ∧ SignatureBinding key transaction w.state result

/-! ## The shared tail -/

/-- The signature of `sign`, once it passes the check. -/
def checked {σ : Type} (check : Signature → Except SignerError Unit)
    (sign : Prog Q A σ SignerError Signature) : Prog Q A σ SignerError Signature := do
  let signature ← sign
  ofExcept (check signature)
  pure signature

/-- Place a signature into the caller's transaction and serialize it. -/
def placeAndSerialize [Crates] (publicKey : Pubkey) (signature : Signature) :
    Prog Q A VersionedTransaction SignerError SignedTransaction := do
  let transaction ← state
  let placed ← ofExcept (addSignatureToTransaction transaction publicKey signature)
  modifyState fun _ => placed
  let encoded ← ofExcept (serializeTransaction placed)
  pure ⟨encoded, signature⟩

/-- `sign_transaction` of every backend: sign and serialize, then classify. -/
def signAndClassify
    (signAndSerialize : Prog Q A VersionedTransaction SignerError SignedTransaction) :
    Prog Q A VersionedTransaction SignerError SignTransactionResult := do
  let signed ← signAndSerialize
  let transaction ← state
  pure (classifySignedTransaction transaction signed)

/-! ## The tail keeps the promise -/

theorem checked_yields {σ : Type} {check : Signature → Except SignerError Unit}
    {sign : Prog Q A σ SignerError Signature} {P : Signature → Prop}
    (sound : ∀ signature u, check signature = .ok u → P signature) :
    (checked check sign).Yields P := by
  refine yields_bind fun signature answers w => ?_
  simp only [meets_bind, meets_ofExcept, meets_pure]
  exact ⟨sound signature, fun _ _ => trivial⟩

theorem checked_keeps {σ : Type} {check : Signature → Except SignerError Unit}
    {sign : Prog Q A σ SignerError Signature} (keeps : sign.Keeps) :
    (checked check sign).Keeps :=
  keeps.bind fun _ => keeps_ofExcept.bind fun _ => keeps_pure

section

variable [Crates] {publicKey : Pubkey} {signature : Signature}
  {before : VersionedTransaction} {answers : ℕ → A} {w : World Q A VersionedTransaction}

/-- What `placeAndSerialize` leaves behind when it returns. -/
def Placed (publicKey : Pubkey) (signature : Signature) (before after : VersionedTransaction)
    (signed : SignedTransaction) : Prop :=
  addSignatureToTransaction before publicKey signature = .ok after ∧
    (∃ wire, Crates.serializeWire after = .ok wire ∧ signed.encoded = Crates.base64Encode wire) ∧
    signed.signature = signature

theorem placeAndSerialize_meets (start : w.state = before) :
    (placeAndSerialize publicKey signature : Prog Q A _ _ _).Meets answers w
      (fun signed w' => Placed publicKey signature before w'.state signed)
      (fun _ _ => True) := by
  unfold placeAndSerialize
  simp only [meets_bind, meets_state, meets_ofExcept, meets_modifyState, meets_pure, start]
  refine ⟨fun placed added => ⟨fun encoded serialized => ?_, fun _ _ => trivial⟩,
    fun _ _ => trivial⟩
  exact ⟨added, serializeTransaction_eq_ok.mp serialized, rfl⟩

/-- A placed signature that verifies is bound. -/
theorem SignatureBinding.of_placed {after : VersionedTransaction} {signed : SignedTransaction}
    (placed : Placed publicKey signature before after signed)
    (verified : verifies signature publicKey (Crates.serializeMessage before.message) = true) :
    SignatureBinding publicKey before after (classifySignedTransaction after signed) := by
  rcases placed with ⟨added, encoded, same⟩
  have location := addSignatureToTransaction_eq_ok.mp added
  rcases location with ⟨position, found, rfl⟩
  have required := getSigningKeypairPosition_eq_ok.mp found
  rcases required with ⟨enough, first⟩
  refine {
    message := rfl
    slots := ⟨position, first, enough, position_lt_length_resizedSignatures first, ?_⟩
    verified := ?_
    encoded := ?_
    complete := ?_ }
  · simp [same]
  · simpa [same] using verified
  · simpa using encoded
  · rw [classifySignedTransaction_isComplete]
    exact hasAllRequiredSignatures_iff

/-- The tail after a program that keeps the transaction and yields verified
signatures. -/
theorem meets_bind_placeAndSerialize {key : Option Pubkey} {message : VersionedMessage}
    {sign : Prog Q A VersionedTransaction SignerError Signature} (own : key = some publicKey)
    (start : w.state = before) (same : before.message = message) (keeps : sign.Keeps)
    (yields : sign.Yields fun signature =>
      verifies signature publicKey (Crates.serializeMessage message) = true) :
    (sign >>= placeAndSerialize publicKey).Meets answers w
      (fun signed w' => ∃ publicKey signature, key = some publicKey ∧
        verifies signature publicKey (Crates.serializeMessage before.message) = true ∧
        Placed publicKey signature before w'.state signed)
      (fun _ _ => True) := by
  rw [meets_bind]
  have kept := keeps answers w
  have verified := yields answers w
  refine meets_of_run ?_ fun _ _ _ => trivial
  intro signature w' ran
  rw [ran] at kept
  have valid := verified.of_run_ok ran
  refine (placeAndSerialize_meets (kept.trans start)).mono ?_ fun _ _ _ => trivial
  intro signed w'' placed
  exact ⟨publicKey, signature, own, same ▸ valid, placed⟩

/-- A backend that obtains a verified signature and hands it to the shared tail
binds its results. -/
theorem binds_of_signAndSerialize {key : Option Pubkey}
    {signAndSerialize : Prog Q A VersionedTransaction SignerError SignedTransaction}
    (obtains : ∀ transaction answers, signAndSerialize.Meets answers (.start transaction)
      (fun signed w => ∃ publicKey signature, key = some publicKey ∧
        verifies signature publicKey (Crates.serializeMessage transaction.message) = true ∧
        Placed publicKey signature transaction w.state signed)
      (fun _ _ => True)) :
    Binds key (signAndClassify signAndSerialize) := by
  intro transaction answers result w ran
  have classified : (signAndClassify signAndSerialize).Meets answers (.start transaction)
      (fun result w => ∃ publicKey, key = some publicKey ∧
        SignatureBinding publicKey transaction w.state result) (fun _ _ => True) := by
    unfold signAndClassify
    simp only [meets_bind, meets_state, meets_pure]
    refine (obtains transaction answers).mono ?_ fun _ _ _ => trivial
    intro signed w' bound
    rcases bound with ⟨publicKey, signature, own, verified, placed⟩
    exact ⟨publicKey, own, .of_placed placed verified⟩
  exact classified.of_run_ok ran

end

end Keychain.Rust
