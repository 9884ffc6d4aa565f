import Keychain.Rust.PrivySigner

/-!
The promises of signing in place, for the backends of `Wallets` and `PrivySigner`: an
`Ok` binds the signature to the signer's key and to the caller's message, an error
leaves the caller's transaction alone.
-/

namespace Keychain.Rust

open Prog

/-! ## Binding -/

section

variable [Crates] [TokenCrates] [FromSlice CdpSignTransactionResponse]
  [FromSlice OpenfortSignResponse] [FromSlice PrivySignTransactionResponse]

/-- A signer that has not been initialized has no key and returns nothing. -/
theorem wallet_signTransaction_binds {Keypair Q A : Type} [KeypairSigning Keypair]
    (sound : KeypairSigning.Sound Keypair) :
    (∀ signer : MemorySigner Keypair,
      Binds (some signer.pubkey) (signer.signTransaction : Prog Q A _ _ _)) ∧
    (∀ signer : AwsKmsSigner, Binds (some signer.publicKey) signer.signTransaction) ∧
    (∀ signer : GcpKmsSigner, Binds (some signer.publicKey) signer.signTransaction) ∧
    (∀ signer : CdpSigner, Binds (some signer.publicKey) signer.signTransaction) ∧
    (∀ signer : OpenfortSigner, Binds signer.publicKey signer.signTransaction) ∧
    (∀ signer : PrivySigner, Binds signer.publicKey signer.signTransaction) :=
  ⟨fun _ => MemorySigner.signTransaction_binds_key sound,
    fun _ => AwsKmsSigner.signTransaction_binds_key,
    fun _ => GcpKmsSigner.signTransaction_binds_key,
    fun _ => CdpSigner.signTransaction_binds_key,
    fun _ => OpenfortSigner.signTransaction_binds_key,
    fun _ => PrivySigner.signTransaction_binds_key⟩

end

/-! ## Atomicity -/

section

variable [Crates] {messageFits : VersionedMessage → Prop} {transaction : VersionedTransaction}

theorem MemorySigner.signTransaction_atomic_iff {Keypair Q A : Type} [KeypairSigning Keypair]
    (compact : CompactLengths messageFits) {signer : MemorySigner Keypair} {answers : ℕ → A} :
    AtomicOnFailure (signer.signTransaction : Prog Q A _ _ _) transaction answers ↔
      Fits messageFits transaction ∨
        ¬ Overwrites (some signer.pubkey)
          (pure (signer.signBytes (Crates.serializeMessage transaction.message)) : Prog Q A _ _ _)
          transaction answers := by
  refine atomicOnFailure_iff_of_run compact keeps_pure ?_
  rw [signTransaction, signAndSerialize]
  rfl

theorem AwsKmsSigner.signTransaction_atomic_iff (compact : CompactLengths messageFits)
    {signer : AwsKmsSigner} {answers : ℕ → AwsSignOutput} :
    AtomicOnFailure signer.signTransaction transaction answers ↔
      Fits messageFits transaction ∨
        ¬ Overwrites (some signer.publicKey)
          (signer.signBytes (Crates.serializeMessage transaction.message)) transaction answers := by
  refine atomicOnFailure_iff_of_run compact signBytes_keeps ?_
  rw [signTransaction, signAndSerialize]
  rfl

theorem GcpKmsSigner.signTransaction_atomic_iff (compact : CompactLengths messageFits)
    {signer : GcpKmsSigner} {answers : ℕ → GcpSignResponse} :
    AtomicOnFailure signer.signTransaction transaction answers ↔
      Fits messageFits transaction ∨
        ¬ Overwrites (some signer.publicKey)
          (signer.signBytes (Crates.serializeMessage transaction.message)) transaction answers := by
  refine atomicOnFailure_iff_of_run compact signBytes_keeps ?_
  rw [signTransaction, signAndSerialize]
  rfl

theorem CdpSigner.signTransaction_atomic_iff [TokenCrates] [FromSlice CdpSignTransactionResponse]
    (compact : CompactLengths messageFits) {signer : CdpSigner} {answers : ℕ → Reply} :
    AtomicOnFailure signer.signTransaction transaction answers ↔
      Fits messageFits transaction ∨
        ¬ Overwrites (some signer.publicKey) (signer.signWire transaction) transaction
          answers := by
  refine atomicOnFailure_iff_of_run compact signWire_keeps ?_
  rw [signTransaction, signAndSerialize]
  rfl

theorem OpenfortSigner.signTransaction_atomic_iff [TokenCrates] [FromSlice OpenfortSignResponse]
    (compact : CompactLengths messageFits) {signer : OpenfortSigner} {answers : ℕ → Reply} :
    AtomicOnFailure signer.signTransaction transaction answers ↔
      Fits messageFits transaction ∨
        ¬ Overwrites signer.publicKey
          (signer.signBytes (Crates.serializeMessage transaction.message)) transaction
          answers := by
  cases own : signer.publicKey with
  | none =>
    refine atomicOnFailure_iff_of_quiet ?_
    simp [signTransaction, signAndClassify, signAndSerialize, initializedPubkey, own, okOr,
      run_bind]
  | some publicKey =>
    have initialized : signer.initializedPubkey = .ok publicKey := by
      simp [initializedPubkey, own, okOr]
    refine atomicOnFailure_iff_of_run compact signBytes_keeps ?_
    rw [signTransaction, signAndSerialize, initialized, ofExcept_ok_bind]
    simp only [signAndClassify, run_bind, run_state]
    rfl

/-- What Privy is sent depends on the key only through the check of its answer. -/
theorem PrivySigner.signTransaction_atomic_iff [TokenCrates]
    [FromSlice PrivySignTransactionResponse] (compact : CompactLengths messageFits)
    {signer : PrivySigner} {answers : ℕ → Reply} :
    AtomicOnFailure signer.signTransaction transaction answers ↔
      Fits messageFits transaction ∨
        ∀ publicKey, signer.publicKey = some publicKey →
          ¬ Overwrites (some publicKey) (signer.signWire publicKey transaction) transaction
            answers := by
  cases own : signer.publicKey with
  | none =>
    have quiet : (signer.signTransaction.run answers (.start transaction)).2.state =
        transaction := by
      simp [signTransaction, signAndClassify, signAndSerialize, initializedPubkey, own, okOr,
        run_bind]
    have atomic : AtomicOnFailure signer.signTransaction transaction answers := by
      intro e w ran
      rw [ran] at quiet
      exact quiet
    simp [atomic]
  | some publicKey =>
    have initialized : signer.initializedPubkey = .ok publicKey := by
      simp [initializedPubkey, own, okOr]
    have whole : AtomicOnFailure signer.signTransaction transaction answers ↔
        Fits messageFits transaction ∨
          ¬ Overwrites (some publicKey) (signer.signWire publicKey transaction) transaction
            answers := by
      refine atomicOnFailure_iff_of_run compact signWire_keeps ?_
      rw [signTransaction, signAndSerialize, initialized, ofExcept_ok_bind]
      simp only [signAndClassify, run_bind, run_state]
      rfl
    simpa using whole

/-- A failed `sign_transaction` leaves the caller's transaction alone exactly when
the transaction is within the wire limit, or the call has no signature to write. -/
theorem failed_wallet_signTransaction_atomic_iff [TokenCrates]
    [FromSlice CdpSignTransactionResponse] [FromSlice OpenfortSignResponse]
    [FromSlice PrivySignTransactionResponse] (Keypair Q A : Type) [KeypairSigning Keypair]
    (messageFits : VersionedMessage → Prop) (compact : CompactLengths messageFits)
    (transaction : VersionedTransaction) :
    (∀ (signer : MemorySigner Keypair) (answers : ℕ → A),
      AtomicOnFailure (signer.signTransaction : Prog Q A _ _ _) transaction answers ↔
        Fits messageFits transaction ∨
          ¬ Overwrites (some signer.pubkey)
            (pure (signer.signBytes (Crates.serializeMessage transaction.message)) :
              Prog Q A _ _ _) transaction answers) ∧
    (∀ (signer : AwsKmsSigner) (answers : ℕ → AwsSignOutput),
      AtomicOnFailure signer.signTransaction transaction answers ↔
        Fits messageFits transaction ∨
          ¬ Overwrites (some signer.publicKey)
            (signer.signBytes (Crates.serializeMessage transaction.message)) transaction
            answers) ∧
    (∀ (signer : GcpKmsSigner) (answers : ℕ → GcpSignResponse),
      AtomicOnFailure signer.signTransaction transaction answers ↔
        Fits messageFits transaction ∨
          ¬ Overwrites (some signer.publicKey)
            (signer.signBytes (Crates.serializeMessage transaction.message)) transaction
            answers) ∧
    (∀ (signer : CdpSigner) (answers : ℕ → Reply),
      AtomicOnFailure signer.signTransaction transaction answers ↔
        Fits messageFits transaction ∨
          ¬ Overwrites (some signer.publicKey) (signer.signWire transaction) transaction
            answers) ∧
    (∀ (signer : OpenfortSigner) (answers : ℕ → Reply),
      AtomicOnFailure signer.signTransaction transaction answers ↔
        Fits messageFits transaction ∨
          ¬ Overwrites signer.publicKey
            (signer.signBytes (Crates.serializeMessage transaction.message)) transaction
            answers) ∧
    (∀ (signer : PrivySigner) (answers : ℕ → Reply),
      AtomicOnFailure signer.signTransaction transaction answers ↔
        Fits messageFits transaction ∨
          ∀ publicKey, signer.publicKey = some publicKey →
            ¬ Overwrites (some publicKey) (signer.signWire publicKey transaction) transaction
              answers) :=
  ⟨fun _ _ => MemorySigner.signTransaction_atomic_iff compact,
    fun _ _ => AwsKmsSigner.signTransaction_atomic_iff compact,
    fun _ _ => GcpKmsSigner.signTransaction_atomic_iff compact,
    fun _ _ => CdpSigner.signTransaction_atomic_iff compact,
    fun _ _ => OpenfortSigner.signTransaction_atomic_iff compact,
    fun _ _ => PrivySigner.signTransaction_atomic_iff compact⟩

end

/-! ## A keypair of the identity -/

section

local instance identityCrates : Crates := transitCrates

local instance identityTokens : TokenCrates where
  EncodingKey := Unit
  fromEcPem _ := none
  fromEdPem _ := none
  encode _ _ _ := none
  pubkeyOfSeed _ := none
  uuidV4 _ _ := "00000000-0000-4000-8000-000000000000"
  hostAndPort _ := none
  addressTableLookups _ := none
  p256FromPkcs8Der _ := none
  mapKind := .btree

local instance identityCdp : FromSlice CdpSignTransactionResponse :=
  ⟨fun _ => .error "expected value"⟩

local instance identityOpenfort : FromSlice OpenfortSignResponse :=
  ⟨fun _ => .error "expected value"⟩

local instance identityPrivy : FromSlice PrivySignTransactionResponse :=
  ⟨fun _ => .error "expected value"⟩

/-- The keypair of `emptyPayer`, whose secret is zero: it signs everything alike. -/
inductive IdentityKeypair where
  | keypair

local instance identitySigning : KeypairSigning IdentityKeypair where
  pubkey _ := emptyPayer
  signMessage _ _ := filledSignature

theorem identityKeypair_sound : KeypairSigning.Sound IdentityKeypair := by
  intro _ _
  rfl

def filledTransaction : VersionedTransaction :=
  { emptyTransaction with signatures := [filledSignature] }

/-- The signer fills the only slot, and the result is bound. -/
theorem identity_signTransaction_binds :
    KeypairSigning.Sound IdentityKeypair ∧
      SignatureBinding emptyPayer emptyTransaction filledTransaction
        (.complete ⟨base64Encode (legacyWire filledTransaction), filledSignature⟩) := by
  refine ⟨identityKeypair_sound, ?_⟩
  have ran : ((MemorySigner.mk IdentityKeypair.keypair).signTransaction :
      Prog Unit Unit _ _ _).run (fun _ => ()) (.start emptyTransaction) =
        (.ok (.complete ⟨base64Encode (legacyWire filledTransaction), filledSignature⟩),
          ⟨filledTransaction, []⟩) := rfl
  rcases (wallet_signTransaction_binds identityKeypair_sound).1 _ _ _ _ _ ran with
    ⟨key, own, binding⟩
  cases own
  exact binding

/-- Within the wire limit the call of either KMS is atomic. -/
theorem kms_signTransaction_atomic :
    CompactLengths (fun _ => True) ∧
      AtomicOnFailure (AwsKmsSigner.mk "key-4" emptyPayer).signTransaction emptyTransaction
        (fun _ => .ok (some filledSignature.bytes)) := by
  have fits : Fits (fun _ => True) emptyTransaction := ⟨by decide, trivial⟩
  refine ⟨transit_compactLengths, ?_⟩
  exact ((failed_wallet_signTransaction_atomic_iff IdentityKeypair Unit Unit _
    transit_compactLengths emptyTransaction).2.1 _ _).mpr (.inl fits)

end

end Keychain.Rust
