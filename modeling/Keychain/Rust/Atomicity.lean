import Keychain.Rust.Direct
import Keychain.Rust.Ledger.Device
import Keychain.Rust.Polled

/-!
Whether a failed `sign_transaction` leaves the caller's transaction alone.

The shared tail writes the signature into the caller's transaction and serializes
it afterwards, so a failing serializer leaves a changed transaction behind. The
wire format gives each vector a compact-u16 length; `Fits` is the transaction's
side of that limit, and `atomicOnFailure_iff` says that the tail is atomic within
it, and beyond it exactly when there is nothing to overwrite.
-/

namespace Keychain.Rust

open Prog

variable {Q A : Type}

/-! ## The wire limit -/

/-- The signatures fit a compact-u16 length, and so does what the message holds. -/
def Fits (messageFits : VersionedMessage → Prop) (transaction : VersionedTransaction) : Prop :=
  transaction.signatures.length ≤ 65535 ∧ messageFits transaction.message

/-- The wire serializer fails exactly on a vector that does not fit its length. -/
def CompactLengths [Crates] (messageFits : VersionedMessage → Prop) : Prop :=
  ∀ transaction, (∃ wire, Crates.serializeWire transaction = .ok wire) ↔
    Fits messageFits transaction

section

variable [Crates] {messageFits : VersionedMessage → Prop} {publicKey : Pubkey}
  {signature : Signature} {transaction placed : VersionedTransaction}

/-- No header requires so many signatures that placing one breaks the limit. -/
theorem fits_of_addSignatureToTransaction
    (added : addSignatureToTransaction transaction publicKey signature = .ok placed) :
    Fits messageFits placed ↔ Fits messageFits transaction := by
  rcases addSignatureToTransaction_eq_ok.mp added with ⟨position, -, rfl⟩
  have required : transaction.message.numRequired < 256 := UInt8.toNat_lt _
  have lengths : (resizedSignatures transaction).length ≤ 65535 ↔
      transaction.signatures.length ≤ 65535 := by
    rw [resizedSignatures, List.length_append, List.length_replicate]
    omega
  simp only [Fits, List.length_set, lengths]

/-! ## The shared tail on failure -/

/-- A failed call leaves the transaction that was passed in. -/
def AtomicOnFailure
    (signTransaction : Prog Q A VersionedTransaction SignerError SignTransactionResult)
    (transaction : VersionedTransaction) (answers : ℕ → A) : Prop :=
  ∀ error w, signTransaction.run answers (.start transaction) = (.error error, w) →
    w.state = transaction

/-- The call obtains a signature that its slot does not hold yet. -/
def Overwrites (publicKey : Option Pubkey)
    (sign : Prog Q A VersionedTransaction SignerError Signature)
    (transaction : VersionedTransaction) (answers : ℕ → A) : Prop :=
  ∃ key signature placed, publicKey = some key ∧
    (sign.run answers (.start transaction)).1 = .ok signature ∧
    addSignatureToTransaction transaction key signature = .ok placed ∧ placed ≠ transaction

/-- The tail in closed form: the signature is in place when the serializer runs. -/
theorem placeAndSerialize_run {answers : ℕ → A} {w : World Q A VersionedTransaction} :
    (placeAndSerialize publicKey signature).run answers w =
      match addSignatureToTransaction w.state publicKey signature with
      | .error error => (.error error, w)
      | .ok placed =>
        ((serializeTransaction placed).map fun encoded => ⟨encoded, signature⟩,
          { w with state := placed }) := by
  simp only [placeAndSerialize, run_bind, run_state, run_ofExcept]
  cases addSignatureToTransaction w.state publicKey signature with
  | error error => rfl
  | ok placed =>
    simp only [run_modifyState]
    cases serializeTransaction placed <;> rfl

omit [Crates] in
/-- Classifying a signed transaction cannot fail. -/
theorem signAndClassify_run_eq_error
    {signAndSerialize : Prog Q A VersionedTransaction SignerError SignedTransaction}
    {answers : ℕ → A} {w w' : World Q A VersionedTransaction} {error : SignerError} :
    (signAndClassify signAndSerialize).run answers w = (.error error, w') ↔
      signAndSerialize.run answers w = (.error error, w') := by
  rw [signAndClassify, run_bind]
  rcases signAndSerialize.run answers w with ⟨e | signed, w''⟩
  · simp
  · simp only [run_bind, run_state, run_pure]
    simp

/-- A tail that is run on a transaction within the limit never fails after the
signature is in place. Beyond the limit it always does. -/
theorem atomicOnFailure_iff (compact : CompactLengths messageFits)
    {sign : Prog Q A VersionedTransaction SignerError Signature} (keeps : sign.Keeps)
    {answers : ℕ → A} :
    AtomicOnFailure (signAndClassify (sign >>= placeAndSerialize publicKey)) transaction answers ↔
      Fits messageFits transaction ∨
        ¬ Overwrites (some publicKey) sign transaction answers := by
  have kept := keeps answers (.start transaction)
  simp only [AtomicOnFailure, signAndClassify_run_eq_error, run_bind, Overwrites]
  rcases ran : sign.run answers (.start transaction) with ⟨failed | signature, w⟩
  · have quiet : w.state = transaction := by simpa [ran] using kept
    simp [quiet]
  · have quiet : w.state = transaction := by simpa [ran] using kept
    simp only [placeAndSerialize_run, quiet]
    cases added : addSignatureToTransaction transaction publicKey signature with
    | error e => simp [quiet, added]
    | ok placed =>
      dsimp only
      have limit : (∃ wire, Crates.serializeWire placed = .ok wire) ↔
          Fits messageFits transaction :=
        (compact placed).trans (fits_of_addSignatureToTransaction added)
      cases serialized : serializeTransaction placed with
      | ok encoded =>
        rcases serializeTransaction_eq_ok.mp serialized with ⟨wire, wired, -⟩
        have fits := limit.mp ⟨wire, wired⟩
        simp [fits, Except.map]
      | error e =>
        have unfit : ¬ Fits messageFits transaction := by
          intro fits
          rcases limit.mpr fits with ⟨wire, wired⟩
          have encoded := serializeTransaction_eq_ok.mpr ⟨wire, wired, rfl⟩
          rw [serialized] at encoded
          cases encoded
        constructor
        · intro atomic
          refine .inr ?_
          intro overwritten
          rcases overwritten with ⟨key, other, placed', sameKey, sameSignature, added', changed⟩
          cases sameKey
          cases sameSignature
          rw [added] at added'
          cases added'
          exact changed (atomic e { w with state := placed } rfl)
        · intro harmless error w' left
          rcases harmless with fits | untouched
          · exact absurd fits unfit
          · cases left
            by_contra changed
            exact untouched ⟨publicKey, signature, placed, rfl, rfl, added, changed⟩

/-- The same for a backend that runs like the shared tail from this transaction on. -/
theorem atomicOnFailure_iff_of_run (compact : CompactLengths messageFits)
    {signTransaction : Prog Q A VersionedTransaction SignerError SignTransactionResult}
    {sign : Prog Q A VersionedTransaction SignerError Signature} (keeps : sign.Keeps)
    {answers : ℕ → A}
    (whole : signTransaction.run answers (.start transaction) =
      (signAndClassify (sign >>= placeAndSerialize publicKey)).run answers
        (.start transaction)) :
    AtomicOnFailure signTransaction transaction answers ↔
      Fits messageFits transaction ∨
        ¬ Overwrites (some publicKey) sign transaction answers := by
  rw [AtomicOnFailure, whole]
  exact atomicOnFailure_iff compact keeps

/-- A call that fails before it has a signature changes nothing. -/
theorem atomicOnFailure_iff_of_quiet
    {signTransaction : Prog Q A VersionedTransaction SignerError SignTransactionResult}
    {sign : Prog Q A VersionedTransaction SignerError Signature} {answers : ℕ → A}
    (quiet : (signTransaction.run answers (.start transaction)).2.state = transaction) :
    AtomicOnFailure signTransaction transaction answers ↔
      Fits messageFits transaction ∨ ¬ Overwrites none sign transaction answers := by
  constructor
  · intro _
    refine .inr ?_
    intro overwritten
    rcases overwritten with ⟨key, -, -, absent, -⟩
    cases absent
  · intro _ e w ran
    rw [ran] at quiet
    exact quiet

end

/-! ## The backends -/

section

variable [Crates] {messageFits : VersionedMessage → Prop} {transaction : VersionedTransaction}

theorem VaultSigner.signTransaction_atomic_iff (compact : CompactLengths messageFits)
    {signer : VaultSigner} {answers : ℕ → Reply} :
    AtomicOnFailure signer.signTransaction transaction answers ↔
      Fits messageFits transaction ∨
        ¬ Overwrites (some signer.publicKey)
          (signer.signBytes (Crates.serializeMessage transaction.message)) transaction answers := by
  have keeps : (signer.signBytes (Crates.serializeMessage transaction.message) :
      HttpProg VersionedTransaction SignerError Signature).Keeps :=
    checked_keeps (send_keeps.mapError.bind fun _ => keeps_ofExcept)
  refine atomicOnFailure_iff_of_run compact keeps ?_
  rw [signTransaction, signAndSerialize]
  rfl

theorem ParaSigner.signTransaction_atomic_iff [FromSlice SignRawResponse]
    (compact : CompactLengths messageFits) {signer : ParaSigner} {answers : ℕ → Reply} :
    AtomicOnFailure signer.signTransaction transaction answers ↔
      Fits messageFits transaction ∨
        ¬ Overwrites signer.publicKey
          (signer.signBytes (Crates.serializeMessage transaction.message)) transaction answers := by
  cases own : signer.publicKey with
  | none =>
    refine atomicOnFailure_iff_of_quiet ?_
    simp [signTransaction, signAndClassify, signAndSerialize, signBytes, initializedPubkey, own,
      okOr, run_bind]
  | some publicKey =>
    refine atomicOnFailure_iff_of_run compact signBytes_keeps ?_
    rw [signTransaction, signAndSerialize, own]
    rfl

theorem FireblocksSigner.signTransaction_atomic_iff
    [FromSlice Fireblocks.CreateTransactionResponse] [FromSlice Fireblocks.TransactionResponse]
    (compact : CompactLengths messageFits) {signer : FireblocksSigner}
    (raw : signer.useProgramCall = false) {answers : ℕ → Reply} :
    AtomicOnFailure signer.signTransaction transaction answers ↔
      Fits messageFits transaction ∨
        ¬ Overwrites signer.publicKey
          (signer.signRawBytes (Crates.serializeMessage transaction.message)) transaction
          answers := by
  cases own : signer.publicKey with
  | none =>
    refine atomicOnFailure_iff_of_quiet ?_
    simp [signTransaction, signAndClassify, signAndSerialize, initializedPubkey, own, okOr,
      run_bind]
  | some publicKey =>
    refine atomicOnFailure_iff_of_run compact signRawBytes_keeps ?_
    rw [signTransaction, signAndSerialize, initializedPubkey, own, raw]
    rfl

theorem Fordefi.FordefiBlackBoxSigner.signTransaction_atomic_iff
    [FromSlice Fordefi.CreateTransactionResponse] [FromSlice Fordefi.TransactionStatusResponse]
    (compact : CompactLengths messageFits) {signer : Fordefi.FordefiBlackBoxSigner}
    {answers : ℕ → Reply} :
    AtomicOnFailure signer.signTransaction transaction answers ↔
      Fits messageFits transaction ∨
        ¬ Overwrites (some signer.core.publicKey)
          (checked (signer.core.verifySignature · (Crates.serializeMessage transaction.message))
            (signer.core.signBlackBox (Crates.serializeMessage transaction.message)))
          transaction answers := by
  refine atomicOnFailure_iff_of_run compact (checked_keeps signBlackBox_keeps) ?_
  rw [signTransaction, signAndSerialize]
  rfl

theorem Ledger.LedgerSigner.signTransaction_atomic_iff (compact : CompactLengths messageFits)
    {signer : Ledger.LedgerSigner} {answers : ℕ → Ledger.Delivery Signature} :
    AtomicOnFailure signer.signTransaction transaction answers ↔
      Fits messageFits transaction ∨
        ¬ Overwrites (some signer.pubkey)
          (signer.signOnDevice (Crates.serializeMessage transaction.message)) transaction
          answers := by
  refine atomicOnFailure_iff compact (checked_keeps ?_)
  exact keeps_ask.bind fun _ => keeps_ofExcept

/-- A failed `sign_transaction` leaves the caller's transaction alone exactly when
the transaction is within the wire limit, or the call has no signature to write. -/
theorem failed_signTransaction_atomic_iff [FromSlice SignRawResponse]
    [FromSlice Fireblocks.CreateTransactionResponse] [FromSlice Fireblocks.TransactionResponse]
    [FromSlice Fordefi.CreateTransactionResponse] [FromSlice Fordefi.TransactionStatusResponse]
    (messageFits : VersionedMessage → Prop) (compact : CompactLengths messageFits)
    (transaction : VersionedTransaction) :
    (∀ (signer : VaultSigner) (answers : ℕ → Reply),
      AtomicOnFailure signer.signTransaction transaction answers ↔
        Fits messageFits transaction ∨
          ¬ Overwrites (some signer.publicKey)
            (signer.signBytes (Crates.serializeMessage transaction.message)) transaction
            answers) ∧
    (∀ (signer : ParaSigner) (answers : ℕ → Reply),
      AtomicOnFailure signer.signTransaction transaction answers ↔
        Fits messageFits transaction ∨
          ¬ Overwrites signer.publicKey
            (signer.signBytes (Crates.serializeMessage transaction.message)) transaction
            answers) ∧
    (∀ (signer : FireblocksSigner) (answers : ℕ → Reply), signer.useProgramCall = false →
      (AtomicOnFailure signer.signTransaction transaction answers ↔
        Fits messageFits transaction ∨
          ¬ Overwrites signer.publicKey
            (signer.signRawBytes (Crates.serializeMessage transaction.message)) transaction
            answers)) ∧
    (∀ (signer : Fordefi.FordefiBlackBoxSigner) (answers : ℕ → Reply),
      AtomicOnFailure signer.signTransaction transaction answers ↔
        Fits messageFits transaction ∨
          ¬ Overwrites (some signer.core.publicKey)
            (checked (signer.core.verifySignature · (Crates.serializeMessage transaction.message))
              (signer.core.signBlackBox (Crates.serializeMessage transaction.message)))
            transaction answers) ∧
    (∀ (signer : Ledger.LedgerSigner) (answers : ℕ → Ledger.Delivery Signature),
      AtomicOnFailure signer.signTransaction transaction answers ↔
        Fits messageFits transaction ∨
          ¬ Overwrites (some signer.pubkey)
            (signer.signOnDevice (Crates.serializeMessage transaction.message)) transaction
            answers) :=
  ⟨fun _ _ => VaultSigner.signTransaction_atomic_iff compact,
    fun _ _ => ParaSigner.signTransaction_atomic_iff compact,
    fun _ _ raw => FireblocksSigner.signTransaction_atomic_iff compact raw,
    fun _ _ => Fordefi.FordefiBlackBoxSigner.signTransaction_atomic_iff compact,
    fun _ _ => Ledger.LedgerSigner.signTransaction_atomic_iff compact⟩

end

/-! ## A transaction beyond the limit -/

section

/-- A transit engine whose answers hold `filledSignature`. -/
local instance transitCrates : Crates :=
  { Crates.linked emptyDigest
      (fun _ => .ok (.object [("data", .object [("signature",
        .string ("vault:v1:" ++ base64Encode filledSignature.bytes))])]))
      (fun _ => "null") with
    serializeWire := fun transaction =>
      if transaction.signatures.length ≤ 65535 then .ok (legacyWire transaction)
      else .error "length larger than u16"
    ed25519Verify := fun signature publicKey _ =>
      signature == filledSignature && publicKey == emptyPayer
    base64Encode := Keychain.base64Encode
    base64Decode := fun text =>
      if text = Keychain.base64Encode filledSignature.bytes then .ok filledSignature.bytes
      else .error "Invalid symbol" }

local instance transitSignRaw : FromSlice SignRawResponse := ⟨fun _ => .error "expected value"⟩

local instance transitCreate : FromSlice Fireblocks.CreateTransactionResponse :=
  ⟨fun _ => .error "expected value"⟩

local instance transitTransaction : FromSlice Fireblocks.TransactionResponse :=
  ⟨fun _ => .error "expected value"⟩

local instance transitFordefiCreate : FromSlice Fordefi.CreateTransactionResponse :=
  ⟨fun _ => .error "expected value"⟩

local instance transitStatus : FromSlice Fordefi.TransactionStatusResponse :=
  ⟨fun _ => .error "expected value"⟩

theorem transit_compactLengths : CompactLengths fun _ => True := by
  intro transaction
  change (∃ wire, (if transaction.signatures.length ≤ 65535 then
    Except.ok (legacyWire transaction) else .error "length larger than u16") = .ok wire) ↔ _
  by_cases fits : transaction.signatures.length ≤ 65535
  · simp [fits, Fits]
  · simp [fits, Fits]

def transitSigner : VaultSigner where
  apiBaseUrl := "https://vault.example"
  token := "token-3"
  keyName := "key-3"
  publicKey := emptyPayer

def transitAnswers : ℕ → Reply := fun _ => .response 200 (.whole [])

/-- `emptyTransaction` with one slot more than the wire format can count. -/
def crowdedTransaction : VersionedTransaction :=
  { emptyTransaction with signatures := List.replicate 65536 Signature.default }

/-- Within the limit the call is atomic. -/
theorem emptyTransaction_atomic :
    CompactLengths (fun _ => True) ∧
      AtomicOnFailure transitSigner.signTransaction emptyTransaction transitAnswers := by
  have fits : Fits (fun _ => True) emptyTransaction := ⟨by decide, trivial⟩
  refine ⟨transit_compactLengths, ?_⟩
  exact ((failed_signTransaction_atomic_iff _ transit_compactLengths emptyTransaction).1
    transitSigner transitAnswers).mpr (.inl fits)

/-- Beyond it the failed call leaves the signature behind. -/
theorem crowdedTransaction_not_atomic :
    ¬ AtomicOnFailure transitSigner.signTransaction crowdedTransaction transitAnswers := by
  rw [VaultSigner.signTransaction_atomic_iff transit_compactLengths, not_or, not_not]
  have unfit : ¬ Fits (fun _ => True) crowdedTransaction := by
    intro fits
    have bound : (List.replicate 65536 Signature.default).length ≤ 65535 := fits.1
    rw [List.length_replicate] at bound
    omega
  have position : getSigningKeypairPosition crowdedTransaction emptyPayer = .ok 0 :=
    getSigningKeypairPosition_eq_ok.mpr ⟨by decide, by decide⟩
  have inside := position_lt_length_resizedSignatures
    (getSigningKeypairPosition_eq_ok.mp position).2
  have added : addSignatureToTransaction crowdedTransaction emptyPayer filledSignature =
      .ok { crowdedTransaction with
        signatures := (resizedSignatures crowdedTransaction).set 0 filledSignature } :=
    addSignatureToTransaction_eq_ok.mpr ⟨0, position, rfl⟩
  refine ⟨unfit, emptyPayer, filledSignature, _, rfl, by decide +kernel, added, ?_⟩
  intro same
  have slots := congrArg VersionedTransaction.signatures same
  have empty : crowdedTransaction.signatures[0]? = some Signature.default := by
    change (List.replicate 65536 Signature.default)[0]? = _
    rw [List.getElem?_replicate, if_pos (by omega)]
  rw [← slots, List.getElem?_set_self inside, Option.some.injEq] at empty
  revert empty
  decide +kernel

end

end Keychain.Rust
