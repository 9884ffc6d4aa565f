import Keychain.Rust.Error
import Mathlib.Data.List.Basic

/-!
`transaction_util.rs`: the pending-id slot, idempotency keys, and placing a
signature into a transaction.

`addSignatureToTransaction_eq_ok` says what a successful placement leaves
behind: the message is untouched, the slots are those of the input extended with
default signatures, and only the signer's first required position changed.
-/

namespace Keychain.Rust

/-! ## Pending transaction ids -/

/-- The provider transaction ids that cancellation prevents returning, one per
in-flight call, oldest first. -/
structure PendingTransactionId where
  ids : List String
  deriving DecidableEq

namespace PendingTransactionId

/-- The most recent id left behind by a cancelled call. -/
def get (slot : PendingTransactionId) : Option String := slot.ids.getLast?

def set (providerTxId : String) (slot : PendingTransactionId) : PendingTransactionId :=
  ⟨slot.ids ++ [providerTxId]⟩

def clear (providerTxId : String) (slot : PendingTransactionId) : PendingTransactionId :=
  ⟨slot.ids.erase providerTxId⟩

end PendingTransactionId

/-- Built with the `sdk-v4` feature, which has v1 messages. -/
def isV1Message (transaction : VersionedTransaction) : Bool :=
  transaction.message.version == .v1

/-! ## Idempotency keys -/

/-- A UUID derived from SHA-256 of the message bytes, so a retry of the same
bytes reuses the key. -/
def idempotencyKeyFromMessage [Crates] (messageBytes : Bytes) : String :=
  let digest := (Crates.sha256 messageBytes).val
  let key := digest.take 16
  let key := key.modify 6 (fun byte => (byte &&& 0x0f) ||| 0x40)
  let key := key.modify 8 (fun byte => (byte &&& 0x3f) ||| 0x80)
  let hex := key.flatMap hexDigits
  let slice (start stop : ℕ) : String := String.ofList ((hex.drop start).take (stop - start))
  s!"{slice 0 8}-{slice 8 12}-{slice 12 16}-{slice 16 20}-{slice 20 32}"

/-! ## Wire format -/

def serializeWireTransaction [Crates] (transaction : VersionedTransaction) :
    Except SignerError Bytes :=
  (Crates.serializeWire transaction).mapError fun e =>
    .serializationError s!"Failed to serialize transaction: {e}"

def deserializeWireTransaction [Crates] (bytes : Bytes) :
    Except SignerError VersionedTransaction :=
  (Crates.deserializeWire bytes).mapError fun e =>
    .serializationError s!"Failed to deserialize transaction: {e}"

/-- Encodes a transaction to its base64 wire form. -/
def serializeTransaction [Crates] (transaction : VersionedTransaction) :
    Except SignerError String := do
  let wire ← serializeWireTransaction transaction
  pure (Crates.base64Encode wire)

/-! ## Placing signatures -/

/-- The index where this signer's signature should be placed. -/
def getSigningKeypairPosition [Crates] (transaction : VersionedTransaction) (pubkey : Pubkey) :
    Except SignerError ℕ :=
  if transaction.message.staticAccountKeys.length < transaction.message.numRequired then
    .error (.signingFailed "Invalid account index: not enough account keys")
  else
    match transaction.message.requiredKeys.idxOf? pubkey with
    | some position => .ok position
    | none =>
      .error (.signingFailed
        s!"Pubkey {Crates.showPubkey pubkey} not found in transaction signers")

/-- The slots extended with default signatures up to the required number. -/
def resizedSignatures (transaction : VersionedTransaction) : List Signature :=
  transaction.signatures ++
    List.replicate (transaction.message.numRequired - transaction.signatures.length)
      Signature.default

/-- Add a signature to the transaction at the correct position. -/
def addSignatureToTransaction [Crates] (transaction : VersionedTransaction) (pubkey : Pubkey)
    (signature : Signature) : Except SignerError VersionedTransaction := do
  let position ← getSigningKeypairPosition transaction pubkey
  pure { transaction with
    signatures := (resizedSignatures transaction).set position signature }

/-- All required signature slots are populated with non-default values. -/
def hasAllRequiredSignatures (transaction : VersionedTransaction) : Bool :=
  if transaction.signatures.length < transaction.message.numRequired then
    false
  else
    (transaction.signatures.take transaction.message.numRequired).all (· != Signature.default)

/-- The encoded transaction and the signature that was added to it. -/
structure SignedTransaction where
  encoded : String
  signature : Signature
  deriving DecidableEq

inductive SignTransactionResult where
  | complete (signed : SignedTransaction)
  | incomplete (signed : SignedTransaction)
  deriving DecidableEq

namespace SignTransactionResult

def signed : SignTransactionResult → SignedTransaction
  | .complete signed | .incomplete signed => signed

def isComplete : SignTransactionResult → Bool
  | .complete _ => true
  | .incomplete _ => false

end SignTransactionResult

/-- Classify a signed transaction by whether all required signatures are present. -/
def classifySignedTransaction (transaction : VersionedTransaction) (signed : SignedTransaction) :
    SignTransactionResult :=
  if hasAllRequiredSignatures transaction then .complete signed else .incomplete signed

/-! ## What they compute -/

section

variable {transaction placed : VersionedTransaction} {pubkey : Pubkey}
  {signature : Signature} {position : ℕ}

theorem serializeTransaction_eq_ok [Crates] {encoded : String} :
    serializeTransaction transaction = .ok encoded ↔
      ∃ wire, Crates.serializeWire transaction = .ok wire ∧
        encoded = Crates.base64Encode wire := by
  rw [serializeTransaction, bind_eq_ok]
  simp only [serializeWireTransaction, mapError_eq_ok, pure, Except.pure, Except.ok.injEq]
  exact exists_congr fun wire => and_congr_right fun _ => eq_comm

theorem getSigningKeypairPosition_eq_ok [Crates] :
    getSigningKeypairPosition transaction pubkey = .ok position ↔
      transaction.message.numRequired ≤ transaction.message.staticAccountKeys.length ∧
        transaction.message.requiredKeys.idxOf? pubkey = some position := by
  unfold getSigningKeypairPosition
  split
  · next short => simp [Nat.not_le.mpr short]
  · next enough =>
    cases transaction.message.requiredKeys.idxOf? pubkey with
    | some found => simp [Nat.not_lt.mp enough]
    | none => simp

/-- The position is a slot of the resized signatures. -/
theorem position_lt_length_resizedSignatures
    (found : transaction.message.requiredKeys.idxOf? pubkey = some position) :
    position < (resizedSignatures transaction).length := by
  have inKeys : position < transaction.message.requiredKeys.length := by
    obtain ⟨bound, -⟩ := List.findIdx?_eq_some_iff_getElem.mp found
    exact bound
  have keys : transaction.message.requiredKeys.length ≤ transaction.message.numRequired := by
    rw [VersionedMessage.requiredKeys, List.length_take]
    exact Nat.min_le_left _ _
  simp only [resizedSignatures, List.length_append, List.length_replicate]
  omega

theorem addSignatureToTransaction_eq_ok [Crates] :
    addSignatureToTransaction transaction pubkey signature = .ok placed ↔
      ∃ position, getSigningKeypairPosition transaction pubkey = .ok position ∧
        placed = { transaction with
          signatures := (resizedSignatures transaction).set position signature } := by
  unfold addSignatureToTransaction
  cases getSigningKeypairPosition transaction pubkey with
  | error e => simp [bind, Except.bind]
  | ok position => simp [bind, Except.bind, pure, Except.pure, eq_comm]

/-- Completeness reads every required slot. -/
theorem hasAllRequiredSignatures_iff :
    hasAllRequiredSignatures transaction ↔
      ∀ i < transaction.message.numRequired,
        ∃ slot, transaction.signatures[i]? = some slot ∧ slot ≠ Signature.default := by
  unfold hasAllRequiredSignatures
  split
  · next short =>
    simp only [Bool.false_eq_true, false_iff, not_forall]
    refine ⟨transaction.signatures.length, short, ?_⟩
    intro given
    rcases given with ⟨slot, found, -⟩
    simp at found
  · next enough =>
    simp only [List.all_eq_true, bne_iff_ne]
    constructor
    · intro filled i required
      have bound : i < transaction.signatures.length := by omega
      refine ⟨transaction.signatures[i], List.getElem?_eq_getElem bound, filled _ ?_⟩
      exact List.mem_take_iff_getElem.mpr ⟨i, by omega, rfl⟩
    · intro filled slot member
      obtain ⟨i, bound, rfl⟩ := List.mem_take_iff_getElem.mp member
      obtain ⟨slot, found, nonDefault⟩ := filled i (by omega)
      rw [List.getElem?_eq_getElem (by omega)] at found
      cases found
      exact nonDefault

@[simp] theorem classifySignedTransaction_signed {signed : SignedTransaction} :
    (classifySignedTransaction transaction signed).signed = signed := by
  unfold classifySignedTransaction
  split <;> rfl

@[simp] theorem classifySignedTransaction_isComplete {signed : SignedTransaction} :
    (classifySignedTransaction transaction signed).isComplete =
      hasAllRequiredSignatures transaction := by
  unfold classifySignedTransaction
  split
  · next all => simp [SignTransactionResult.isComplete, all]
  · next notAll => simp [SignTransactionResult.isComplete, notAll]

end

end Keychain.Rust
