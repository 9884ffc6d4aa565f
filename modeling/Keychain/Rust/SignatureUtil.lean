import Keychain.Rust.TransactionUtil

/-!
`signature_util.rs`: decoding and verifying the signatures a backend returns.
-/

namespace Keychain.Rust

/-! ## Decoding -/

/-- Convert raw bytes into a signature, rejecting any length other than 64. -/
def signatureFromBytes (bytes : Bytes) : Except SignerError Signature :=
  okOr (Signature.ofBytes? bytes)
    (.signingFailed s!"Invalid signature length: expected 64 bytes, got {bytes.length}")

theorem signatureFromBytes_eq_ok {bytes : Bytes} {signature : Signature} :
    signatureFromBytes bytes = .ok signature ↔ signature.bytes = bytes := by
  rw [← Signature.ofBytes?_eq_some, signatureFromBytes, okOr_eq_ok]

variable [Crates]

/-- Decode with `decode`, then require 64 bytes. -/
def signatureFromEncoded (decode : String → Except String Bytes) (name : String)
    (encoded : String) : Except SignerError Signature :=
  match decode encoded with
  | .ok bytes => signatureFromBytes bytes
  | .error _ => .error (.serializationError s!"Failed to decode {name} signature")

def signatureFromBase58 (encoded : String) : Except SignerError Signature :=
  signatureFromEncoded Crates.bs58Decode "base58" encoded

def signatureFromBase64 (encoded : String) : Except SignerError Signature :=
  signatureFromEncoded Crates.base64Decode "base64" encoded

/-- Decode a hex-encoded signature, with or without a `0x` prefix. -/
def signatureFromHex (encoded : String) : Except SignerError Signature :=
  let encoded :=
    match encoded.toList with
    | '0' :: 'x' :: digits => String.ofList digits
    | _ => encoded
  signatureFromEncoded Crates.hexDecode "hex" encoded

/-! ## Verifying -/

/-- Verify under the runtime's ZIP-215 rules. -/
def verifies (signature : Signature) (publicKey : Pubkey) (message : Bytes) : Bool :=
  Crates.ed25519Verify signature publicKey message

/-- Reject a signature that does not verify over the signed bytes. -/
def verifyOrReject (signature : Signature) (publicKey : Pubkey) (message : Bytes) :
    Except SignerError Unit :=
  if verifies signature publicKey message then
    .ok ()
  else
    .error (.signingFailed
      "Signature verification failed — the returned signature does not match the public key")

/-! ## Signatures out of returned transactions -/

/-- Locate this signer's signature by its required-signer position, rejecting a
missing or default signature in that slot. -/
def signatureAtSignerPosition (transaction : VersionedTransaction) (publicKey : Pubkey) :
    Except SignerError Signature := do
  let position ← getSigningKeypairPosition transaction publicKey
  okOr (transaction.signatures[position]?.filter (· != Signature.default))
    (.signingFailed "Returned signed transaction is missing the signer's signature")

/-- Extract and verify this signer's signature from a fully-signed transaction
returned by a provider that signed the bytes we submitted. -/
def extractAndVerifyReturnedSignature (returnedTxBytes : Bytes) (publicKey : Pubkey)
    (originalMessageBytes : Bytes) : Except SignerError Signature := do
  let returned ← deserializeWireTransaction returnedTxBytes
  let signature ← signatureAtSignerPosition returned publicKey
  verifyOrReject signature publicKey originalMessageBytes
  pure signature

/-- Verify this signer's signature against the message the returned transaction
carries, for a provider that rewrote the message before signing it. -/
def extractAndVerifyRewrittenTransaction (returnedTxBytes : Bytes) (publicKey : Pubkey) :
    Except SignerError (VersionedTransaction × Signature) := do
  let returned ← deserializeWireTransaction returnedTxBytes
  let signature ← signatureAtSignerPosition returned publicKey
  verifyOrReject signature publicKey (Crates.serializeMessage returned.message)
  pure (returned, signature)

@[simp] theorem verifyOrReject_eq_ok {signature : Signature} {publicKey : Pubkey}
    {message : Bytes} {u : Unit} :
    verifyOrReject signature publicKey message = .ok u ↔
      verifies signature publicKey message = true := by
  unfold verifyOrReject
  split
  · next verified => simp [verified]
  · next refused => simp [refused]

/-- A signature extracted from a returned transaction verifies over the
submitted bytes, whatever the returned transaction looks like. -/
theorem verifies_of_extractAndVerifyReturnedSignature {returnedTxBytes message : Bytes}
    {publicKey : Pubkey} {signature : Signature}
    (extracted : extractAndVerifyReturnedSignature returnedTxBytes publicKey message =
      .ok signature) : verifies signature publicKey message = true := by
  have stages := bind_eq_ok.mp extracted
  rcases stages with ⟨returned, -, stages⟩
  rcases bind_eq_ok.mp stages with ⟨found, -, stages⟩
  rcases bind_eq_ok.mp stages with ⟨_, valid, same⟩
  cases same
  exact verifyOrReject_eq_ok.mp valid

theorem signatureAtSignerPosition_eq_ok {transaction : VersionedTransaction}
    {publicKey : Pubkey} {signature : Signature} :
    signatureAtSignerPosition transaction publicKey = .ok signature ↔
      ∃ position, getSigningKeypairPosition transaction publicKey = .ok position ∧
        transaction.signatures[position]? = some signature ∧ signature ≠ Signature.default := by
  rw [signatureAtSignerPosition, bind_eq_ok]
  simp only [okOr_eq_ok, Option.filter_eq_some_iff, bne_iff_ne]

/-- A rewritten transaction that is accepted carries this signer's signature over
its own message. -/
theorem extractAndVerifyRewrittenTransaction_eq_ok {returnedTxBytes : Bytes}
    {publicKey : Pubkey} {returned : VersionedTransaction} {signature : Signature} :
    extractAndVerifyRewrittenTransaction returnedTxBytes publicKey = .ok (returned, signature) ↔
      Crates.deserializeWire returnedTxBytes = .ok returned ∧
        signatureAtSignerPosition returned publicKey = .ok signature ∧
        verifies signature publicKey (Crates.serializeMessage returned.message) = true := by
  rw [extractAndVerifyRewrittenTransaction, bind_eq_ok]
  simp only [deserializeWireTransaction, mapError_eq_ok, bind_eq_ok, verifyOrReject_eq_ok, pure,
    Except.pure, Except.ok.injEq, Prod.mk.injEq]
  constructor
  · intro stages
    rcases stages with ⟨found, decoded, extracted, located, -, verified, rfl, rfl⟩
    exact ⟨decoded, located, verified⟩
  · intro stages
    rcases stages with ⟨decoded, located, verified⟩
    exact ⟨returned, decoded, signature, located, (), verified, rfl, rfl⟩

end Keychain.Rust
