import Keychain.Rust.Direct
import Keychain.Rust.Polled
import Keychain.Rust.Ledger.Device

/-!
Signature binding of the `TransactionSigner` backends: whatever the provider or
the device answers, an `Ok` result binds the signature to the signer's key and to
the caller's message.
-/

namespace Keychain.Rust

/-- The backends that sign the caller's transaction in place. A signer that has
not been initialized has no key and returns nothing. -/
theorem signTransaction_binds [Crates] [FromSlice SignRawResponse]
    [FromSlice TurnkeyActivityResponse] [FromSlice Fireblocks.CreateTransactionResponse]
    [FromSlice Fireblocks.TransactionResponse] [FromSlice Utila.TransactionEnvelope]
    [FromSlice DfnsUserActionInit] [FromSlice DfnsUserAction]
    [FromSlice DfnsGenerateSignatureResponse] [FromSlice Fordefi.CreateTransactionResponse]
    [FromSlice Fordefi.TransactionStatusResponse] :
    (∀ signer : VaultSigner, Binds (some signer.publicKey) signer.signTransaction) ∧
    (∀ signer : ParaSigner, Binds signer.publicKey signer.signTransaction) ∧
    (∀ signer : TurnkeySigner, Binds (some signer.publicKey) signer.signTransaction) ∧
    (∀ signer : FireblocksSigner, Binds signer.publicKey signer.signTransaction) ∧
    (∀ signer : UtilaSigner, Binds signer.publicKey signer.signTransaction) ∧
    (∀ signer : DfnsSigner, Binds signer.publicKey signer.signTransaction) ∧
    (∀ signer : Fordefi.FordefiBlackBoxSigner,
      Binds (some signer.core.publicKey) signer.signTransaction) ∧
    (∀ signer : Ledger.LedgerSigner, Binds (some signer.pubkey) signer.signTransaction) :=
  ⟨fun _ => VaultSigner.signTransaction_binds_key, fun _ => ParaSigner.signTransaction_binds_key,
    fun _ => TurnkeySigner.signTransaction_binds_key,
    fun _ => FireblocksSigner.signTransaction_binds_key,
    fun _ => UtilaSigner.signTransaction_binds_key, fun _ => DfnsSigner.signTransaction_binds_key,
    fun _ => Fordefi.FordefiBlackBoxSigner.signTransaction_binds_key,
    fun _ => Ledger.LedgerSigner.signTransaction_binds_key⟩

end Keychain.Rust
