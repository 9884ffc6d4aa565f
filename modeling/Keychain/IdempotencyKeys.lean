import Keychain.Go.Crossmint
import Keychain.Go.Fordefi
import Keychain.Rust.Fordefi.Namespace
import Keychain.Rust.Keys

/-!
The idempotency key of an unconfirmed broadcast, across the Rust and Go sending
signers.

A caller that is told a broadcast is unconfirmed may have nothing but the key to
reconcile by. `unconfirmed_carries_key_iff` says when each backend hands it over.
-/

namespace Keychain

open Prog

section

variable [Rust.Crates] [Rust.FromSlice Rust.Fordefi.CreateTransactionResponse]
variable [Rust.FromSlice Rust.Fordefi.TransactionStatusResponse]
variable [Go.Packages] [Go.Unmarshal String] [Go.Unmarshal Go.IDObject]
variable [Go.Unmarshal Go.Fordefi.TransactionStatusResponse]
variable [Go.Unmarshal Go.Crossmint.RawObject] [Go.Unmarshal Go.Crossmint.MessageObject]
variable [Go.Unmarshal Go.Crossmint.TransactionResponse]

/-- In every run of Crossmint an unconfirmed outcome carries the key its create was
sent with. In a run of Fordefi it does exactly when the request signer reports no
keyless unconfirmed broadcast of its own and an accepted create is confirmed. -/
theorem unconfirmed_carries_key_iff :
    (∀ (signer : Rust.Fordefi.FordefiNativeAutoSigner) (transaction : VersionedTransaction)
      (answers : ℕ → Reply) (slot : Rust.PendingTransactionId),
      Broadcast.KeyCarried signer.reading.unconfirmed? "x-idempotence-id"
          ((signer.signAndSendTransaction transaction).run answers (.start slot)).2.log
          ((signer.signAndSendTransaction transaction).run answers (.start slot)).1 ↔
        signer.RequestSignerKeyed transaction ∧
          ∀ create txId, signer.prepare transaction = .ok create →
            Rust.Fordefi.FordefiCore.submitVerdict (signer.classify transaction) (answers 0) =
              .ok txId →
            signer.Confirms txId (fun i => answers (i + 1))) ∧
    (∀ (signer : Rust.Crossmint.CrossmintSigner) (transaction : VersionedTransaction)
      (answers : ℕ → Reply) (slot : Rust.PendingTransactionId),
      Broadcast.KeyCarried signer.reading.unconfirmed? "x-idempotency-key"
        ((signer.signAndSendTransaction transaction).run answers (.start slot)).2.log
        ((signer.signAndSendTransaction transaction).run answers (.start slot)).1) ∧
    (∀ (signer : Go.Fordefi.NativeAutoSigner) (tx : VersionedTransaction)
      (answers : ℕ → Reply) (ctx : Go.Context),
      Broadcast.KeyCarried Go.Error.unconfirmed? "x-idempotence-id"
          ((signer.signAndSendTransaction tx).run answers (.start ctx)).2.log
          ((signer.signAndSendTransaction tx).run answers (.start ctx)).1 ↔
        signer.RequestSignerKeyed tx ∧
          ∀ create txID, signer.prepare tx = .ok create →
            signer.submitVerdict tx (answers 0) = .ok txID →
            signer.Confirms ctx txID (fun i => answers (i + 1))) ∧
    (∀ (signer : Go.Crossmint.Signer) (tx : VersionedTransaction) (answers : ℕ → Reply)
      (ctx : Go.Context),
      Broadcast.KeyCarried Go.Error.unconfirmed? "x-idempotency-key"
        ((signer.signAndSendTransaction tx).run answers (.start ctx)).2.log
        ((signer.signAndSendTransaction tx).run answers (.start ctx)).1) := by
  refine ⟨?_, ?_, ?_, ?_⟩
  · intro signer transaction answers slot
    exact Rust.Fordefi.FordefiNativeAutoSigner.signAndBroadcast_keyCarried_iff
  · intro signer transaction answers slot
    exact Rust.Crossmint.CrossmintSigner.executeManagedTransaction_keyCarried
  · intro signer tx answers ctx
    exact Go.Fordefi.NativeAutoSigner.signTransactionNative_keyCarried_iff
  · intro signer tx answers ctx
    exact Go.Crossmint.Signer.signAndSendTransaction_keyCarried

end

/-! ## An accepted create whose poll fails -/

namespace Rust.Fordefi

/-- The create of `emptyTransaction` as it is printed. -/
def emptyCreateText : String :=
  "\x7b\"vault_id\":\"vault-1\",\"signer_type\":\"api_signer\",\"sign_mode\":\"auto\"," ++
    "\"type\":\"solana_transaction\",\"details\":\x7b" ++
    "\"type\":\"solana_serialized_transaction_message\",\"chain\":\"solana_mainnet\"," ++
    "\"data\":\"" ++ emptyMessageBase64 ++ "\",\"push_mode\":\"auto\"\x7d\x7d"

def acceptedBody : Bytes := utf8 "\x7b\"id\":\"tx-1\"\x7d"

local instance acceptedCrates : Crates :=
  { Crates.linked ⟨[86, 171, 10, 189, 9, 241, 228, 6, 232, 58, 34, 1, 143, 139, 84, 227, 182,
      214, 119, 13, 8, 70, 143, 136, 2, 233, 213, 38, 171, 187, 8, 200], rfl⟩
      (fun _ => .ok (.object [("id", .string "tx-1")])) (fun _ => emptyCreateText) with
    base64Encode := fun _ => emptyMessageBase64 }

local instance acceptedCreate : FromSlice CreateTransactionResponse :=
  ⟨fun body => if body = acceptedBody then .ok ⟨"tx-1"⟩ else .error "expected value"⟩

local instance acceptedStatus : FromSlice TransactionStatusResponse :=
  ⟨fun _ => .error "expected value"⟩

def vaultOneSigner : FordefiNativeAutoSigner where
  core := { FordefiCore.vaultOne with publicKey := emptyPayer }
  chain := .solanaMainnet
  fee := none
  pendingTransactionId := false

/-- Fordefi accepts the create, and every poll is answered with status 500. -/
def unpolledRun : Except SignerError Signature × World Request Reply PendingTransactionId :=
  (vaultOneSigner.signAndSendTransaction emptyTransaction).run
    (fun i => if i = 0 then .response 201 (.whole acceptedBody) else .response 500 (.whole []))
    (.start ⟨[]⟩)

/-- The create is sent under a key that the unconfirmed outcome does not carry. -/
theorem signAndSendTransaction_drops_key :
    (unpolledRun.2.log.head?.bind fun x => x.1.headers.lookup "x-idempotence-id") =
        some "56ab0abd-09f1-4406-a83a-22018f8b54e3" ∧
      unpolledRun.1 = .error (.broadcastUnconfirmed ⟨some "tx-1", none, none, none,
        "Fordefi API poll_result error 500"⟩) ∧
      ¬ Broadcast.KeyCarried vaultOneSigner.reading.unconfirmed? "x-idempotence-id"
        unpolledRun.2.log unpolledRun.1 := by
  have sent : (unpolledRun.2.log.head?.bind fun x => x.1.headers.lookup "x-idempotence-id") =
      some "56ab0abd-09f1-4406-a83a-22018f8b54e3" := by
    decide +kernel
  have result : unpolledRun.1 = .error (.broadcastUnconfirmed ⟨some "tx-1", none, none, none,
      "Fordefi API poll_result error 500"⟩) := by
    decide +kernel
  refine ⟨sent, result, ?_⟩
  intro carried
  rcases carried _ ⟨some "tx-1", none⟩ result rfl with ⟨key, named, -⟩
  cases named

end Rust.Fordefi

end Keychain
