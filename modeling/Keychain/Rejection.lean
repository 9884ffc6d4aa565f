import Keychain.Go.Crossmint
import Keychain.Go.Fordefi
import Keychain.Python.Crossmint
import Keychain.Python.Fordefi
import Keychain.Rust.Keys

/-!
Creates that the provider rejects, across the Rust, Go and Python sending signers.

A 4xx other than 408 rules the transaction out, so the caller may retry. Rust
classifies on the status alone. In Go and Python the status first has to survive
the HTTP layer, and `rejection_reported_iff` says for which bodies it does.
-/

namespace Keychain

open Prog

/-- The run fails with an error that rules the transaction out. -/
def Rust.Refused (result : Except Rust.SignerError Signature) : Prop :=
  ∃ error, result = .error error ∧ error.unconfirmed? = none

/-- The run fails with the rejection and not as an unconfirmed broadcast. -/
def Go.Refused (result : Except Go.Error Signature) : Prop :=
  ∃ err, result = .error err ∧ err.codeOf = some .remoteAPIError

/-- The run raises a `SignerError` with the status of the rejection, and not as an
unconfirmed broadcast. -/
def Python.Refused (status : ℕ) (result : Except Python.Raised Signature) : Prop :=
  ∃ raised, result = .error raised ∧ Python.Rejection status raised

section

variable [Rust.Crates] [Rust.FromSlice Rust.Fordefi.CreateTransactionResponse]
variable [Rust.FromSlice Rust.Fordefi.TransactionStatusResponse]
variable [Go.Packages] [Go.Unmarshal String] [Go.Unmarshal Go.IDObject]
variable [Go.Unmarshal Go.Fordefi.TransactionStatusResponse]
variable [Go.Unmarshal Go.Crossmint.RawObject] [Go.Unmarshal Go.Crossmint.MessageObject]
variable [Go.Unmarshal Go.Crossmint.TransactionResponse] [Python.Modules]

/-- A create answered with a 4xx other than 408 is reported as rejected by the Rust
signers whatever its body, by the Go signers exactly when the body can be read, and
by the Python signers exactly when the reply keeps its status. -/
theorem rejection_reported_iff {status : ℕ} (body : BodyStream) (answers : ℕ → Reply)
    (transaction : VersionedTransaction) (rejected : Reply.isRejection status)
    (answered : answers 0 = .response status body) :
    (∀ (signer : Rust.Fordefi.FordefiNativeAutoSigner) (slot : Rust.PendingTransactionId) create,
      signer.prepare transaction = .ok create →
      Rust.Refused ((signer.signAndSendTransaction transaction).run answers (.start slot)).1) ∧
    (∀ (signer : Rust.Crossmint.CrossmintSigner) (slot : Rust.PendingTransactionId) create,
      signer.prepare transaction = .ok create →
      Rust.Refused ((signer.signAndSendTransaction transaction).run answers (.start slot)).1) ∧
    (∀ (signer : Go.Fordefi.NativeAutoSigner) (ctx : Go.Context) create,
      signer.prepare transaction = .ok create →
      (Go.Refused ((signer.signAndSendTransaction transaction).run answers (.start ctx)).1 ↔
        Go.Readable body)) ∧
    (∀ (signer : Go.Crossmint.Signer) (ctx : Go.Context) create,
      signer.prepare transaction = .ok create →
      (Go.Refused ((signer.signAndSendTransaction transaction).run answers (.start ctx)).1 ↔
        Go.Readable body)) ∧
    (∀ (signer : Python.Fordefi.FordefiNativeAutoSigner) (slot : Python.PendingTransactionId)
      create, signer.prepare transaction = .ok create →
      (Python.Refused status
          ((signer.signAndSendTransaction transaction).run answers (.start slot)).1 ↔
        Python.KeepsStatus body)) ∧
    (∀ (signer : Python.Crossmint.CrossmintSigner) (slot : Python.PendingTransactionId) create,
      signer.prepare transaction = .ok create →
      (Python.Refused status
          ((signer.signAndSendTransaction transaction).run answers (.start slot)).1 ↔
        Python.KeepsStatus body)) := by
  refine ⟨?_, ?_, ?_, ?_, ?_, ?_⟩
  · intro signer slot create prepared
    have refused : Rust.Fordefi.FordefiCore.submitVerdict (signer.classify transaction)
        (.response status body) = _ :=
      Rust.Fordefi.FordefiNativeAutoSigner.submitVerdict_of_isRejection rejected
    rw [← answered] at refused
    exact ⟨_, (signer.signAndBroadcast_course transaction answers slot).eq_error_of_refused
      prepared refused, rfl⟩
  · intro signer slot create prepared
    obtain ⟨error, refused, plain⟩ := signer.createVerdict_of_isRejection transaction body rejected
    rw [← answered] at refused
    exact ⟨error, (signer.executeManagedTransaction_course transaction answers
      slot).eq_error_of_refused prepared refused, plain⟩
  · intro signer ctx create prepared
    refine (signer.signTransactionNative_course transaction answers ctx).fails_iff prepared ?_
    change ∃ err, signer.submitVerdict transaction (answers 0) = _ ∧ _
    rw [answered]
    exact signer.submitVerdict_of_isRejection transaction body rejected
  · intro signer ctx create prepared
    refine (signer.signAndSendTransaction_course transaction answers ctx).fails_iff prepared ?_
    change ∃ err, signer.createVerdict transaction (answers 0) = _ ∧ _
    rw [answered]
    exact signer.createVerdict_of_isRejection transaction body rejected
  · intro signer slot create prepared
    refine (signer.signTransactionNative_course transaction answers slot).fails_iff prepared ?_
    change ∃ raised, signer.createVerdict transaction (answers 0) = _ ∧ _
    rw [answered]
    exact Python.classifyCreate_of_isRejection _ _ _ body rejected
  · intro signer slot create prepared
    refine (signer.executeManagedTransaction_course transaction answers slot).fails_iff prepared ?_
    change ∃ raised, signer.createVerdict transaction (answers 0) = _ ∧ _
    rw [answered]
    exact Python.classifyCreate_of_isRejection _ _ _ body rejected

end

/-! ## A rejection that breaks off -/

namespace Go.Crossmint

def walletOneSigner : Signer where
  apiKey := "key"
  walletLocator := "wallet-1"
  signerLocator := ""
  apiBaseURL := "https://www.crossmint.com/api"
  publicKey := emptyPayer
  maxPollAttempts := 30
  signingKey := none
  maxPollAttempts_pos := by decide

def badRequestBody : Bytes := utf8 "\x7b\"message\":\"bad request\"\x7d"

/-- The create of `emptyTransaction` as it is marshalled. -/
def emptyCreateText : String :=
  "\x7b\"params\":\x7b\"transaction\":\"" ++ base58Encode (legacyWire emptyTransaction) ++
    "\"\x7d\x7d"

local instance walletPackages : Packages := .linked emptyDigest emptyCreateText

local instance unmarshalRaw : Unmarshal RawObject :=
  ⟨fun body => if body = badRequestBody then .ok [("message", utf8 "\"bad request\"")]
    else .error "unexpected end of JSON input"⟩

local instance unmarshalText : Unmarshal String :=
  ⟨fun raw => if raw = utf8 "\"bad request\"" then .ok "bad request"
    else .error "cannot unmarshal"⟩

local instance unmarshalMessage : Unmarshal MessageObject := ⟨fun _ => .error "cannot unmarshal"⟩

local instance unmarshalTransaction : Unmarshal TransactionResponse :=
  ⟨fun _ => .error "cannot unmarshal"⟩

local instance unmarshalID : Unmarshal IDObject := ⟨fun _ => .ok ⟨""⟩⟩

/-- The create is answered with status 400 and this body. -/
def rejectedRun (body : BodyStream) : Except Error Signature × World Request Reply Context :=
  (walletOneSigner.signAndSendTransaction emptyTransaction).run
    (fun _ => .response 400 body) (.start ⟨fun _ => false⟩)

/-- The create as it is sent. -/
def emptyCreate : Request where
  method := .post
  url := "https://www.crossmint.com/api/2025-06-09/wallets/wallet-1/transactions"
  headers := [("X-API-KEY", "key"), ("Content-Type", "application/json"),
    ("x-idempotency-key", "363a6e6c-6cf5-466c-aaed-39adc6c064ae")]
  body := emptyCreateText

theorem prepare_emptyTransaction :
    walletOneSigner.prepare emptyTransaction = .ok emptyCreate := by
  rfl

section

local instance : Rust.Crates :=
  .linked emptyDigest (fun _ => .ok (.object [("message", .string "bad request")]))
    fun _ => emptyCreateText

local instance : Rust.FromSlice Rust.Fordefi.CreateTransactionResponse :=
  ⟨fun _ => .error "missing field"⟩

local instance : Rust.FromSlice Rust.Fordefi.TransactionStatusResponse :=
  ⟨fun _ => .error "missing field"⟩

local instance : Unmarshal Fordefi.TransactionStatusResponse := ⟨fun _ => .error "cannot unmarshal"⟩

local instance : Python.Modules :=
  .linked emptyDigest (fun _ => .ok (.object [("message", .string "bad request")])) emptyCreateText

/-- A create rejected with a body that arrives whole is reported as rejected. -/
theorem whole_rejection_refused :
    walletOneSigner.prepare emptyTransaction = .ok emptyCreate ∧
      Refused (rejectedRun (.whole badRequestBody)).1 := by
  have prepared := prepare_emptyTransaction
  have reported := rejection_reported_iff (.whole badRequestBody)
    (fun _ => .response 400 (.whole badRequestBody)) emptyTransaction (by decide) rfl
  exact ⟨prepared, (reported.2.2.2.1 walletOneSigner ⟨fun _ => false⟩ emptyCreate prepared).mpr
    ⟨by decide, rfl⟩⟩

end

/-- The reply that breaks off after eight bytes. -/
def brokenBody : BodyStream where
  chunks := [badRequestBody.take 8]
  failure := some "unexpected EOF"

/-- A create rejected with a body that breaks off is reported as unconfirmed. -/
theorem broken_rejection_unconfirmed :
    walletOneSigner.prepare emptyTransaction = .ok emptyCreate ∧
      (rejectedRun brokenBody).1 = .error (SignerError.toError ⟨.broadcastUnconfirmed, "", 0,
        "363a6e6c-6cf5-466c-aaed-39adc6c064ae", "failed to read crossmint response body"⟩) ∧
      ¬ Refused (rejectedRun brokenBody).1 := by
  -- nothing follows a create that is not accepted
  have refused : walletOneSigner.createVerdict emptyTransaction (.response 400 brokenBody) =
      .error (SignerError.toError ⟨.broadcastUnconfirmed, "", 0,
        "363a6e6c-6cf5-466c-aaed-39adc6c064ae", "failed to read crossmint response body"⟩) := by
    rfl
  have reported := (walletOneSigner.signAndSendTransaction_course emptyTransaction
    (fun _ => .response 400 brokenBody) ⟨fun _ => false⟩).eq_error_of_refused
      prepare_emptyTransaction refused
  refine ⟨prepare_emptyTransaction, reported, ?_⟩
  intro given
  rcases given with ⟨err, same, code⟩
  cases reported.symm.trans same
  cases code

end Go.Crossmint

end Keychain
