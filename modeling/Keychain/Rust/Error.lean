import Keychain.Rust.Crates

/-!
`SignerError`, the error type of every Rust signer, and the classification of a
failed create: `unconfirmedUnlessRejected` keeps the error of a definite
rejection and turns every other failure into `broadcastUnconfirmed`.
-/

namespace Keychain.Rust

/-- The fields of `SignerError::BroadcastUnconfirmed`. -/
structure Unconfirmed where
  providerTxId : Option String
  providerStatus : Option ℕ
  idempotencyKey : Option String
  transactionSignature : Option Signature
  detail : String
  deriving DecidableEq

inductive SignerError where
  | invalidPrivateKey (detail : String)
  | invalidPublicKey (detail : String)
  | signingFailed (detail : String)
  | remoteApiError (detail : String) (providerTxId : Option String)
  | httpError (detail : String)
  | serializationError (detail : String)
  | configError (detail : String)
  | notAvailable (detail : String)
  | userRejected (detail : String)
  | ioError (detail : String)
  | broadcastUnconfirmed (outcome : Unconfirmed)
  | other (detail : String)
  deriving DecidableEq

namespace SignerError

/-- A remote API failure that left no pending provider request behind. -/
def remoteApi (detail : String) : SignerError := .remoteApiError detail none

def detailString : SignerError → String
  | .invalidPrivateKey detail | .invalidPublicKey detail | .signingFailed detail
  | .httpError detail | .serializationError detail | .configError detail
  | .notAvailable detail | .userRejected detail | .ioError detail | .other detail => detail
  | .remoteApiError detail _ => detail
  | .broadcastUnconfirmed outcome => outcome.detail

/-- The `Display` text of an error. -/
def display : SignerError → String
  | .invalidPrivateKey _ => "Invalid private key format"
  | .invalidPublicKey _ => "Invalid public key"
  | .signingFailed _ => "Signing failed"
  | .remoteApiError _ _ => "Remote API error"
  | .httpError _ => "HTTP request failed"
  | .serializationError _ => "Serialization error"
  | .configError _ => "Configuration error"
  | .notAvailable _ => "Signer not available"
  | .userRejected _ => "Request rejected by user"
  | .ioError _ => "IO error"
  | .broadcastUnconfirmed outcome =>
    "Broadcast unconfirmed; the provider may have executed the transaction" ++
      ((outcome.providerTxId.map fun id => s!" (provider transaction id: {id})").getD "")
  | .other _ => "Signer error"

/-- The outcome a `BroadcastUnconfirmed` reports. -/
def unconfirmed? : SignerError → Option Unconfirmed
  | .broadcastUnconfirmed outcome => some outcome
  | _ => none

@[simp] theorem unconfirmed?_broadcastUnconfirmed (outcome : Unconfirmed) :
    (broadcastUnconfirmed outcome).unconfirmed? = some outcome := rfl

theorem eq_broadcastUnconfirmed_of_unconfirmed? {error : SignerError} {outcome : Unconfirmed}
    (h : error.unconfirmed? = some outcome) : error = .broadcastUnconfirmed outcome := by
  cases error with
  | broadcastUnconfirmed reported => cases h; rfl
  | _ => cases h

end SignerError

/-- Classifies ambiguous creates while preserving their provider id and
idempotency key. -/
def unconfirmedUnlessRejected (status : Option ℕ) (providerTxId : Option String)
    (idempotencyKey : Option String) (error : SignerError) : SignerError :=
  if status.any (fun status => 400 ≤ status && status < 500 && status != 408) then
    error
  else
    .broadcastUnconfirmed {
      providerTxId
      providerStatus := status.filter (fun status => 400 ≤ status)
      idempotencyKey
      transactionSignature := none
      detail := error.detailString }

section

variable {status : ℕ} {providerTxId idempotencyKey : Option String} {error : SignerError}

/-- The verdict rests on the status alone: a rejection keeps its own error. -/
@[simp] theorem unconfirmedUnlessRejected_of_isRejection (rejected : Reply.isRejection status) :
    unconfirmedUnlessRejected (some status) providerTxId idempotencyKey error = error := by
  have guard : (400 ≤ status && status < 500 && status != 408) = true := rejected
  simp [unconfirmedUnlessRejected, guard]

theorem unconfirmedUnlessRejected_of_not_isRejection
    (unresolved : Reply.isRejection status = false) :
    unconfirmedUnlessRejected (some status) providerTxId idempotencyKey error =
      .broadcastUnconfirmed ⟨providerTxId, if 400 ≤ status then some status else none,
        idempotencyKey, none, error.detailString⟩ := by
  have guard : (400 ≤ status && status < 500 && status != 408) = false := unresolved
  rw [unconfirmedUnlessRejected, Option.any_some, guard]
  simp [Option.filter]

theorem unconfirmedUnlessRejected_none :
    unconfirmedUnlessRejected none providerTxId idempotencyKey error =
      .broadcastUnconfirmed ⟨providerTxId, none, idempotencyKey, none, error.detailString⟩ := by
  simp [unconfirmedUnlessRejected, Option.filter]

end

end Keychain.Rust
