import Keychain.Handover
import Keychain.TypeScript.Managed

/-!
`core/send.ts`: getting a transaction on chain with one flow, whichever shape the signer has.

The caller may abort before the signer is used and before the sender is. A sender that
returns nothing is answered for by the fee payer's signature.
-/

namespace Keychain.TypeScript.Send

open Prog Handover

/-- Which methods a `SolanaSigner` exposes; without these two it is a transaction signer. -/
structure SolanaSigner where
  sendingSigner : Bool
  modifyingSigner : Bool

/-- What the signer, the caller's signal and the caller's `sendTransaction` do at a moment. -/
structure Reply where
  /-- the reason of the signal, once it is aborted -/
  aborted : Option Thrown
  signAndSendTransactions : Except Thrown (List Bytes)
  modifyAndSignTransactions : Except Thrown (List Transaction)
  signTransactions : Except Thrown (List (Batch.Record (Option Bytes)))
  /-- `none` is `undefined`. -/
  sendTransaction : Except Thrown (Option Bytes)

abbrev SendError := Raised Thrown Batch.SignerErrorCode JsString Bytes

abbrev SendProg := Prog (Call Transaction) Reply Unit SendError

def throwSignerError {T : Type} (code : Batch.SignerErrorCode) (message : JsString) : SendProg T :=
  fail (.raised code message none none)

/-- `abortSignal?.throwIfAborted()` -/
def throwIfAborted (hasSignal : Bool) : SendProg Unit :=
  if hasSignal then do
    match (← ask .look).aborted with
    | some reason => fail (.passed reason)
    | none => pure ()
  else
    pure ()

/-- `{ ...signatures, ...dictionary }` -/
def spread (signatures dictionary : Batch.Record (Option Bytes)) : Batch.Record (Option Bytes) :=
  dictionary.foldl (fun merged entry => merged.set entry.1 entry.2) signatures

def withSignatures (transaction : Transaction) (dictionary : Batch.Record (Option Bytes)) :
    Transaction :=
  { transaction with signatures := spread transaction.signatures dictionary }

/-- The addresses whose signature is missing. -/
def missing (transaction : Transaction) : List JsString :=
  (transaction.signatures.filter fun entry => entry.2.isNone).map (·.1)

/-- `Object.values(signatures)[0]` -/
def feePayerSignature (transaction : Transaction) : Option Bytes :=
  (transaction.signatures.head?.map (·.2)).join

section

variable (isFullySignedTransaction : Transaction → Bool)

/-- What the signer signed is handed to `sendTransaction`. -/
def broadcastSigned (hasSignal : Bool) (signedTransaction : Transaction) : SendProg Bytes :=
  if !isFullySignedTransaction signedTransaction then
    throwSignerError .signingFailed
      ("Transaction is missing signatures for " ++ JsString.join ", " (missing signedTransaction))
  else
    match feePayerSignature signedTransaction with
    | none =>
      throwSignerError .signingFailed
        "Broadcast transaction has no fee payer signature to identify it by"
    | some feePayerSignature => do
      throwIfAborted hasSignal
      match (← ask (.send signedTransaction)).sendTransaction with
      | .error cause =>
        fail (.raised .broadcastUnconfirmed
          "The transaction may have been broadcast; reconcile its signature before retrying"
          (some feePayerSignature) (some cause))
      | .ok (some signature) => pure signature
      | .ok none => pure feePayerSignature

/-- `signAndSendTransaction`; `hasSignal` and `hasSend` tell a signal and a
`sendTransaction` from `undefined`. -/
def signAndSendTransaction (signer : SolanaSigner) (transaction : Transaction)
    (hasSignal hasSend : Bool) : SendProg Bytes := do
  throwIfAborted hasSignal
  if signer.sendingSigner then
    match (← ask (.signer .broadcast)).signAndSendTransactions with
    | .error error => fail (.passed error)
    | .ok [] =>
      throwSignerError .signingFailed
        "Signer returned no signature for the transaction it broadcast"
    | .ok (signature :: _) => pure signature
  else if !hasSend then
    throwSignerError .configError ("This signer cannot broadcast transactions; supply " ++
      ("\x60sendTransaction\x60 to broadcast the signed one" : JsString))
  else if signer.modifyingSigner then
    match (← ask (.signer .modify)).modifyAndSignTransactions with
    | .error error => fail (.passed error)
    | .ok [] =>
      throwSignerError .signingFailed
        "Signer returned no transaction for the transaction it signed"
    | .ok (modifiedTransaction :: _) =>
      broadcastSigned isFullySignedTransaction hasSignal modifiedTransaction
  else
    match (← ask (.signer .sign)).signTransactions with
    | .error error => fail (.passed error)
    | .ok [] => throwSignerError .signingFailed "Signer returned no signatures for the transaction"
    | .ok (signatureDictionary :: _) =>
      broadcastSigned isFullySignedTransaction hasSignal
        (withSignatures transaction signatureDictionary)

/-! ## As the machine -/

def port (hasSignal : Bool) : Port Thrown := ⟨hasSignal, fun _ => true⟩

def codes : Codes Batch.SignerErrorCode := ⟨.signingFailed, .configError, .broadcastUnconfirmed⟩

def SolanaSigner.route (signer : SolanaSigner) : Route :=
  if signer.sendingSigner then .broadcast
  else if signer.modifyingSigner then .modify
  else .sign

def signing (signedTransaction : Transaction) : Signing Thrown Transaction Bytes where
  encoded := signedTransaction
  complete := isFullySignedTransaction signedTransaction
  first := .ok (feePayerSignature signedTransaction)

def Reply.view (transaction : Transaction) (reply : Reply) : Answer Thrown Transaction Bytes where
  gaveUp := reply.aborted
  broadcast := reply.signAndSendTransactions.map List.head?
  signing
    | .modify => reply.modifyAndSignTransactions.map fun modified =>
        modified.head?.map (signing isFullySignedTransaction)
    | _ => reply.signTransactions.map fun dictionaries => dictionaries.head?.map fun dictionary =>
        signing isFullySignedTransaction (withSignatures transaction dictionary)
  sent := reply.sendTransaction

variable {transaction : Transaction} {hasSignal : Bool}

theorem throwIfAborted_mirrors : (throwIfAborted hasSignal).Mirrors
    (Reply.view isFullySignedTransaction transaction) Eq (Says codes) (look (port hasSignal)) := by
  cases hasSignal with
  | false => exact mirrors_pure rfl
  | true =>
    refine mirrors_ask_bind fun reply => ?_
    rw [Reply.view]
    cases reply.aborted with
    | none => exact mirrors_pure rfl
    | some reason => exact mirrors_fail .own

theorem broadcastSigned_mirrors {signedTransaction : Transaction} :
    (broadcastSigned isFullySignedTransaction hasSignal signedTransaction).Mirrors
      (Reply.view isFullySignedTransaction transaction) Eq (Says codes)
      (sendSigned (port hasSignal) (signing isFullySignedTransaction signedTransaction)) := by
  unfold broadcastSigned sendSigned signing
  by_cases complete : isFullySignedTransaction signedTransaction
  · rw [if_neg (by rw [complete]; decide), if_pos complete]
    dsimp only
    cases feePayerSignature signedTransaction with
    | none => exact mirrors_fail .refused
    | some first =>
      refine (throwIfAborted_mirrors isFullySignedTransaction).bind fun _ _ _ => ?_
      refine mirrors_ask_bind fun reply => ?_
      rw [Reply.view]
      cases reply.sendTransaction with
      | error cause => exact mirrors_fail .unconfirmed
      | ok given =>
        cases given with
        | none => exact mirrors_pure rfl
        | some signature => exact mirrors_pure rfl
  · rw [if_pos (by simpa using complete), if_neg complete]
    exact mirrors_fail .refused

theorem signAndSendTransaction_refines (signer : SolanaSigner) (transaction : Transaction)
    (hasSignal hasSend : Bool) :
    Refines codes (Reply.view isFullySignedTransaction transaction)
      (signAndSendTransaction isFullySignedTransaction signer transaction hasSignal hasSend)
      (port hasSignal) (some signer.route) hasSend := by
  refine (throwIfAborted_mirrors isFullySignedTransaction).bind fun _ _ _ => ?_
  rw [SolanaSigner.route]
  cases signer.sendingSigner with
  | true =>
    refine mirrors_ask_bind fun reply => ?_
    rw [Reply.view]
    cases reply.signAndSendTransactions with
    | error error => exact mirrors_fail .own
    | ok signatures =>
      cases signatures with
      | nil => exact mirrors_fail .refused
      | cons signature rest => exact mirrors_pure rfl
  | false =>
    cases hasSend with
    | false =>
      cases signer.modifyingSigner with
      | false => exact mirrors_fail .unconfigured
      | true => exact mirrors_fail .unconfigured
    | true =>
      cases signer.modifyingSigner with
      | true =>
        refine mirrors_ask_bind fun reply => ?_
        rw [Reply.view]
        cases reply.modifyAndSignTransactions with
        | error error => exact mirrors_fail .own
        | ok modified =>
          cases modified with
          | nil => exact mirrors_fail .refused
          | cons modifiedTransaction rest =>
            exact broadcastSigned_mirrors isFullySignedTransaction
      | false =>
        refine mirrors_ask_bind fun reply => ?_
        rw [Reply.view]
        cases reply.signTransactions with
        | error error => exact mirrors_fail .own
        | ok dictionaries =>
          cases dictionaries with
          | nil => exact mirrors_fail .refused
          | cons signatureDictionary rest =>
            exact broadcastSigned_mirrors isFullySignedTransaction

end

end Keychain.TypeScript.Send
