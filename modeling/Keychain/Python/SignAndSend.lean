import Keychain.Handover
import Keychain.Python.TransactionUtil

/-!
`core/send.py`: getting a signed transaction on chain, whichever shape the signer has.

An exception that is no `Exception`, such as a cancellation, is not caught around the
sender, and a transaction without signature slots raises an `IndexError`.
-/

namespace Keychain.Python

open Prog Handover

/-- `SignedTransaction` without the signature of the signer, which `core/send.py` ignores. -/
structure SignedTransaction where
  encodedTransaction : String
  isComplete : Bool
  transaction : VersionedTransaction

/-- What the signer is an instance of. -/
structure SolanaSigner where
  sendingSigner : Bool
  transactionSigner : Bool
  modifyingSigner : Bool

/-- Whatever can be raised. -/
inductive BaseExc where
  | exception (error : Raised)
  /-- no subclass of `Exception` -/
  | other (name : String)
  deriving DecidableEq

/-- What the signer and the caller's `send_transaction` do at a moment. -/
structure SendReply where
  signAndSendTransaction : Except BaseExc Signature
  signTransaction : Except BaseExc SignedTransaction
  modifyAndSignTransaction : Except BaseExc SignedTransaction
  sendTransaction : Except BaseExc Signature

/-- The exception of `sign_and_send_transaction`. -/
abbrev SendError := Handover.Raised BaseExc SignerErrorCode String Signature

def SendError.new (code : SignerErrorCode) (detail : String) : SendError :=
  .raised code detail none none

/-- `except Exception` -/
def isException : BaseExc → Bool
  | .exception _ => true
  | .other _ => false

def indexError : BaseExc := .exception (.exception (.other "IndexError" "list index out of range"))

/-- What the signing signers have in common: the result of `signing` is broadcast. -/
def broadcastSigned (signing : Except BaseExc SignedTransaction) :
    Prog (Call String) SendReply Unit SendError Signature :=
  match signing with
  | .error error => fail (.passed error)
  | .ok signed =>
    if !signed.isComplete then
      fail (.new .signingFailed
        "transaction is still missing signatures after signing and cannot be broadcast")
    else
      match signed.transaction.signatures with
      | [] => fail (.passed indexError)
      | transactionSignature :: _ =>
        if transactionSignature = Signature.default then
          fail (.new .signingFailed
            "broadcast transaction has no fee payer signature to identify it by")
        else do
          match (← ask (.send signed.encodedTransaction)).sendTransaction with
          | .ok signature => pure signature
          | .error error =>
            if isException error then
              fail (.raised .broadcastUnconfirmed
                "the transaction may have been broadcast; reconcile its signature before retrying"
                (some transactionSignature) (some error))
            else
              fail (.passed error)

/-- `sign_and_send_transaction`; `hasSend` tells a `send_transaction` from `None`. -/
def signAndSendTransaction (signer : SolanaSigner) (hasSend : Bool) :
    Prog (Call String) SendReply Unit SendError Signature :=
  if signer.sendingSigner then do
    match (← ask (.signer .broadcast)).signAndSendTransaction with
    | .error error => fail (.passed error)
    | .ok signature =>
      if signature = Signature.default then
        fail (.new .signingFailed "signer returned no signature for the transaction it broadcast")
      else
        pure signature
  else if !(signer.transactionSigner || signer.modifyingSigner) then
    fail (.new .signingFailed
      "this signer supports neither signing nor broadcasting transactions")
  else if !hasSend then
    fail (.new .configError ("this signer cannot broadcast transactions; supply " ++
      "send_transaction to broadcast the signed one"))
  else if signer.modifyingSigner then do
    broadcastSigned (← ask (.signer .modify)).modifyAndSignTransaction
  else do
    broadcastSigned (← ask (.signer .sign)).signTransaction

/-! ## As the machine -/

def port : Port BaseExc := ⟨false, isException⟩

def codes : Codes SignerErrorCode := ⟨.signingFailed, .configError, .broadcastUnconfirmed⟩

/-- A signer that both rewrites and signs is used to rewrite. -/
def SolanaSigner.route (signer : SolanaSigner) : Option Route :=
  if signer.sendingSigner then some .broadcast
  else if signer.modifyingSigner then some .modify
  else if signer.transactionSigner then some .sign
  else none

/-- The signature, unless it is the default one. -/
def nonDefault (signature : Signature) : Option Signature :=
  if signature = Signature.default then none else some signature

/-- What `signed.transaction.signatures[0]` identifies, or its exception. -/
def firstSignature (transaction : VersionedTransaction) : Except BaseExc (Option Signature) :=
  match transaction.signatures with
  | [] => .error indexError
  | signature :: _ => .ok (nonDefault signature)

def SignedTransaction.signing (signed : SignedTransaction) : Signing BaseExc String Signature where
  encoded := signed.encodedTransaction
  complete := signed.isComplete
  first := firstSignature signed.transaction

def SendReply.view (reply : SendReply) : Answer BaseExc String Signature where
  gaveUp := none
  broadcast := reply.signAndSendTransaction.map nonDefault
  signing
    | .modify => reply.modifyAndSignTransaction.map fun signed => some signed.signing
    | _ => reply.signTransaction.map fun signed => some signed.signing
  sent := reply.sendTransaction.map some

theorem broadcastSigned_mirrors {route : Route}
    {signing : SendReply → Except BaseExc SignedTransaction}
    (read : ∀ reply : SendReply, reply.view.signing route =
      (signing reply).map fun signed => some signed.signing) :
    (ask (.signer route) >>= fun reply => broadcastSigned (signing reply)).Mirrors
      SendReply.view Eq (Says codes) (signThenSend port route) := by
  refine mirrors_ask_bind fun reply => ?_
  rw [read]
  cases signing reply with
  | error error => exact mirrors_fail .own
  | ok signed =>
    simp only [broadcastSigned, Except.map, sendSigned, SignedTransaction.signing, firstSignature]
    cases signed.isComplete with
    | false => exact mirrors_fail .refused
    | true =>
      simp only [Bool.not_true, Bool.false_eq_true, if_false, if_true]
      cases signed.transaction.signatures with
      | nil => exact mirrors_fail .own
      | cons first rest =>
        simp only [nonDefault]
        by_cases missing : first = Signature.default
        · rw [if_pos missing, if_pos missing]
          exact mirrors_fail .refused
        · rw [if_neg missing, if_neg missing]
          dsimp only
          rw [look_quiet rfl, pure_bind]
          refine mirrors_ask_bind fun reply' => ?_
          rw [SendReply.view]
          cases reply'.sendTransaction with
          | ok signature => exact mirrors_pure rfl
          | error error =>
            cases error with
            | exception error => exact mirrors_fail .unconfirmed
            | other name => exact mirrors_fail .own

theorem signAndSendTransaction_refines (signer : SolanaSigner) (hasSend : Bool) :
    Refines codes SendReply.view (signAndSendTransaction signer hasSend) port signer.route
      hasSend := by
  rw [Refines, handOver_quiet rfl, SolanaSigner.route, signAndSendTransaction]
  by_cases sends : signer.sendingSigner
  · rw [if_pos sends, if_pos sends]
    refine mirrors_ask_bind fun reply => ?_
    rw [SendReply.view]
    cases reply.signAndSendTransaction with
    | error error => exact mirrors_fail .own
    | ok signature =>
      simp only [Except.map, nonDefault]
      by_cases missing : signature = Signature.default
      · rw [if_pos missing, if_pos missing]
        exact mirrors_fail .refused
      · rw [if_neg missing, if_neg missing]
        exact mirrors_pure rfl
  · rw [if_neg sends, if_neg sends]
    cases signer.modifyingSigner with
    | true =>
      rw [Bool.or_true]
      cases hasSend with
      | false => exact mirrors_fail .unconfigured
      | true => exact broadcastSigned_mirrors fun _ => rfl
    | false =>
      rw [Bool.or_false]
      cases signer.transactionSigner with
      | false => exact mirrors_fail .refused
      | true =>
        cases hasSend with
        | false => exact mirrors_fail .unconfigured
        | true => exact broadcastSigned_mirrors fun _ => rfl

end Keychain.Python
