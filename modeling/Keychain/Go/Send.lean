import Keychain.Go.TxUtil
import Keychain.Handover

/-!
`SignAndSendTransaction` of `core/sign.go`: getting a transaction on chain with one call.

A signer call may change the caller's transaction, so a reply carries what it leaves in `*tx`.
-/

namespace Keychain.Go

open Prog Handover

inductive Completeness where
  /-- `Partial` -/
  | incomplete
  | complete
  deriving DecidableEq

structure SignedTransaction where
  encodedTransaction : String
  signature : Signature
  completeness : Completeness

def SignedTransaction.isComplete (s : SignedTransaction) : Bool := s.completeness = .complete

/-- Which capability interfaces a `SolanaSigner` implements. -/
structure SolanaSigner where
  sendingSigner : Bool
  transactionSigner : Bool
  modifyingSigner : Bool

/-- What the signer and the caller's `send` return at a moment. -/
structure SendReply where
  signAndSendTransaction : Except Error Signature
  /-- of `SignTransaction` or `ModifyAndSignTransaction` -/
  signTransaction : Except Error SignedTransaction
  /-- what the signer leaves in `*tx` -/
  tx : VersionedTransaction
  send : Except Error Signature

/-- The entry point the signer uses to sign a transaction, `none` for `nil`. -/
def signOnlyEntryPoint (s : SolanaSigner) : Option Route :=
  if s.transactionSigner then some .sign
  else if s.modifyingSigner then some .modify
  else none

/-- The error of `SignAndSendTransaction`. -/
abbrev SendError := Raised Error Code String Signature

/-- `NewSignerError`, with the fields that a send sets. -/
def SendError.new (code : Code) (detail : String) : SendError := .raised code detail none none

/-- What `SignAndSendTransaction` does once it has a `send`. -/
def signThenSend (signTransaction : Route) :
    Prog (Call String) SendReply Unit SendError Signature := do
  let reply ← ask (.signer signTransaction)
  match reply.signTransaction with
  | .error err => fail (.passed err)
  | .ok signed =>
    if !signed.isComplete then
      fail (.new .signingFailed
        "transaction is still missing signatures after signing and cannot be broadcast")
    else
      match reply.tx.signatures with
      | [] =>
        fail (.new .signingFailed
          "broadcast transaction has no fee payer signature to identify it by")
      | first :: _ =>
        if isZero first then
          fail (.new .signingFailed
            "broadcast transaction has no fee payer signature to identify it by")
        else do
          match (← ask (.send signed.encodedTransaction)).send with
          | .ok sig => pure sig
          | .error err =>
            fail (.raised .broadcastUnconfirmed ("the transaction may have been broadcast; " ++
              "reconcile its signature before retrying") (some first) (some err))

/-- `SignAndSendTransaction`; `hasSend` tells a `send` from `nil`. -/
def signAndSendTransaction (s : SolanaSigner) (hasSend : Bool) :
    Prog (Call String) SendReply Unit SendError Signature :=
  if s.sendingSigner then do
    match (← ask (.signer .broadcast)).signAndSendTransaction with
    | .error err => fail (.passed err)
    | .ok sig =>
      if sig = Signature.default then
        fail (.new .signingFailed "signer returned no signature for the transaction it broadcast")
      else
        pure sig
  else
    match signOnlyEntryPoint s with
    | none =>
      fail (.new .signingFailed ("this signer supports none of SignTransaction, " ++
        "ModifyAndSignTransaction and SignAndSendTransaction"))
    | some signTransaction =>
      if !hasSend then
        fail (.new .configError ("this signer cannot broadcast transactions; supply a " ++
          "SendTransactionFn to broadcast the signed one"))
      else
        signThenSend signTransaction

/-! ## As the machine -/

/-- Nothing is cancelled by the entry point itself, and every error of `send` is caught. -/
def port : Port Error := ⟨false, fun _ => true⟩

def codes : Codes Code := ⟨.signingFailed, .configError, .broadcastUnconfirmed⟩

def SolanaSigner.route (s : SolanaSigner) : Option Route :=
  if s.sendingSigner then some .broadcast else signOnlyEntryPoint s

/-- The signature, unless it is zero. -/
def nonZero (signature : Signature) : Option Signature :=
  if isZero signature then none else some signature

def SendReply.view (reply : SendReply) : Answer Error String Signature where
  gaveUp := none
  broadcast := reply.signAndSendTransaction.map nonZero
  signing _ := reply.signTransaction.map fun signed => some {
    encoded := signed.encodedTransaction
    complete := signed.isComplete
    first := .ok (reply.tx.signatures.head?.bind nonZero) }
  sent := reply.send.map some

theorem signThenSend_mirrors {route : Route} :
    (signThenSend route).Mirrors SendReply.view Eq (Says codes)
      (Handover.signThenSend port route) := by
  refine mirrors_ask_bind fun reply => ?_
  rw [SendReply.view]
  cases reply.signTransaction with
  | error err => exact mirrors_fail .own
  | ok signed =>
    simp only [Except.map, sendSigned]
    cases signed.isComplete with
    | false => exact mirrors_fail .refused
    | true =>
      simp only [Bool.not_true, Bool.false_eq_true, if_false, if_true]
      cases reply.tx.signatures with
      | nil => exact mirrors_fail .refused
      | cons first rest =>
        simp only [List.head?_cons, Option.bind_some, nonZero]
        cases isZero first with
        | true => exact mirrors_fail .refused
        | false =>
          simp only [Bool.false_eq_true, if_false]
          rw [look_quiet rfl, pure_bind]
          refine mirrors_ask_bind fun reply' => ?_
          rw [SendReply.view]
          cases reply'.send with
          | ok sig => exact mirrors_pure rfl
          | error err => exact mirrors_fail .unconfirmed

theorem signAndSendTransaction_refines (s : SolanaSigner) (hasSend : Bool) :
    Refines codes SendReply.view (signAndSendTransaction s hasSend) port s.route hasSend := by
  rw [Refines, handOver_quiet rfl, SolanaSigner.route, signAndSendTransaction]
  by_cases sends : s.sendingSigner
  · rw [if_pos sends, if_pos sends]
    refine mirrors_ask_bind fun reply => ?_
    rw [SendReply.view]
    cases reply.signAndSendTransaction with
    | error err => exact mirrors_fail .own
    | ok sig =>
      by_cases zero : sig = Signature.default
      · subst zero
        exact mirrors_fail .refused
      · have named : nonZero sig = some sig := by simp [nonZero, isZero, zero]
        simp only [if_neg zero, Except.map, named]
        exact mirrors_pure rfl
  · rw [if_neg sends, if_neg sends, signOnlyEntryPoint]
    cases s.transactionSigner with
    | true =>
      cases hasSend with
      | false => exact mirrors_fail .unconfigured
      | true => exact signThenSend_mirrors
    | false =>
      cases s.modifyingSigner with
      | false => exact mirrors_fail .refused
      | true =>
        cases hasSend with
        | false => exact mirrors_fail .unconfigured
        | true => exact signThenSend_mirrors

end Keychain.Go
