import Keychain.Python.Http

/-!
`core/transaction_util.py` and `core/signature_util.py`: the pending-id slot,
idempotency keys, and the checks on a transaction that comes back signed.
-/

namespace Keychain.Python

open Prog

/-! ## Pending transaction ids -/

/-- The provider transaction ids of the calls in flight, oldest first. -/
structure PendingTransactionId where
  providerTransactionIds : List Str
  deriving DecidableEq

namespace PendingTransactionId

def set (providerTransactionId : Str) (slot : PendingTransactionId) : PendingTransactionId :=
  ⟨slot.providerTransactionIds ++ [providerTransactionId]⟩

def clear (providerTransactionId : Str) (slot : PendingTransactionId) : PendingTransactionId :=
  ⟨slot.providerTransactionIds.erase providerTransactionId⟩

/-- An id that was set and cleared is gone: the slot holds the ids it held. -/
theorem clear_set_perm {id : Str} {slot : PendingTransactionId} :
    ((slot.set id).clear id).providerTransactionIds.Perm slot.providerTransactionIds := by
  have moved : (slot.set id).providerTransactionIds.Perm (id :: slot.providerTransactionIds) :=
    List.perm_append_singleton _ _
  have erased := moved.erase id
  rwa [List.erase_cons_head] at erased

end PendingTransactionId

section

variable [Modules]

/-- A UUID derived from SHA-256 of the message bytes. -/
def idempotencyKeyFromMessage (messageBytes : Bytes) : String :=
  let digest := (Modules.sha256 messageBytes).val.take 16
  let digest := digest.modify 6 (fun byte => (byte &&& 0x0F) ||| 0x40)
  let digest := digest.modify 8 (fun byte => (byte &&& 0x3F) ||| 0x80)
  let hex (start stop : ℕ) : String :=
    String.ofList (((digest.drop start).take (stop - start)).flatMap hexDigits)
  hex 0 4 ++ "-" ++ hex 4 6 ++ "-" ++ hex 6 8 ++ "-" ++ hex 8 10 ++ "-" ++ hex 10 16

def signedMessageBytes (message : VersionedMessage) : Bytes := Modules.toBytesVersioned message

/-- Index of the key within the required-signer slots. -/
def getSigningKeypairPosition (transaction : VersionedTransaction) (pubkey : Pubkey) :
    Except Raised ℕ :=
  if transaction.message.staticAccountKeys.length < transaction.message.numRequired then
    raiseSignerError .signingFailed "Invalid account index: not enough account keys"
  else
    match transaction.message.requiredKeys.idxOf? pubkey with
    | some position => .ok position
    | none =>
      raiseSignerError .signingFailed (Str.ofString
        ("Pubkey " ++ Modules.showPubkey pubkey ++ " not found in transaction signers"))

def verifyReturnedSignature (signature : Signature) (publicKey : Pubkey) (message : Bytes) :
    Except Raised Unit :=
  if Modules.verify signature publicKey message then
    .ok ()
  else
    raiseSignerError .signingFailed
      "Signature verification failed: the returned signature does not match the public key"

end

section

variable [Modules]

theorem verifyReturnedSignature_not_throws {signature : Signature} {publicKey : Pubkey}
    {message : Bytes} : ¬ Throws (verifyReturnedSignature signature publicKey message) := by
  unfold verifyReturnedSignature
  split <;> simp

theorem getSigningKeypairPosition_not_throws {transaction : VersionedTransaction}
    {pubkey : Pubkey} : ¬ Throws (getSigningKeypairPosition transaction pubkey) := by
  unfold getSigningKeypairPosition
  split
  · exact throws_raiseSignerError
  split <;> simp

end

/-! ## Accepted creates -/

/-- The handler of a failure after an accepted create: only a `SignerError` is
converted. -/
def afterAccept (transactionId : Str) (idempotencyKey : String) : Raised → Raised
  | .signerError error => unconfirmedAfter transactionId idempotencyKey error
  | .exception e => .exception e

/-- The signer's slot, if it has one, with the id of this call. -/
def setPending (hasSlot : Bool) (transactionId : Str) (slot : PendingTransactionId) :
    PendingTransactionId :=
  if hasSlot then slot.set transactionId else slot

/-- `_clear_pending_transaction_id` -/
def clearPending (hasSlot : Bool) (transactionId : Str) (slot : PendingTransactionId) :
    PendingTransactionId :=
  if hasSlot then slot.clear transactionId else slot

theorem clearPending_setPending_perm {hasSlot : Bool} {transactionId : Str}
    {slot : PendingTransactionId} :
    (clearPending hasSlot transactionId
      (setPending hasSlot transactionId slot)).providerTransactionIds.Perm
        slot.providerTransactionIds := by
  cases hasSlot with
  | false => exact .refl _
  | true => exact PendingTransactionId.clear_set_perm

/-- The part of a sending call after its create was accepted. The id stays in the
slot until `finish` returns or raises a `SignerError`. -/
def settleAccepted (hasSlot : Bool) (transactionId : Str) (idempotencyKey : String)
    (finish : HttpProg PendingTransactionId Raised Signature) :
    HttpProg PendingTransactionId Raised Signature := do
  modifyState (setPending hasSlot transactionId)
  let signature ← finish.handle fun raised => do
    match raised with
    | .signerError error =>
      modifyState (clearPending hasSlot transactionId)
      fail (unconfirmedAfter transactionId idempotencyKey error)
    | .exception e => fail (.exception e)
  modifyState (clearPending hasSlot transactionId)
  pure signature

/-- How a call whose create was accepted should end: with a signature, or with a
`BROADCAST_UNCONFIRMED` that names the transaction and the key its create was sent
under; in both cases the slot holds the ids it held before the call. -/
def Concluded (slot : PendingTransactionId) (header : String) (create : Request) (id : Str)
    (ended : Except Raised Signature × World Request Reply PendingTransactionId) : Prop :=
  ((∃ signature, ended.1 = .ok signature) ∨
    ∃ error key, ended.1 = .error (.signerError error) ∧ error.code = .broadcastUnconfirmed ∧
      error.providerTransactionId = some id ∧ error.idempotencyKey = some key ∧
      create.headers.lookup header = some key) ∧
  ended.2.state.providerTransactionIds.Perm slot.providerTransactionIds

section

variable {hasSlot : Bool} {transactionId : Str} {idempotencyKey : String}
variable {finish : HttpProg PendingTransactionId Raised Signature}

theorem settleAccepted_run {answers : ℕ → Reply} {w : World Request Reply PendingTransactionId} :
    (settleAccepted hasSlot transactionId idempotencyKey finish).run answers w =
      match finish.run answers { w with state := setPending hasSlot transactionId w.state } with
      | (.ok signature, w') =>
        (.ok signature, { w' with state := clearPending hasSlot transactionId w'.state })
      | (.error (.signerError error), w') =>
        (.error (unconfirmedAfter transactionId idempotencyKey error),
          { w' with state := clearPending hasSlot transactionId w'.state })
      | (.error (.exception e), w') => (.error (.exception e), w') := by
  rw [settleAccepted, run_bind, run_modifyState]
  simp only [run_bind, run_handle]
  rcases finish.run answers { w with state := setPending hasSlot transactionId w.state } with
    ⟨(error | e) | signature, w'⟩ <;> rfl

theorem settleAccepted_asks {R : Request → Prop} (asks : finish.Asks R) :
    (settleAccepted hasSlot transactionId idempotencyKey finish).Asks R := by
  intro answers w
  obtain ⟨rest, log, allowed⟩ :=
    asks answers { w with state := setPending hasSlot transactionId w.state }
  refine ⟨rest, ?_, allowed⟩
  rw [settleAccepted_run]
  rcases ran : finish.run answers { w with state := setPending hasSlot transactionId w.state } with
    ⟨(error | e) | signature, w'⟩ <;> simpa [ran] using log

/-- A finish that only talks decides the result by the answers still to come. -/
theorem settleAccepted_fst (oblivious : finish.Oblivious) {answers : ℕ → Reply}
    {w : World Request Reply PendingTransactionId} :
    ((settleAccepted hasSlot transactionId idempotencyKey finish).run answers w).1 =
      (finish.run (fun i => answers (w.asked + i)) (.start ⟨[]⟩)).1.mapError
        (afterAccept transactionId idempotencyKey) := by
  have fresh : (finish.run answers
      { w with state := setPending hasSlot transactionId w.state }).1 =
        (finish.run (fun i => answers (w.asked + i)) (.start ⟨[]⟩)).1 := oblivious.fst_eq _
  rw [settleAccepted_run, ← fresh]
  rcases finish.run answers { w with state := setPending hasSlot transactionId w.state } with
    ⟨(error | e) | signature, w'⟩ <;> rfl

/-- The call concludes exactly when its finish throws nothing. -/
theorem settleAccepted_concluded_iff (oblivious : finish.Oblivious) {answers : ℕ → Reply}
    {w : World Request Reply PendingTransactionId} {header : String} {create : Request}
    (keyed : create.headers.lookup header = some idempotencyKey) :
    Concluded w.state header create transactionId
      ((settleAccepted hasSlot transactionId idempotencyKey finish).run answers w) ↔
      ¬ Throws (finish.run (fun i => answers (w.asked + i)) (.start ⟨[]⟩)).1 := by
  have fresh : (finish.run answers
      { w with state := setPending hasSlot transactionId w.state }).1 =
        (finish.run (fun i => answers (w.asked + i)) (.start ⟨[]⟩)).1 := oblivious.fst_eq _
  have kept := oblivious.keeps answers { w with state := setPending hasSlot transactionId w.state }
  rw [settleAccepted_run, ← fresh]
  rcases ran : finish.run answers { w with state := setPending hasSlot transactionId w.state } with
    ⟨(error | e) | signature, w'⟩
  · rw [ran] at kept
    simp only [throws_signerError, not_false_eq_true, iff_true]
    refine ⟨.inr ⟨_, idempotencyKey, rfl, rfl, rfl, rfl, keyed⟩, ?_⟩
    simp only at kept ⊢
    rw [kept]
    exact clearPending_setPending_perm
  · simp [Concluded, Throws]
  · rw [ran] at kept
    simp only [throws_ok, not_false_eq_true, iff_true]
    refine ⟨.inl ⟨signature, rfl⟩, ?_⟩
    simp only at kept ⊢
    rw [kept]
    exact clearPending_setPending_perm

/-- A call that submits its create first and then settles it. -/
theorem submit_concluded_iff {ι : Type} {submit : HttpProg PendingTransactionId Raised ι}
    {settle : ι → HttpProg PendingTransactionId Raised Signature} {created : ι}
    {answers : ℕ → Reply} {slot : PendingTransactionId} {header : String} {create : Request}
    (submitted : submit.run answers (.start slot) =
      (.ok created, (World.start slot).heard create (answers 0)))
    (settles : settle created = settleAccepted hasSlot transactionId idempotencyKey finish)
    (oblivious : finish.Oblivious)
    (keyed : create.headers.lookup header = some idempotencyKey) :
    Concluded slot header create transactionId ((submit >>= settle).run answers (.start slot)) ↔
      ¬ Throws (finish.run (fun i => answers (i + 1)) (.start ⟨[]⟩)).1 := by
  have shift : (fun i => answers (i + 1)) =
      fun i => answers (((World.start slot).heard create (answers 0)).asked + i) := by
    funext i
    simp [Nat.add_comm]
  rw [run_bind, submitted, shift]
  simp only [settles]
  exact settleAccepted_concluded_iff oblivious keyed

end

end Keychain.Python
