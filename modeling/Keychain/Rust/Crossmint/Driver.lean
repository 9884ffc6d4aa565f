import Keychain.Crossmint
import Keychain.Rust.Crossmint.Managed

/-!
`poll_transaction` as a `Keychain.Crossmint.Machine`: what it does about one
response, apart from how a follow-up travels.

`pollTransaction_eq` says that the loop of `crossmint/mod.rs` is the machine,
driven with the signer's own requests.
-/

namespace Keychain.Rust.Crossmint

open Keychain.Crossmint Prog

/-- Why a drive fails. -/
inductive DriverError where
  | transactionFailed (response : TransactionResponse)
  | awaitingApproval
  | noPendingMessage
  | undecodableMessage (e : String)
  | timedOut (maxPollAttempts : ℕ)

namespace DriverError

def ending : DriverError → Ending
  | transactionFailed _ => .failed
  | awaitingApproval => .awaitingApproval
  | noPendingMessage => .unreadableMessage
  | undecodableMessage _ => .unreadableMessage
  | timedOut _ => .timedOut

def toSignerError [Crates] : DriverError → SignerError
  | transactionFailed response => CrossmintSigner.transactionFailure response
  | awaitingApproval => CrossmintSigner.awaitingApprovalError
  | noPendingMessage =>
    .signingFailed "Crossmint transaction awaiting approval but no pending message found"
  | undecodableMessage e => .signingFailed s!"Failed to decode approval message as base58: {e}"
  | timedOut maxPollAttempts => .remoteApi
    s!"Crossmint transaction polling timed out after {maxPollAttempts} attempts"

end DriverError

namespace CrossmintSigner

variable [Crates] {σ : Type} {signer : CrossmintSigner}

/-- The first pending entry that names the locator. -/
def ownEntry (signerLocator : String) (response : TransactionResponse) : Option PendingApproval :=
  response.approvals.bind fun approvals => approvals.pending.find? fun entry =>
    entry.signer.bind ApprovalSigner.locator == some signerLocator

/-- The approval of a message. -/
def approve (id signerLocator message : String) (signingKey : Bytes) :
    Except DriverError (FollowUp String) := do
  let messageBytes ← (Crates.bs58Decode message).mapError .undecodableMessage
  let signature := Crates.ed25519Sign signingKey messageBytes
  pure (.approve id signerLocator messageBytes (Crates.bs58Encode signature.bytes))

/-- The approval a response asks this signer for. -/
def approval (signer : CrossmintSigner) (response : TransactionResponse) :
    Except DriverError (FollowUp String) :=
  match signer.signingKey, signer.signer with
  | some signingKey, some signerLocator => do
    let entry ← okOr (ownEntry signerLocator response) .awaitingApproval
    let message ← okOr entry.message .noPendingMessage
    approve response.id signerLocator message signingKey
  | _, _ => .error .awaitingApproval

/-- `poll_transaction` without its loop. -/
def machine (signer : CrossmintSigner) :
    Machine String TransactionResponse (Except DriverError TransactionResponse) where
  move approvalSubmitted response :=
    if response.status = "success" then
      .stop (.ok response)
    else if response.status = "failed" then
      .stop (.error (.transactionFailed response))
    else if response.status = "awaiting-approval" ∧ approvalSubmitted = false then
      match signer.approval response with
      | .ok followUp => .follow followUp
      | .error e => .stop (.error e)
    else
      .follow (.get response.id)
  last approvalSubmitted response :=
    if response.status = "success" then
      .ok response
    else if response.status = "failed" then
      .error (.transactionFailed response)
    else if response.status = "awaiting-approval" ∧ approvalSubmitted = false then
      .error .awaitingApproval
    else
      .error (.timedOut signer.maxPollAttempts)

section

variable {approvalSubmitted : Bool} {response : TransactionResponse}

theorem move_of_success (success : response.status = "success") :
    signer.machine.move approvalSubmitted response = .stop (.ok response) := if_pos success

theorem move_of_failed (failed : response.status = "failed") :
    signer.machine.move approvalSubmitted response =
      .stop (.error (.transactionFailed response)) := by
  simp [machine, failed]

theorem move_of_awaiting (awaiting : response.status = "awaiting-approval") :
    signer.machine.move false response =
      match signer.approval response with
      | .ok followUp => .follow followUp
      | .error e => .stop (.error e) := by
  simp [machine, awaiting]

theorem move_of_other (success : response.status ≠ "success") (failed : response.status ≠ "failed")
    (other : ¬ (response.status = "awaiting-approval" ∧ approvalSubmitted = false)) :
    signer.machine.move approvalSubmitted response = .follow (.get response.id) := by
  simp only [machine, if_neg success, if_neg failed, if_neg other]

end

/-- The approval of our own entry. -/
theorem approval_of_entry {response : TransactionResponse} {signingKey : Bytes}
    {signerLocator : String} {entry : PendingApproval} (key : signer.signingKey = some signingKey)
    (locator : signer.signer = some signerLocator)
    (own : ownEntry signerLocator response = some entry) :
    signer.approval response =
      match entry.message with
      | none => .error .noPendingMessage
      | some message => approve response.id signerLocator message signingKey := by
  simp only [approval, key, locator, own]
  cases entry with
  | mk message signer =>
    cases message with
    | none => rfl
    | some message => rfl

/-- `poll_transaction` on typed responses: the `n`-th follow-up is answered with
`responses n`. -/
def pollTyped (signer : CrossmintSigner) (responses : ℕ → TransactionResponse)
    (created : TransactionResponse) :
    Except DriverError TransactionResponse × World (FollowUp String) TransactionResponse Unit :=
  (signer.machine.drive ask signer.maxPollAttempts false created).run responses (World.start ())

/-- The approval of a signature, as a request. -/
def approvalPost (signer : CrossmintSigner) (transactionId signerLocator signatureB58 : String) :
    Except SignerError Request := do
  let url ← signer.buildWalletsApiUrl ["transactions", transactionId, "approvals"]
  let body ← (Crates.jsonToString (.object [("approvals", .array [.object [
    ("signer", .string signerLocator), ("signature", .string signatureB58)]])])).mapError
      .httpError
  pure {
    method := .post
    url
    headers := [("Content-Type", "application/json"), ("X-API-KEY", signer.apiKey)]
    body }

def followUpRequest (signer : CrossmintSigner) : FollowUp String → Except SignerError Request
  | .get id => signer.getRequest id
  | .approve id signerLocator _ signatureB58 => signer.approvalPost id signerLocator signatureB58

/-- How this signer sends a follow-up. -/
def sendFollowUp (signer : CrossmintSigner) (followUp : FollowUp String) :
    HttpProg σ SignerError TransactionResponse :=
  exchange (signer.followUpRequest followUp)
    (parseResponseWithRequiredField TransactionResponse.fromValue "id"
      (if followUp.isApproval then "submit_approval" else "get_transaction"))

/-! ## The loop of the source -/

theorem submitApprovalRequest_eq {id signerLocator message : String} {signingKey : Bytes} :
    signer.submitApprovalRequest id signerLocator message signingKey =
      match approve id signerLocator message signingKey with
      | .ok followUp => signer.followUpRequest followUp
      | .error e => .error e.toSignerError := by
  unfold submitApprovalRequest approve
  cases Crates.bs58Decode message with
  | error e => rfl
  | ok messageBytes => rfl

/-- The approval request of the source is the follow-up, as a request. -/
theorem approvalRequest_eq {response : TransactionResponse} :
    signer.approvalRequest response =
      match signer.approval response with
      | .ok followUp => signer.followUpRequest followUp
      | .error e => .error e.toSignerError := by
  unfold approvalRequest approval
  cases signer.signingKey with
  | none => rfl
  | some signingKey =>
    cases signer.signer with
    | none => rfl
    | some signerLocator =>
      simp only [pendingMessage, ownEntry]
      cases response.approvals.bind fun approvals => approvals.pending.find? fun entry =>
          entry.signer.bind ApprovalSigner.locator == some signerLocator with
      | none => rfl
      | some entry =>
        simp only [okOr, bind, Except.bind]
        cases entry.message with
        | none => rfl
        | some message => exact submitApprovalRequest_eq

theorem exists_approve_of_approval {response : TransactionResponse} {followUp : FollowUp String}
    (owed : signer.approval response = .ok followUp) :
    ∃ signerLocator signed signature,
      followUp = .approve response.id signerLocator signed signature := by
  unfold approval at owed
  split at owed
  · obtain ⟨entry, -, owed⟩ := bind_eq_ok.mp owed
    obtain ⟨message, -, owed⟩ := bind_eq_ok.mp owed
    obtain ⟨messageBytes, -, owed⟩ := bind_eq_ok.mp owed
    cases owed
    exact ⟨_, _, _, rfl⟩
  · cases owed

theorem isApproval_of_approval {response : TransactionResponse} {followUp : FollowUp String}
    (owed : signer.approval response = .ok followUp) : followUp.isApproval = true := by
  rcases exists_approve_of_approval owed with ⟨signerLocator, signed, signature, rfl⟩
  rfl

/-- The machine with the errors of the source. -/
def raising (signer : CrossmintSigner) :
    Machine String TransactionResponse (Except SignerError TransactionResponse) :=
  signer.machine.mapResult fun result => result.mapError DriverError.toSignerError

theorem raising_move {approvalSubmitted : Bool} {response : TransactionResponse}
    {move : Move String (Except DriverError TransactionResponse)}
    (moves : signer.machine.move approvalSubmitted response = move) :
    signer.raising.move approvalSubmitted response =
      move.map (fun s => s) fun result => result.mapError DriverError.toSignerError := by
  rw [← moves]
  rfl

theorem pollLoop_eq {attempts : ℕ} {approvalSubmitted : Bool} {response : TransactionResponse} :
    (signer.pollLoop attempts approvalSubmitted response :
        HttpProg σ SignerError TransactionResponse) =
      signer.raising.drive signer.sendFollowUp attempts approvalSubmitted response := by
  induction attempts generalizing approvalSubmitted response with
  | zero =>
    unfold pollLoop Machine.drive pollExhausted
    simp only [raising, Machine.mapResult, machine]
    split
    · rfl
    split
    · rfl
    split
    · rfl
    · rfl
  | succ attempts ih =>
    unfold pollLoop
    split
    · rename_i success
      rw [Machine.drive_of_stop (raising_move (move_of_success success))]
      rfl
    split
    · rename_i failed
      rw [Machine.drive_of_stop (raising_move (move_of_failed failed))]
      rfl
    split
    · rename_i awaiting
      rcases awaiting with ⟨awaiting, rfl⟩
      have move : signer.raising.move false response = _ := raising_move (move_of_awaiting awaiting)
      rw [handleAwaitingApproval_eq, approvalRequest_eq]
      cases owed : signer.approval response with
      | error e =>
        rw [owed] at move
        rw [Machine.drive_of_stop move]
        rfl
      | ok followUp =>
        have approves := isApproval_of_approval owed
        rw [owed] at move
        rw [Machine.drive_of_follow move]
        simp only [FollowUp.map_id, sendFollowUp, approves, Bool.or_true, if_true, ih]
    · rename_i success failed other
      rw [Machine.drive_of_follow (raising_move (move_of_other success failed other))]
      simp only [FollowUp.map_id, FollowUp.isApproval, Bool.or_false, ih]
      rfl

/-- `poll_transaction` is the machine, driven with the requests of the signer. -/
theorem pollTransaction_eq {response : TransactionResponse} :
    (signer.pollTransaction response : HttpProg σ SignerError TransactionResponse) =
      signer.raising.drive signer.sendFollowUp signer.maxPollAttempts false response :=
  pollLoop_eq

end CrossmintSigner

end Keychain.Rust.Crossmint
