import Keychain.Crossmint
import Keychain.Lib.Dialogue
import Keychain.TypeScript.Runtime

/-!
`crossmint-signer.ts`: the key input of a create and the loop that drives a
created transaction to its end.

The loop is modelled on typed responses. `getTransaction` and `submitApproval`
each send one follow-up; what `extractSignature` makes of a success response is
not part of the model, so a drive returns that response.

`driveTransactionToSignature_eq` says that the loop drives a
`Keychain.Crossmint.Machine`.
-/

namespace Keychain.TypeScript

open Crossmint Prog

/-- The packages the signer calls: `@solana/codecs-strings` and `node:crypto`. -/
class Packages where
  /-- `getBase58Encoder().encode`; `none` when it throws -/
  base58Encode : JsString → Option Bytes
  /-- `getBase58Decoder().decode` -/
  base58Decode : Bytes → JsString
  /-- `sign` under the Ed25519 key of a seed -/
  cryptoSign : Bytes → Bytes → Bytes

/-! ## Responses -/

structure ApprovalSigner where
  locator : Option JsString
  deriving DecidableEq

structure PendingApproval where
  message : Option JsString
  signer : Option ApprovalSigner
  deriving DecidableEq

structure CrossmintTransactionApprovals where
  pending : Option (List PendingApproval)
  deriving DecidableEq

structure CrossmintTransactionResponse where
  id : JsString
  status : JsString
  approvals : Option CrossmintTransactionApprovals
  deriving DecidableEq

structure CrossmintSigner where
  apiKey : JsString
  walletLocator : JsString
  apiBaseUrl : JsString
  maxPollAttempts : ℕ
  signer : Option JsString
  signerSeed : Option Bytes
  maxPollAttempts_pos : 0 < maxPollAttempts

/-- The codes a drive throws. -/
inductive SignerErrorCode where
  | signingFailed
  | remoteApiError
  deriving DecidableEq

/-- What a drive throws, next to the class it belongs to. The base58 codec throws
an error of its own, without a signer error code. -/
structure DriveError where
  ending : Ending
  code : Option SignerErrorCode
  message : String
  deriving DecidableEq

namespace DriveError

/-- The provider's own account of the failure follows the colon. -/
def transactionFailed : DriveError :=
  ⟨.failed, some .signingFailed, "Crossmint transaction failed: "⟩

def awaitingApproval : DriveError :=
  ⟨.awaitingApproval, some .signingFailed,
    "Crossmint transaction is awaiting approval; additional signer approvals are required"⟩

def noPendingMessage : DriveError :=
  ⟨.unreadableMessage, some .signingFailed,
    "Crossmint transaction awaiting approval but no pending message found"⟩

def invalidBase58 : DriveError := ⟨.unreadableMessage, none, "Invalid base58 string"⟩

def timedOut (maxPollAttempts : ℕ) : DriveError :=
  ⟨.timedOut, some .remoteApiError,
    s!"Crossmint transaction polling timed out after {maxPollAttempts} attempts"⟩

end DriveError

namespace CrossmintSigner

/-! ## The key input -/

/-- `none` is a `RangeError`. -/
def namespacedKeyInput (signer : CrossmintSigner) (messageBytes : Bytes) : Option Bytes := do
  let locator := textEncode (signer.signer.getD (.ofString ""))
  let leading := textEncode (.ofString s!"crossmint:solana:{locator.length}:")
  let input := newUint8Array (leading.length + locator.length + 1 + messageBytes.length)
  let input ← setBytes input leading 0
  let input ← setBytes input locator leading.length
  let input ← setBytes input [0x3a] (leading.length + locator.length)
  setBytes input messageBytes (leading.length + locator.length + 1)

/-- The four writes fill the array from left to right. -/
theorem namespacedKeyInput_eq {signer : CrossmintSigner} {messageBytes locator leading : Bytes}
    (encoded : textEncode (signer.signer.getD (.ofString "")) = locator)
    (led : textEncode (.ofString s!"crossmint:solana:{locator.length}:") = leading) :
    signer.namespacedKeyInput messageBytes =
      some (leading ++ locator ++ [0x3a] ++ messageBytes) := by
  have total : leading.length + locator.length + 1 + messageBytes.length =
      leading.length + (locator.length + (1 + messageBytes.length)) := by omega
  have first : setBytes
      (newUint8Array (leading.length + (locator.length + (1 + messageBytes.length)))) leading 0 =
      some (leading ++ newUint8Array (locator.length + (1 + messageBytes.length))) :=
    setBytes_newUint8Array [] leading _
  have second : setBytes (leading ++ newUint8Array (locator.length + (1 + messageBytes.length)))
      locator leading.length =
      some (leading ++ locator ++ newUint8Array (1 + messageBytes.length)) :=
    setBytes_newUint8Array leading locator _
  have third : setBytes (leading ++ locator ++ newUint8Array (1 + messageBytes.length)) [0x3a]
      (leading.length + locator.length) =
      some (leading ++ locator ++ [0x3a] ++ newUint8Array (messageBytes.length + 0)) := by
    rw [← List.length_append]
    exact setBytes_newUint8Array (leading ++ locator) [0x3a] _
  have fourth : setBytes (leading ++ locator ++ [0x3a] ++ newUint8Array (messageBytes.length + 0))
      messageBytes (leading.length + locator.length + 1) =
      some (leading ++ locator ++ [0x3a] ++ messageBytes ++ newUint8Array 0) := by
    have offset : leading.length + locator.length + 1 =
        (leading ++ locator ++ [0x3a]).length := by
      simp only [List.length_append, List.length_cons, List.length_nil]
    rw [offset]
    exact setBytes_newUint8Array (leading ++ locator ++ [0x3a]) messageBytes 0
  simp only [namespacedKeyInput, encoded, led, total, first, second, third, fourth,
    Option.bind_eq_bind, Option.bind_some]
  simp [newUint8Array]

/-! ## Driving a transaction -/

variable [Packages]

abbrev DriveProg := Prog (FollowUp JsString) CrossmintTransactionResponse Unit DriveError

/-- The pending approval entry that belongs to this signer's locator. -/
def findPendingApprovalForSigner (signer : CrossmintSigner)
    (response : CrossmintTransactionResponse) : Option PendingApproval :=
  (response.approvals.bind (·.pending)).bind fun pending =>
    pending.find? fun entry => entry.signer.bind (·.locator) == signer.signer

/-- The response to extract the signature from, if the status is terminal. -/
def resolveTerminalStatus (response : CrossmintTransactionResponse) (approvalSubmitted : Bool) :
    Except DriveError (Option CrossmintTransactionResponse) :=
  if response.status = .ofString "success" then
    .ok (some response)
  else if response.status = .ofString "failed" then
    .error .transactionFailed
  else if response.status = .ofString "awaiting-approval" then
    -- A submitted approval may be registered asynchronously.
    if approvalSubmitted then .ok none else .error .awaitingApproval
  else
    .ok none

def getTransaction (transactionId : JsString) : DriveProg CrossmintTransactionResponse :=
  ask (.get transactionId)

/-- An absent and an empty message are the same to `!message`. -/
def submitApproval (signerSeed : Bytes) (signerLocator : JsString)
    (response : CrossmintTransactionResponse) (pending : PendingApproval) :
    DriveProg CrossmintTransactionResponse :=
  if truthy pending.message then do
    let messageBytes ← ofExcept (okOr (pending.message.bind Packages.base58Encode) .invalidBase58)
    let signatureB58 := Packages.base58Decode (Packages.cryptoSign signerSeed messageBytes)
    ask (.approve response.id signerLocator messageBytes signatureB58)
  else
    fail .noPendingMessage

/-- The approval the loop submits next: the entry of this signer, while a
transaction awaits approval and none was submitted. -/
def approvalDue (signer : CrossmintSigner) (response : CrossmintTransactionResponse)
    (approvalSubmitted : Bool) : Option (Bytes × JsString × PendingApproval) :=
  match signer.signerSeed, signer.signer, signer.findPendingApprovalForSigner response with
  | some signerSeed, some locator, some pending =>
    if response.status = .ofString "awaiting-approval" ∧ truthy signer.signer ∧
        approvalSubmitted = false then
      some (signerSeed, locator, pending)
    else
      none
  | _, _, _ => none

/-- The loop with its remaining attempts. -/
def driveLoop (signer : CrossmintSigner) :
    ℕ → Bool → CrossmintTransactionResponse → DriveProg CrossmintTransactionResponse
  | 0, approvalSubmitted, response => do
    match ← ofExcept (resolveTerminalStatus response approvalSubmitted) with
    | some terminal => pure terminal
    | none => fail (.timedOut signer.maxPollAttempts)
  | attempts + 1, approvalSubmitted, response =>
    match signer.approvalDue response approvalSubmitted with
    | some (signerSeed, locator, pending) => do
      let response ← submitApproval signerSeed locator response pending
      signer.driveLoop attempts true response
    | none => do
      match ← ofExcept (resolveTerminalStatus response approvalSubmitted) with
      | some terminal => pure terminal
      | none => do
        let response ← getTransaction response.id
        signer.driveLoop attempts approvalSubmitted response

def driveTransactionToSignature (signer : CrossmintSigner)
    (created : CrossmintTransactionResponse) : DriveProg CrossmintTransactionResponse :=
  signer.driveLoop signer.maxPollAttempts false created

/-! ## The machine of the loop -/

/-- The approval of a pending entry. -/
def approval (signerSeed : Bytes) (signerLocator : JsString)
    (response : CrossmintTransactionResponse) (pending : PendingApproval) :
    Except DriveError (FollowUp JsString) := do
  require (truthy pending.message) .noPendingMessage
  let messageBytes ← okOr (pending.message.bind Packages.base58Encode) .invalidBase58
  pure (.approve response.id signerLocator messageBytes
    (Packages.base58Decode (Packages.cryptoSign signerSeed messageBytes)))

/-- `driveTransactionToSignature` without its loop. -/
def machine (signer : CrossmintSigner) :
    Machine JsString CrossmintTransactionResponse
      (Except DriveError CrossmintTransactionResponse) where
  move approvalSubmitted response :=
    match signer.approvalDue response approvalSubmitted with
    | some (signerSeed, locator, pending) =>
      match approval signerSeed locator response pending with
      | .ok followUp => .follow followUp
      | .error e => .stop (.error e)
    | none =>
      match resolveTerminalStatus response approvalSubmitted with
      | .ok (some terminal) => .stop (.ok terminal)
      | .ok none => .follow (.get response.id)
      | .error e => .stop (.error e)
  last approvalSubmitted response :=
    match resolveTerminalStatus response approvalSubmitted with
    | .ok (some terminal) => .ok terminal
    | .ok none => .error (.timedOut signer.maxPollAttempts)
    | .error e => .error e

section

variable {signer : CrossmintSigner} {response : CrossmintTransactionResponse}
variable {approvalSubmitted : Bool}

omit [Packages] in
theorem approvalDue_eq_none
    (settled : response.status ≠ .ofString "awaiting-approval" ∨ approvalSubmitted = true) :
    signer.approvalDue response approvalSubmitted = none := by
  have guard : ¬ (response.status = .ofString "awaiting-approval" ∧ truthy signer.signer ∧
      approvalSubmitted = false) := by
    rcases settled with other | submitted
    · exact fun all => other all.1
    · exact fun all => by simp [submitted] at all
  unfold approvalDue
  split
  · exact if_neg guard
  · rfl

/-- Unless an approval is due, the move is up to the status. -/
theorem move_of_settled
    (settled : response.status ≠ .ofString "awaiting-approval" ∨ approvalSubmitted = true) :
    signer.machine.move approvalSubmitted response =
      match resolveTerminalStatus response approvalSubmitted with
      | .ok (some terminal) => .stop (.ok terminal)
      | .ok none => .follow (.get response.id)
      | .error e => .stop (.error e) := by
  simp only [machine, approvalDue_eq_none settled]

/-- An approval that is not ours to give. -/
theorem move_of_not_due (awaiting : response.status = .ofString "awaiting-approval")
    (notDue : signer.approvalDue response false = none) :
    signer.machine.move false response = .stop (.error .awaitingApproval) := by
  have success : JsString.ofString "awaiting-approval" ≠ .ofString "success" := by decide
  have failed : JsString.ofString "awaiting-approval" ≠ .ofString "failed" := by decide
  simp [machine, notDue, resolveTerminalStatus, awaiting, success, failed]

/-- The approval of our own entry. -/
theorem move_of_due {signerSeed : Bytes} {locator : JsString} {pending : PendingApproval}
    (due : signer.approvalDue response approvalSubmitted = some (signerSeed, locator, pending)) :
    signer.machine.move approvalSubmitted response =
      match approval signerSeed locator response pending with
      | .ok followUp => .follow followUp
      | .error e => .stop (.error e) := by
  simp only [machine, due]

end

theorem submitApproval_eq {signerSeed : Bytes} {signerLocator : JsString}
    {response : CrossmintTransactionResponse} {pending : PendingApproval} :
    submitApproval signerSeed signerLocator response pending =
      match approval signerSeed signerLocator response pending with
      | .ok followUp => ask followUp
      | .error e => fail e := by
  unfold submitApproval approval
  by_cases present : truthy pending.message = true
  · rw [if_pos present, require, if_pos present]
    cases pending.message.bind Packages.base58Encode with
    | none => rfl
    | some messageBytes => rfl
  · rw [if_neg present, require, if_neg present]
    rfl

theorem isApproval_of_approval {signerSeed : Bytes} {signerLocator : JsString}
    {response : CrossmintTransactionResponse} {pending : PendingApproval}
    {followUp : FollowUp JsString}
    (owed : approval signerSeed signerLocator response pending = .ok followUp) :
    followUp.isApproval = true := by
  obtain ⟨-, -, owed⟩ := bind_eq_ok.mp owed
  obtain ⟨messageBytes, -, owed⟩ := bind_eq_ok.mp owed
  cases owed
  rfl

theorem driveLoop_eq {signer : CrossmintSigner} {attempts : ℕ} {approvalSubmitted : Bool}
    {response : CrossmintTransactionResponse} :
    signer.driveLoop attempts approvalSubmitted response =
      signer.machine.drive ask attempts approvalSubmitted response := by
  induction attempts generalizing approvalSubmitted response with
  | zero =>
    unfold driveLoop Machine.drive
    simp only [machine]
    rcases resolveTerminalStatus response approvalSubmitted with e | (_ | terminal) <;> rfl
  | succ attempts ih =>
    unfold driveLoop Machine.drive
    simp only [machine]
    cases signer.approvalDue response approvalSubmitted with
    | some due =>
      rcases due with ⟨signerSeed, locator, pending⟩
      simp only [submitApproval_eq]
      cases owed : approval signerSeed locator response pending with
      | error e => rfl
      | ok followUp =>
        have approves := isApproval_of_approval owed
        simp only [ih, approves, Bool.or_true]
        rfl
    | none =>
      rcases resolveTerminalStatus response approvalSubmitted with e | (_ | terminal)
      · rfl
      · simp only [ofExcept_ok_bind, ih, FollowUp.isApproval, Bool.or_false]
        rfl
      · rfl

/-- The loop of the source drives the machine. -/
theorem driveTransactionToSignature_eq {signer : CrossmintSigner}
    {created : CrossmintTransactionResponse} :
    signer.driveTransactionToSignature created =
      signer.machine.drive ask signer.maxPollAttempts false created :=
  driveLoop_eq

end CrossmintSigner

end Keychain.TypeScript
