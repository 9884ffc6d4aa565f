import Keychain.Rust.Crossmint.Driver
import Keychain.TypeScript.Crossmint

/-!
The Crossmint drivers of the Rust and the TypeScript port side by side, on the same
typed responses.

They move alike on every response but one: where this signer's own approval is
asked for, the TypeScript driver takes an empty locator for no locator and an empty
message for no message, and the Rust driver does not. `drivers_agree_iff` says that
they agree on a run exactly when it does not come to that.
-/

namespace Keychain.Crossmint

open Rust (Crates)
open Rust.Crossmint (TransactionResponse DriverError)
open TypeScript (JsString Packages)

/-! ## The same values in both languages -/

def typeScriptEntry (entry : Rust.Crossmint.PendingApproval) : TypeScript.PendingApproval where
  message := entry.message.map .ofString
  signer := entry.signer.map fun signer => ⟨signer.locator.map .ofString⟩

def typeScriptResponse (response : TransactionResponse) :
    TypeScript.CrossmintTransactionResponse where
  id := .ofString response.id
  status := .ofString response.status
  approvals := response.approvals.map fun approvals =>
    ⟨some (approvals.pending.map typeScriptEntry)⟩

/-- Two signers of one configuration. -/
structure SameConfiguration (rust : Rust.Crossmint.CrossmintSigner)
    (typeScript : TypeScript.CrossmintSigner) : Prop where
  maxPollAttempts : typeScript.maxPollAttempts = rust.maxPollAttempts
  signer : typeScript.signer = rust.signer.map .ofString
  signerSeed : typeScript.signerSeed = rust.signingKey

/-- Both languages are linked against base58, where the empty text is the empty
string of bytes, and against deterministic Ed25519. -/
structure SameCodecs [Crates] [Packages] : Prop where
  base58Encode : ∀ text, Packages.base58Encode (.ofString text) = (Crates.bs58Decode text).toOption
  base58Decode : ∀ bytes, Packages.base58Decode bytes = .ofString (Crates.bs58Encode bytes)
  sign : ∀ seed message,
    Packages.cryptoSign seed message = (Crates.ed25519Sign seed message).bytes
  empty : Crates.bs58Decode "" = .ok []

def rustEnding : Except DriverError TransactionResponse → Ending
  | .ok _ => .success
  | .error e => e.ending

def typeScriptEnding :
    Except TypeScript.DriveError TypeScript.CrossmintTransactionResponse → Ending
  | .ok _ => .success
  | .error e => e.ending

/-! ## Where the drivers read a response differently -/

/-- Own approvals of this response are neither under an empty locator nor over an
empty message. -/
def ReadAlike (signer : Rust.Crossmint.CrossmintSigner) (response : TransactionResponse) : Prop :=
  ∀ signingKey signerLocator entry, signer.signingKey = some signingKey →
    signer.signer = some signerLocator →
    Rust.Crossmint.CrossmintSigner.ownEntry signerLocator response = some entry →
    signerLocator ≠ "" ∧ entry.message ≠ some ""

/-- The response whose approval is decided: the first one that awaits approval,
unless the drive ends before it. -/
def approvalPoint (answers : ℕ → TransactionResponse) :
    ℕ → TransactionResponse → ℕ → Option TransactionResponse
  | 0, _, _ => none
  | attempts + 1, response, n =>
    if response.status = "success" ∨ response.status = "failed" then
      none
    else if response.status = "awaiting-approval" then
      some response
    else
      approvalPoint answers attempts (answers n) (n + 1)

section

variable {rust : Rust.Crossmint.CrossmintSigner} {typeScript : TypeScript.CrossmintSigner}
variable {response : TransactionResponse} {approved : Bool}

theorem status_eq_iff {status : String} :
    (typeScriptResponse response).status = .ofString status ↔ response.status = status :=
  JsString.ofString_injective.eq_iff

theorem truthy_ofString {text : String} :
    TypeScript.truthy (some (.ofString text)) = true ↔ text ≠ "" := by
  have empty : (JsString.ofString text).codeUnits = [] ↔ text = "" := by
    refine ⟨fun none => ?_, fun same => ?_⟩
    · have same : JsString.ofString text = JsString.ofString "" := by
        cases units : JsString.ofString text with
        | mk codeUnits =>
          rw [units] at none
          rw [show codeUnits = [] from none]
          rfl
      exact JsString.ofString_injective same
    · rw [same]
      rfl
  simp [TypeScript.truthy, empty]

/-- An entry is an own entry in both languages or in neither. -/
theorem own_iff {entry : Rust.Crossmint.PendingApproval} {signerLocator : String} :
    (typeScriptEntry entry).signer.bind (·.locator) = some (.ofString signerLocator) ↔
      entry.signer.bind Rust.Crossmint.ApprovalSigner.locator = some signerLocator := by
  cases named : entry.signer with
  | none => simp [typeScriptEntry, named]
  | some signer =>
    cases located : signer.locator with
    | none => simp [typeScriptEntry, named, located]
    | some locator =>
      simp [typeScriptEntry, named, located, JsString.ofString_injective.eq_iff]

/-- The own entry is found by the same test. -/
theorem findPendingApprovalForSigner_eq {signerLocator : String}
    (located : typeScript.signer = some (.ofString signerLocator)) :
    typeScript.findPendingApprovalForSigner (typeScriptResponse response) =
      (Rust.Crossmint.CrossmintSigner.ownEntry signerLocator response).map typeScriptEntry := by
  unfold TypeScript.CrossmintSigner.findPendingApprovalForSigner
    Rust.Crossmint.CrossmintSigner.ownEntry
  rw [located]
  cases approvals : response.approvals with
  | none => simp [typeScriptResponse, approvals]
  | some approvals' =>
    have test : (fun entry => (typeScriptEntry entry).signer.bind (·.locator) ==
          some (JsString.ofString signerLocator)) =
        fun entry => entry.signer.bind Rust.Crossmint.ApprovalSigner.locator ==
          some signerLocator := by
      funext entry
      rw [Bool.eq_iff_iff, beq_iff_eq, beq_iff_eq, own_iff]
    simp only [typeScriptResponse, approvals, Option.map_some, Option.bind_some, List.find?_map]
    rw [← test]
    rfl

/-- Unless the attempts are used up on an approval of our own, both verdicts are in
the status alone. -/
theorem last_alike [Crates] [Packages] :
    typeScriptEnding (typeScript.machine.last approved (typeScriptResponse response)) =
      rustEnding (rust.machine.last approved response) := by
  simp only [TypeScript.CrossmintSigner.machine, Rust.Crossmint.CrossmintSigner.machine,
    TypeScript.CrossmintSigner.resolveTerminalStatus, status_eq_iff]
  by_cases success : response.status = "success"
  · simp [success, typeScriptEnding, rustEnding]
  by_cases failed : response.status = "failed"
  · simp [failed, typeScriptEnding, rustEnding, DriverError.ending,
      TypeScript.DriveError.transactionFailed]
  by_cases awaiting : response.status = "awaiting-approval"
  · cases approved with
    | false =>
      simp [awaiting, typeScriptEnding, rustEnding, DriverError.ending,
        TypeScript.DriveError.awaitingApproval]
    | true =>
      simp [awaiting, typeScriptEnding, rustEnding, DriverError.ending,
        TypeScript.DriveError.timedOut]
  · simp [success, failed, awaiting, typeScriptEnding, rustEnding, DriverError.ending,
      TypeScript.DriveError.timedOut]

/-- Both machines do the same about the response. -/
def MovesAlike [Crates] [Packages] (rust : Rust.Crossmint.CrossmintSigner)
    (typeScript : TypeScript.CrossmintSigner) (approved : Bool) (response : TransactionResponse) :
    Prop :=
  (typeScript.machine.move approved (typeScriptResponse response)).map (fun s => s)
      typeScriptEnding =
    (rust.machine.move approved response).map .ofString rustEnding

theorem movesAlike_of_settled [Crates] [Packages]
    (settled : response.status ≠ "awaiting-approval" ∨ approved = true) :
    MovesAlike rust typeScript approved response := by
  have settled' : (typeScriptResponse response).status ≠ .ofString "awaiting-approval" ∨
      approved = true := settled.imp_left (mt status_eq_iff.mp)
  unfold MovesAlike
  rw [TypeScript.CrossmintSigner.move_of_settled settled']
  simp only [TypeScript.CrossmintSigner.resolveTerminalStatus, status_eq_iff]
  by_cases success : response.status = "success"
  · rw [Rust.Crossmint.CrossmintSigner.move_of_success success, if_pos success]
    rfl
  by_cases failed : response.status = "failed"
  · rw [Rust.Crossmint.CrossmintSigner.move_of_failed failed, if_neg success, if_pos failed]
    rfl
  have other : ¬ (response.status = "awaiting-approval" ∧ approved = false) := by
    rcases settled with other | submitted
    · exact fun both => other both.1
    · simp [submitted]
  rw [Rust.Crossmint.CrossmintSigner.move_of_other success failed other, if_neg success,
    if_neg failed]
  by_cases awaiting : response.status = "awaiting-approval"
  · have submitted : approved = true := by simpa [awaiting] using other
    rw [if_pos awaiting, if_pos submitted]
    rfl
  · rw [if_neg awaiting]
    rfl

/-- A response that does not ask this signer for an approval. -/
def NotOurs (signer : Rust.Crossmint.CrossmintSigner) (response : TransactionResponse) : Prop :=
  ∀ signingKey signerLocator, signer.signingKey = some signingKey →
    signer.signer = some signerLocator →
    Rust.Crossmint.CrossmintSigner.ownEntry signerLocator response = none

theorem movesAlike_of_notOurs [Crates] [Packages] (same : SameConfiguration rust typeScript)
    (awaiting : response.status = "awaiting-approval") (notOurs : NotOurs rust response) :
    MovesAlike rust typeScript false response := by
  have refused : rust.approval response = .error .awaitingApproval := by
    unfold Rust.Crossmint.CrossmintSigner.approval
    split
    · rename_i signingKey signerLocator key locator
      rw [notOurs signingKey signerLocator key locator]
      rfl
    · rfl
  have notDue : typeScript.approvalDue (typeScriptResponse response) false = none := by
    unfold TypeScript.CrossmintSigner.approvalDue
    split
    · rename_i signerSeed locator pending seeded located found
      rw [same.signer, Option.map_eq_some_iff] at located
      rcases located with ⟨signerLocator, signer, rfl⟩
      have absent := notOurs signerSeed signerLocator (same.signerSeed ▸ seeded) signer
      rw [findPendingApprovalForSigner_eq (by rw [same.signer, signer]; rfl), absent] at found
      cases found
    · rfl
  unfold MovesAlike
  rw [Rust.Crossmint.CrossmintSigner.move_of_awaiting awaiting, refused,
    TypeScript.CrossmintSigner.move_of_not_due (status_eq_iff.mpr awaiting) notDue]
  rfl

/-- The move on an entry of our own, by the bytes its message decodes to. -/
def approvalMove [Crates] (response : TransactionResponse) (signerLocator : String)
    (signingKey : Bytes) : Option Bytes → Move JsString Ending
  | some messageBytes => .follow (.approve (.ofString response.id) (.ofString signerLocator)
      messageBytes
      (.ofString (Crates.bs58Encode (Crates.ed25519Sign signingKey messageBytes).bytes)))
  | none => .stop .unreadableMessage

section

variable [Crates] {signingKey : Bytes} {signerLocator : String}
variable {entry : Rust.Crossmint.PendingApproval}

theorem rust_move_of_entry (awaiting : response.status = "awaiting-approval")
    (key : rust.signingKey = some signingKey) (locator : rust.signer = some signerLocator)
    (own : Rust.Crossmint.CrossmintSigner.ownEntry signerLocator response = some entry) :
    (rust.machine.move false response).map JsString.ofString rustEnding =
      approvalMove response signerLocator signingKey
        (entry.message.bind fun message => (Crates.bs58Decode message).toOption) := by
  rw [Rust.Crossmint.CrossmintSigner.move_of_awaiting awaiting,
    Rust.Crossmint.CrossmintSigner.approval_of_entry key locator own]
  cases entry.message with
  | none => rfl
  | some message =>
    simp only [Rust.Crossmint.CrossmintSigner.approve, Option.bind_some]
    cases Crates.bs58Decode message with
    | error e => rfl
    | ok messageBytes => rfl

/-- An empty locator is no locator, and an empty message no message. -/
theorem typeScript_move_of_entry [Packages] (same : SameConfiguration rust typeScript)
    (codecs : SameCodecs) (awaiting : response.status = "awaiting-approval")
    (key : rust.signingKey = some signingKey) (locator : rust.signer = some signerLocator)
    (own : Rust.Crossmint.CrossmintSigner.ownEntry signerLocator response = some entry) :
    (typeScript.machine.move false (typeScriptResponse response)).map (fun s => s)
        typeScriptEnding =
      if signerLocator = "" then
        .stop .awaitingApproval
      else
        approvalMove response signerLocator signingKey
          ((entry.message.filter (· ≠ "")).bind fun message =>
            (Crates.bs58Decode message).toOption) := by
  have seeded : typeScript.signerSeed = some signingKey := same.signerSeed.trans key
  have located : typeScript.signer = some (.ofString signerLocator) := by
    rw [same.signer, locator]
    rfl
  have found : typeScript.findPendingApprovalForSigner (typeScriptResponse response) =
      some (typeScriptEntry entry) := by
    rw [findPendingApprovalForSigner_eq located, own]
    rfl
  have awaiting' := status_eq_iff.mpr awaiting
  have due : typeScript.approvalDue (typeScriptResponse response) false =
      if signerLocator = "" then none
      else some (signingKey, .ofString signerLocator, typeScriptEntry entry) := by
    simp only [TypeScript.CrossmintSigner.approvalDue, seeded, located, found, truthy_ofString,
      awaiting', true_and, and_true, ne_eq, ite_not]
  by_cases blank : signerLocator = ""
  · rw [if_pos blank] at due ⊢
    rw [TypeScript.CrossmintSigner.move_of_not_due awaiting' due]
    rfl
  rw [if_neg blank] at due ⊢
  rw [TypeScript.CrossmintSigner.move_of_due due]
  cases text : entry.message with
  | none =>
    have unread : (typeScriptEntry entry).message = none := by rw [typeScriptEntry, text]; rfl
    rw [TypeScript.CrossmintSigner.approval, unread]
    rfl
  | some message =>
    have read : (typeScriptEntry entry).message = some (.ofString message) := by
      rw [typeScriptEntry, text]
      rfl
    rw [TypeScript.CrossmintSigner.approval, read]
    by_cases empty : message = ""
    · rw [require, if_neg (by simp [truthy_ofString, empty]), empty]
      rfl
    · rw [require, if_pos (truthy_ofString.mpr empty), Option.bind_some, codecs.base58Encode,
        Option.filter_some, if_pos (by simp [empty]), Option.bind_some]
      simp only [codecs.sign, codecs.base58Decode]
      cases Crates.bs58Decode message with
      | error e => rfl
      | ok messageBytes => rfl

/-- On an entry of our own the drivers move alike exactly when neither its locator
nor its message is empty. -/
theorem movesAlike_of_entry [Packages] (same : SameConfiguration rust typeScript)
    (codecs : SameCodecs) (awaiting : response.status = "awaiting-approval")
    (key : rust.signingKey = some signingKey) (locator : rust.signer = some signerLocator)
    (own : Rust.Crossmint.CrossmintSigner.ownEntry signerLocator response = some entry) :
    MovesAlike rust typeScript false response ↔
      signerLocator ≠ "" ∧ entry.message ≠ some "" := by
  unfold MovesAlike
  rw [rust_move_of_entry awaiting key locator own,
    typeScript_move_of_entry same codecs awaiting key locator own]
  by_cases blank : signerLocator = ""
  · rw [if_pos blank]
    refine iff_of_false ?_ fun both => both.1 blank
    cases entry.message.bind fun message => (Crates.bs58Decode message).toOption with
    | none => simp [approvalMove]
    | some messageBytes => simp [approvalMove]
  rw [if_neg blank]
  by_cases empty : entry.message = some ""
  · refine iff_of_false ?_ fun both => both.2 empty
    have dropped : (some "").filter (· ≠ "") = none := rfl
    rw [empty, dropped, Option.bind_none, Option.bind_some, codecs.empty]
    intro alike
    cases alike
  · refine iff_of_true ?_ ⟨blank, empty⟩
    have kept : entry.message.filter (· ≠ "") = entry.message := by
      cases text : entry.message with
      | none => rfl
      | some message =>
        have present : message ≠ "" := fun same => empty (by rw [text, same])
        simp [present]
    rw [kept]

end

theorem movesAlike_iff [Crates] [Packages] (same : SameConfiguration rust typeScript)
    (codecs : SameCodecs) (awaiting : response.status = "awaiting-approval") :
    MovesAlike rust typeScript false response ↔ ReadAlike rust response := by
  by_cases notOurs : NotOurs rust response
  · refine iff_of_true (movesAlike_of_notOurs same awaiting notOurs) ?_
    intro signingKey signerLocator entry key locator own
    rw [notOurs signingKey signerLocator key locator] at own
    cases own
  · simp only [NotOurs, not_forall] at notOurs
    rcases notOurs with ⟨signingKey, signerLocator, key, locator, found⟩
    rcases Option.ne_none_iff_exists'.mp found with ⟨entry, own⟩
    rw [movesAlike_of_entry same codecs awaiting key locator own]
    refine ⟨fun alike signingKey' signerLocator' entry' key' locator' own' => ?_,
      fun alike => alike signingKey signerLocator entry key locator own⟩
    rw [locator] at locator'
    cases locator'
    rw [own] at own'
    cases own'
    exact alike

/-! ## Whole runs -/

section

variable [Crates] [Packages] {responses : ℕ → TransactionResponse}

/-- The drivers coincide from this response on. -/
abbrev DriveAlike (rust : Rust.Crossmint.CrossmintSigner)
    (typeScript : TypeScript.CrossmintSigner) (responses : ℕ → TransactionResponse) :
    ℕ → Bool → TransactionResponse → ℕ → Prop :=
  Machine.Coincides rust.machine typeScript.machine .ofString typeScriptResponse rustEnding
    typeScriptEnding responses

/-- Once the approval is submitted nothing is read differently any more. -/
theorem driveAlike_approved {attempts n : ℕ} :
    DriveAlike rust typeScript responses attempts true response n := by
  induction attempts generalizing response n with
  | zero => exact last_alike
  | succ attempts ih =>
    refine ⟨movesAlike_of_settled (.inr rfl), fun followUp _ => ?_⟩
    exact ih

omit [Packages] in
theorem isApproval_of_move {followUp : FollowUp String}
    (awaiting : response.status = "awaiting-approval")
    (follows : rust.machine.move false response = .follow followUp) :
    followUp.isApproval = true := by
  rw [Rust.Crossmint.CrossmintSigner.move_of_awaiting awaiting] at follows
  cases owed : rust.approval response with
  | error e =>
    rw [owed] at follows
    cases follows
  | ok followUp' =>
    rw [owed] at follows
    cases follows
    exact Rust.Crossmint.CrossmintSigner.isApproval_of_approval owed

theorem driveAlike_iff (same : SameConfiguration rust typeScript) (codecs : SameCodecs)
    {attempts n : ℕ} :
    DriveAlike rust typeScript responses attempts false response n ↔
      ∀ awaited, approvalPoint responses attempts response n = some awaited →
        ReadAlike rust awaited := by
  induction attempts generalizing response n with
  | zero => exact iff_of_true last_alike (by simp [approvalPoint])
  | succ attempts ih =>
    by_cases awaiting : response.status = "awaiting-approval"
    · have point : approvalPoint responses (attempts + 1) response n = some response := by
        simp [approvalPoint, awaiting]
      simp only [point, Option.some.injEq, forall_eq']
      rw [← movesAlike_iff same codecs awaiting]
      refine ⟨fun alike => alike.1, fun alike => ⟨alike, fun followUp follows => ?_⟩⟩
      rw [isApproval_of_move awaiting follows, Bool.or_true]
      exact driveAlike_approved
    have alike : MovesAlike rust typeScript false response :=
      movesAlike_of_settled (.inl awaiting)
    by_cases terminal : response.status = "success" ∨ response.status = "failed"
    · refine iff_of_true ⟨alike, fun followUp follows => ?_⟩ (by simp [approvalPoint, terminal])
      rcases terminal with success | failed
      · rw [Rust.Crossmint.CrossmintSigner.move_of_success success] at follows
        cases follows
      · rw [Rust.Crossmint.CrossmintSigner.move_of_failed failed] at follows
        cases follows
    · have point : approvalPoint responses (attempts + 1) response n =
          approvalPoint responses attempts (responses n) (n + 1) := by
        simp [approvalPoint, awaiting, terminal]
      have move : rust.machine.move false response = .follow (.get response.id) :=
        Rust.Crossmint.CrossmintSigner.move_of_other (fun success => terminal (.inl success))
          (fun failed => terminal (.inr failed)) fun both => awaiting both.1
      rw [point, ← ih]
      refine ⟨fun both => both.2 _ move, fun rest => ⟨alike, fun followUp follows => ?_⟩⟩
      rw [move] at follows
      cases follows
      exact rest

/-- Both drivers send the same follow-ups and end in the same class. -/
def DriversAgree (rust : Rust.Crossmint.CrossmintSigner) (typeScript : TypeScript.CrossmintSigner)
    (created : TransactionResponse) (responses : ℕ → TransactionResponse) : Prop :=
  let rustRun := rust.pollTyped responses created
  let typeScriptRun := (typeScript.driveTransactionToSignature (typeScriptResponse created)).run
    (typeScriptResponse ∘ responses) (World.start ())
  typeScriptRun.2.log.map Prod.fst = (rustRun.2.log.map Prod.fst).map (FollowUp.map .ofString) ∧
    typeScriptEnding typeScriptRun.1 = rustEnding rustRun.1

theorem driversAgree_iff_readAlike (same : SameConfiguration rust typeScript) (codecs : SameCodecs)
    {created : TransactionResponse} :
    DriversAgree rust typeScript created responses ↔
      ∀ awaited, approvalPoint responses rust.maxPollAttempts created 0 = some awaited →
        ReadAlike rust awaited := by
  have rustCourse := rust.machine.drive_ask responses rust.maxPollAttempts false created
    (World.start ())
  have typeScriptCourse := typeScript.machine.drive_ask (typeScriptResponse ∘ responses)
    rust.maxPollAttempts false (typeScriptResponse created) (World.start ())
  rw [← driveAlike_iff same codecs, DriveAlike, ← Machine.course_agrees_iff]
  unfold DriversAgree Machine.Agrees
  rw [TypeScript.CrossmintSigner.driveTransactionToSignature_eq, same.maxPollAttempts]
  simp only [Rust.Crossmint.CrossmintSigner.pollTyped, rustCourse.1, rustCourse.2,
    typeScriptCourse.1, typeScriptCourse.2, World.start_log, World.start_asked, List.map_nil,
    List.nil_append]

/-- The loop of `poll_transaction` is the Rust machine, and on typed responses the
drivers agree exactly when the response whose approval is decided, if any, asks this
signer neither under an empty locator nor over an empty message. -/
theorem drivers_agree_iff (same : SameConfiguration rust typeScript) (codecs : SameCodecs)
    (created : TransactionResponse) (responses : ℕ → TransactionResponse) :
    (∀ response, (rust.pollTransaction response :
        HttpProg Rust.PendingTransactionId Rust.SignerError TransactionResponse) =
      rust.raising.drive rust.sendFollowUp rust.maxPollAttempts false response) ∧
    (DriversAgree rust typeScript created responses ↔
      ∀ awaited, approvalPoint responses rust.maxPollAttempts created 0 = some awaited →
        ReadAlike rust awaited) :=
  ⟨fun _ => Rust.Crossmint.CrossmintSigner.pollTransaction_eq,
    driversAgree_iff_readAlike same codecs⟩

end

end

/-! ## A signer that is asked for its approval -/

/-- A seed whose signatures over the empty message and over `[0x61]` are known. -/
def approverSeed : Bytes :=
  [157, 97, 177, 157, 239, 253, 90, 96, 186, 132, 74, 244, 146, 236, 44, 196, 68, 73, 197, 105,
    123, 50, 105, 25, 112, 59, 172, 3, 28, 174, 127, 96]

def approverSign (seed message : Bytes) : Signature :=
  if seed = approverSeed ∧ message = [] then
    ⟨[229, 86, 67, 0, 195, 96, 172, 114, 144, 134, 226, 204, 128, 110, 130, 138, 132, 135, 127,
      30, 184, 229, 217, 116, 216, 115, 224, 101, 34, 73, 1, 85, 95, 184, 130, 21, 144, 163, 59,
      172, 198, 30, 57, 112, 28, 249, 180, 107, 210, 91, 245, 240, 89, 91, 190, 36, 101, 81, 65,
      67, 142, 122, 16, 11], rfl⟩
  else if seed = approverSeed ∧ message = [0x61] then
    ⟨[220, 217, 67, 226, 54, 71, 65, 26, 227, 207, 189, 193, 13, 16, 72, 11, 39, 55, 79, 164, 196,
      131, 134, 56, 143, 3, 52, 254, 110, 114, 57, 39, 25, 169, 7, 233, 61, 64, 255, 158, 15, 226,
      132, 143, 157, 96, 35, 214, 96, 203, 147, 201, 246, 107, 222, 13, 149, 175, 96, 10, 157, 158,
      243, 15], rfl⟩
  else
    Signature.default

section

local instance approverCrates : Crates :=
  { Crates.linked emptyDigest (fun _ => .error "expected value") (fun _ => "null") with
    ed25519Sign := approverSign }

local instance approverPackages : Packages where
  base58Encode text := (Rust.base58Decode text.toWellFormed).toOption
  base58Decode bytes := .ofString (base58Encode bytes)
  cryptoSign seed message := (approverSign seed message).bytes

theorem approver_sameCodecs : SameCodecs where
  base58Encode text := by
    change (Rust.base58Decode (JsString.ofString text).toWellFormed).toOption = _
    rw [JsString.toWellFormed_ofString]
    rfl
  base58Decode _ := rfl
  sign _ _ := rfl
  empty := by decide

def approver : Rust.Crossmint.CrossmintSigner where
  apiKey := "sk_staging_1"
  walletLocator := "wallet"
  signer := some "server:FVen3X669xLzsi6N2V91DoiyzHzg1uAgqiT8jZ9nS96Z"
  apiBaseUrl := "https://staging.crossmint.com/api"
  publicKey := some emptyPayer
  maxPollAttempts := defaultMaxPollAttempts
  signingKey := some approverSeed
  pendingTransactionId := false
  maxPollAttempts_pos := defaultMaxPollAttempts_pos

def typeScriptApprover : TypeScript.CrossmintSigner where
  apiKey := .ofString "sk_staging_1"
  walletLocator := .ofString "wallet"
  apiBaseUrl := .ofString "https://staging.crossmint.com/api"
  maxPollAttempts := defaultMaxPollAttempts
  signer := some (.ofString "server:FVen3X669xLzsi6N2V91DoiyzHzg1uAgqiT8jZ9nS96Z")
  signerSeed := some approverSeed
  maxPollAttempts_pos := defaultMaxPollAttempts_pos

theorem approver_same : SameConfiguration approver typeScriptApprover := ⟨rfl, rfl, rfl⟩

/-- A created transaction that waits for the approver to sign this message. -/
def awaitingApprover (message : String) : TransactionResponse where
  id := "tx-1"
  status := "awaiting-approval"
  onChain := none
  approvals := some ⟨[⟨some message,
    some ⟨some "server:FVen3X669xLzsi6N2V91DoiyzHzg1uAgqiT8jZ9nS96Z"⟩⟩]⟩
  error := none

def landed : TransactionResponse where
  id := "tx-1"
  status := "success"
  onChain := none
  approvals := none
  error := none

/-- Over the message `2g` both drivers submit one approval and read the success. -/
theorem approver_drivers_agree :
    DriversAgree approver typeScriptApprover (awaitingApprover "2g") fun _ => landed := by
  refine (drivers_agree_iff approver_same approver_sameCodecs _ _).2.mpr ?_
  intro awaited point signingKey signerLocator entry key locator own
  cases point
  cases locator
  cases own
  decide

/-- Over the empty message the Rust driver submits an approval and the TypeScript
driver gives up. -/
theorem approver_drivers_disagree :
    ¬ ∀ (rust : Rust.Crossmint.CrossmintSigner) (typeScript : TypeScript.CrossmintSigner)
      (created : TransactionResponse) (responses : ℕ → TransactionResponse),
      SameConfiguration rust typeScript → DriversAgree rust typeScript created responses := by
  intro agree
  have alike := (driversAgree_iff_readAlike approver_same approver_sameCodecs).mp
    (agree approver typeScriptApprover (awaitingApprover "") (fun _ => landed) approver_same)
  have read := alike (awaitingApprover "") rfl approverSeed _ _ rfl rfl rfl
  exact read.2 rfl

end

end Keychain.Crossmint
