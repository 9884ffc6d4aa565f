import Keychain.Lib.Delimited
import Keychain.Rust.Crossmint.Driver

/-!
Which transaction the follow-ups of `execute_managed_transaction` are about.

A path segment determines the text it encodes (`encodeUriComponent_injective`), so
a request says which transaction it is about. The loop takes the id of each
follow-up from the response before it, not from the create: `Stays` describes the
answers under which this makes no difference.
-/

namespace Keychain.Rust

open Delimited

/-! ## Path segments -/

theorem ofNat_byte_injective : Function.Injective fun byte : UInt8 => Char.ofNat byte.toNat := by
  intro a b same
  have values : (Char.ofNat a.toNat).toNat = (Char.ofNat b.toNat).toNat := congrArg Char.toNat same
  rw [toNat_ofNat_byte, toNat_ofNat_byte] at values
  exact UInt8.toNat_inj.mp values

/-- The bytes that stand for themselves do not include the escape. -/
theorem unreserved_ne_percent {byte : UInt8} (plain : encodeUriComponent.unreserved byte = true) :
    Char.ofNat byte.toNat ≠ '%' := by
  intro escape
  have percent : byte = 0x25 := ofNat_byte_injective escape
  rw [percent] at plain
  exact absurd plain (by decide)

theorem upperDigit_inj : ∀ m < 16, ∀ n < 16,
    (Nat.digitChar m).toUpper = (Nat.digitChar n).toUpper → m = n := by
  decide

theorem upperDigits_inj {a b : UInt8}
    (same : (hexDigits a).map Char.toUpper = (hexDigits b).map Char.toUpper) : a = b := by
  have smallA := a.toNat_lt
  have smallB := b.toNat_lt
  simp only [hexDigits, List.map_cons, List.map_nil, List.cons.injEq, and_true] at same
  have high := upperDigit_inj _ (by omega) _ (by omega) same.1
  have low := upperDigit_inj _ (by omega) _ (by omega) same.2
  exact UInt8.toNat_inj.mp (by omega)

theorem uncut_encodeByte : Uncut encodeUriComponent.encodeByte := by
  intro a b cut
  unfold encodeUriComponent.encodeByte at cut
  by_cases plain : encodeUriComponent.unreserved a = true
  · rw [if_pos plain] at cut
    by_cases plain' : encodeUriComponent.unreserved b = true
    · rw [if_pos plain', List.cons_prefix_cons] at cut
      exact ofNat_byte_injective cut.1
    · rw [if_neg plain', List.cons_prefix_cons] at cut
      exact absurd cut.1 (unreserved_ne_percent plain)
  · rw [if_neg plain] at cut
    by_cases plain' : encodeUriComponent.unreserved b = true
    · rw [if_pos plain', List.cons_prefix_cons] at cut
      exact absurd cut.1.symm (unreserved_ne_percent plain')
    · rw [if_neg plain', List.cons_prefix_cons] at cut
      exact upperDigits_inj (cut.2.eq_of_length rfl)

theorem encodeUriComponent_injective : Function.Injective encodeUriComponent := by
  intro a b same
  have texts := String.ofList_injective same
  have nonempty : ∀ byte, encodeUriComponent.encodeByte byte ≠ [] := by
    intro byte
    unfold encodeUriComponent.encodeByte
    split <;> simp
  exact utf8_injective (uncut_encodeByte.flatMap_injective nonempty texts)

namespace Crossmint.CrossmintSigner

open Keychain.Crossmint Prog

variable {σ : Type} {signer : CrossmintSigner}

/-! ## Addresses -/

theorem pushSegments_cons {url segment : String} {segments : List String} :
    pushSegments url (segment :: segments) =
      pushSegments (url ++ "/" ++ encodeUriComponent segment) segments := rfl

/-- Segments are appended. -/
theorem pushSegments_eq_append (url : String) (segments : List String) :
    pushSegments url segments = url ++ pushSegments "" segments := by
  induction segments generalizing url with
  | nil => simp [pushSegments]
  | cons segment segments ih =>
    rw [pushSegments_cons, pushSegments_cons, ih, ih ("" ++ "/" ++ encodeUriComponent segment)]
    simp [String.append_assoc]

section

variable [Crates]

/-- An address determines the transaction. -/
theorem buildWalletsApiUrl_inj {id id' url : String} {more : List String}
    (located : signer.buildWalletsApiUrl ("transactions" :: id :: more) = .ok url)
    (located' : signer.buildWalletsApiUrl ("transactions" :: id' :: more) = .ok url) :
    id = id' := by
  change signer.buildWalletsApiUrl (["transactions"] ++ id :: more) = _ at located
  change signer.buildWalletsApiUrl (["transactions"] ++ id' :: more) = _ at located'
  rw [buildWalletsApiUrl_append] at located located'
  cases collection : signer.buildWalletsApiUrl ["transactions"] with
  | error e =>
    rw [collection] at located
    cases located
  | ok base =>
    rw [collection] at located located'
    have urls : pushSegments base (id :: more) = pushSegments base (id' :: more) :=
      (Except.ok.inj located).trans (Except.ok.inj located').symm
    rw [pushSegments_cons, pushSegments_cons, pushSegments_eq_append,
      pushSegments_eq_append (base ++ "/" ++ encodeUriComponent id'), String.append_left_inj,
      String.append_right_inj] at urls
    exact encodeUriComponent_injective urls

/-- The request is about this transaction. -/
def Targets (signer : CrossmintSigner) (id : String) (request : Request) : Prop :=
  ∃ followUp : FollowUp String, followUp.id = id ∧ signer.followUpRequest followUp = .ok request

theorem followUpRequest_get {id : String} {request : Request}
    (formed : signer.followUpRequest (.get id) = .ok request) :
    request.method = .get ∧ signer.buildWalletsApiUrl ["transactions", id] = .ok request.url := by
  obtain ⟨url, located, built⟩ := bind_eq_ok.mp formed
  cases built
  exact ⟨rfl, located⟩

theorem followUpRequest_approve {id signerLocator signatureB58 : String} {signed : Bytes}
    {request : Request}
    (formed : signer.followUpRequest (.approve id signerLocator signed signatureB58) =
      .ok request) :
    request.method = .post ∧
      signer.buildWalletsApiUrl ["transactions", id, "approvals"] = .ok request.url := by
  obtain ⟨url, located, built⟩ := bind_eq_ok.mp formed
  obtain ⟨body, -, built⟩ := bind_eq_ok.mp built
  cases built
  exact ⟨rfl, located⟩

/-- Requests about different transactions differ. -/
theorem followUpRequest_id {followUp followUp' : FollowUp String} {request : Request}
    (formed : signer.followUpRequest followUp = .ok request)
    (formed' : signer.followUpRequest followUp' = .ok request) : followUp.id = followUp'.id := by
  cases followUp with
  | get id =>
    have get := followUpRequest_get formed
    cases followUp' with
    | get id' => exact buildWalletsApiUrl_inj get.2 (followUpRequest_get formed').2
    | approve id' signerLocator signed signatureB58 =>
      have post := followUpRequest_approve formed'
      rw [get.1] at post
      cases post.1
  | approve id signerLocator signed signatureB58 =>
    have post := followUpRequest_approve formed
    cases followUp' with
    | get id' =>
      have get := followUpRequest_get formed'
      rw [post.1] at get
      cases get.1
    | approve id' signerLocator' signed' signatureB58' =>
      exact buildWalletsApiUrl_inj post.2 (followUpRequest_approve formed').2

theorem targets_iff {followUp : FollowUp String} {request : Request} {id : String}
    (formed : signer.followUpRequest followUp = .ok request) :
    signer.Targets id request ↔ followUp.id = id := by
  refine ⟨fun targets => ?_, fun same => ⟨followUp, same, formed⟩⟩
  rcases targets with ⟨followUp', rfl, formed'⟩
  exact followUpRequest_id formed formed'

/-! ## Follow-ups of a response -/

/-- A follow-up is about the transaction its response names. -/
theorem id_of_move {approved : Bool} {response : TransactionResponse} {followUp : FollowUp String}
    (follows : signer.machine.move approved response = .follow followUp) :
    followUp.id = response.id := by
  simp only [machine] at follows
  split at follows
  · cases follows
  split at follows
  · cases follows
  split at follows
  · cases owed : signer.approval response with
    | error e =>
      rw [owed] at follows
      cases follows
    | ok followUp' =>
      rw [owed] at follows
      cases follows
      rcases exists_approve_of_approval owed with ⟨signerLocator, signed, signature, rfl⟩
      rfl
  · cases follows
    rfl

/-- What the reply to a follow-up amounts to. -/
def followUpReply (followUp : FollowUp String) (reply : Reply) :
    Except SignerError TransactionResponse :=
  received reply >>= parseResponseWithRequiredField TransactionResponse.fromValue "id"
    (if followUp.isApproval then "submit_approval" else "get_transaction")

theorem sendFollowUp_run {followUp : FollowUp String} {answers : ℕ → Reply}
    {w : World Request Reply σ} :
    (signer.sendFollowUp followUp).run answers w =
      match exchanged (signer.followUpRequest followUp) with
      | .error e => (.error e, w)
      | .ok sent => (followUpReply followUp (answers w.asked), w.heard sent (answers w.asked)) :=
  exchange_run

/-- Every response from which a follow-up is sent names this transaction. -/
def Stays (signer : CrossmintSigner) (id : String) (answers : ℕ → Reply) :
    ℕ → Bool → TransactionResponse → ℕ → Prop
  | 0, _, _, _ => True
  | attempts + 1, approved, response, n =>
    ∀ followUp, signer.machine.move approved response = .follow followUp →
      ∀ sent, exchanged (signer.followUpRequest followUp) = .ok sent →
        response.id = id ∧
        ∀ next, followUpReply followUp (answers n) = .ok next →
          signer.Stays id answers attempts (approved || followUp.isApproval) next (n + 1)

/-- The loop adds follow-ups to the conversation; they are about one transaction
exactly when the answers stay with it. -/
theorem pollLoop_targets_iff (id : String) (attempts : ℕ) (approved : Bool)
    (response : TransactionResponse) (answers : ℕ → Reply) (w : World Request Reply σ) :
    ∃ rest, ((signer.pollLoop attempts approved response).run answers w).2.log = w.log ++ rest ∧
      ((∀ x ∈ rest, signer.Targets id x.1) ↔
        signer.Stays id answers attempts approved response w.asked) := by
  induction attempts generalizing approved response w with
  | zero => exact ⟨[], by simp [pollLoop], by simp [Stays]⟩
  | succ attempts ih =>
    rw [pollLoop_eq]
    cases move : signer.machine.move approved response with
    | stop result =>
      rw [Machine.drive_of_stop (raising_move move)]
      exact ⟨[], by simp, by simp [Stays, move]⟩
    | follow followUp =>
      rw [Machine.drive_of_follow (raising_move move), FollowUp.map_id, run_bind,
        sendFollowUp_run]
      cases formed : exchanged (signer.followUpRequest followUp) with
      | error e => exact ⟨[], by simp, by simp [Stays, move, formed]⟩
      | ok sent =>
        have targets : signer.Targets id sent ↔ response.id = id := by
          rw [targets_iff (exchanged_eq_ok.mp formed).1, id_of_move move]
        cases replied : followUpReply followUp (answers w.asked) with
        | error e =>
          refine ⟨[(sent, answers w.asked)], rfl, ?_⟩
          simp [Stays, move, formed, replied, targets]
        | ok next =>
          rcases ih (approved || followUp.isApproval) next (w.heard sent (answers w.asked)) with
            ⟨rest, log, rests⟩
          rw [pollLoop_eq] at log
          refine ⟨(sent, answers w.asked) :: rest, ?_, ?_⟩
          · rw [log, World.heard_log, List.append_assoc]
            rfl
          · rw [World.heard_asked] at rests
            rw [List.forall_mem_cons, targets, rests]
            simp [Stays, move, formed, replied]

/-! ## The managed flow -/

variable {transaction : VersionedTransaction} {create : Request} {created : TransactionResponse}

/-- The world in which the follow-ups begin: the create was answered and its id is
registered. -/
def registered (signer : CrossmintSigner) (slot : PendingTransactionId) (create : Request)
    (reply : Reply) (created : TransactionResponse) : World Request Reply PendingTransactionId where
  state := if signer.pendingTransactionId then slot.set created.id else slot
  log := [(create, reply)]

/-- A run whose create was accepted finishes the created transaction. -/
theorem executeManagedTransaction_run (answers : ℕ → Reply) (slot : PendingTransactionId)
    (prepared : signer.prepare transaction = .ok create)
    (accepted : signer.createVerdict transaction (answers 0) = .ok created) :
    (signer.executeManagedTransaction transaction).run answers (.start slot) =
      let followed := (signer.finishManagedTransaction created).run answers
        (signer.registered slot create (answers 0) created)
      (followed.1.mapError (afterCreate created.id (signer.idempotencyKey transaction)),
        { followed.2 with state :=
          if signer.pendingTransactionId then followed.2.state.clear created.id
          else followed.2.state }) := by
  obtain ⟨publicKey, initialized, rest⟩ := bind_eq_ok.mp prepared
  obtain ⟨serialized, wire, -⟩ := bind_eq_ok.mp rest
  have submitted : (signer.createTransaction (Crates.bs58Encode serialized)
      (signer.idempotencyKey transaction)).run answers (.start slot) =
      (.ok created, World.heard (.start slot) create (answers 0)) := by
    rw [createTransaction_run answers (.start slot) initialized wire, Broadcast.Plan.submitted]
    simp [managedPlan, prepared, accepted]
  rw [executeManagedTransaction, initialized, wire]
  simp only [ofExcept_ok_bind, run_bind, submitted, run_modifyState, run_finallyModify,
    run_mapError]
  rfl

/-- A run is about the created transaction throughout: every follow-up is addressed
to it, an unconfirmed outcome reports it, and a slot of the caller's holds it from
before the first follow-up until after the last. -/
structure AboutCreated (signer : CrossmintSigner) (transaction : VersionedTransaction)
    (answers : ℕ → Reply) (slot : PendingTransactionId) (create : Request)
    (created : TransactionResponse) : Prop where
  followUps : ∀ x ∈ ((signer.executeManagedTransaction transaction).run answers
    (.start slot)).2.log.tail, signer.Targets created.id x.1
  reported : ∀ outcome, ((signer.executeManagedTransaction transaction).run answers
    (.start slot)).1 = .error (.broadcastUnconfirmed outcome) →
      outcome.providerTxId = some created.id
  pending : signer.pendingTransactionId = true →
    (signer.registered slot create (answers 0) created).state.get = some created.id ∧
    ((signer.finishManagedTransaction created).run answers
      (signer.registered slot create (answers 0) created)).2.state.get = some created.id

theorem finishManagedTransaction_targets_iff (id : String) (created : TransactionResponse)
    (answers : ℕ → Reply) (w : World Request Reply σ) :
    ∃ rest, ((signer.finishManagedTransaction created).run answers w).2.log = w.log ++ rest ∧
      ((∀ x ∈ rest, signer.Targets id x.1) ↔
        signer.Stays id answers signer.maxPollAttempts false created w.asked) := by
  rcases pollLoop_targets_iff id signer.maxPollAttempts false created answers w with
    ⟨rest, log, targets⟩
  refine ⟨rest, ?_, targets⟩
  rw [finishManagedTransaction, run_bind, pollTransaction, ← log]
  rcases (signer.pollLoop signer.maxPollAttempts false created).run answers w with ⟨e | r, w'⟩
  · rfl
  · rfl

/-- What is reported and what the slot holds is the created id in every run. -/
theorem aboutCreated_iff_stays {answers : ℕ → Reply} {slot : PendingTransactionId}
    (prepared : signer.prepare transaction = .ok create)
    (accepted : signer.createVerdict transaction (answers 0) = .ok created) :
    signer.AboutCreated transaction answers slot create created ↔
      signer.Stays created.id answers signer.maxPollAttempts false created 1 := by
  have run := executeManagedTransaction_run answers slot prepared accepted
  rcases finishManagedTransaction_targets_iff created.id created answers
    (signer.registered slot create (answers 0) created) with ⟨rest, log, targets⟩
  have tail : ((signer.executeManagedTransaction transaction).run answers
      (.start slot)).2.log.tail = rest := by
    rw [run]
    change ((signer.finishManagedTransaction created).run answers _).2.log.tail = rest
    rw [log]
    rfl
  have kept : ((signer.finishManagedTransaction created).run answers
      (signer.registered slot create (answers 0) created)).2.state =
      (signer.registered slot create (answers 0) created).state :=
    finishManagedTransaction_oblivious.keeps answers _
  refine ⟨fun about => ?_, fun stays => ⟨?_, ?_, ?_⟩⟩
  · refine targets.mp fun x member => about.followUps x ?_
    rwa [tail]
  · rw [tail]
    exact targets.mpr stays
  · intro outcome failed
    rw [run] at failed
    obtain ⟨e, -, unconfirmed⟩ := mapError_eq_error.mp failed
    cases unconfirmed
    rfl
  · intro registers
    have held : (signer.registered slot create (answers 0) created).state.get =
        some created.id := by
      simp [registered, registers, PendingTransactionId.set, PendingTransactionId.get]
    refine ⟨held, ?_⟩
    rw [kept, held]

/-- Every run with an accepted create stays with the created transaction exactly when
every response from which a follow-up is sent names it. -/
theorem followUps_target_created_iff (signer : CrossmintSigner) (transaction : VersionedTransaction)
    (answers : ℕ → Reply) (slot : PendingTransactionId) {create : Request}
    {created : TransactionResponse} (prepared : signer.prepare transaction = .ok create)
    (accepted : signer.createVerdict transaction (answers 0) = .ok created) :
    signer.AboutCreated transaction answers slot create created ↔
      signer.Stays created.id answers signer.maxPollAttempts false created 1 :=
  aboutCreated_iff_stays prepared accepted

end

/-! ## A provider that answers about another transaction -/

section

/-- The create of `emptyTransaction` as it is printed. -/
def emptyCreateText : String :=
  "\x7b\"params\":\x7b\"transaction\":\"" ++ base58Encode (legacyWire emptyTransaction) ++
    "\"\x7d\x7d"

def pendingBody (id : String) : Bytes :=
  utf8 ("\x7b\"id\":\"" ++ id ++ "\",\"status\":\"pending\"\x7d")

def pendingValue (id : String) : Value :=
  .object [("id", .string id), ("status", .string "pending")]

def pendingResponse (id : String) : TransactionResponse := ⟨id, "pending", none, none, none⟩

local instance pendingCrates : Crates :=
  .linked emptyDigest
    (fun body =>
      if body = pendingBody "tx-1" then .ok (pendingValue "tx-1")
      else if body = pendingBody "tx-2" then .ok (pendingValue "tx-2")
      else .error "expected value")
    fun _ => emptyCreateText

def poller : CrossmintSigner where
  apiKey := "sk_staging_1"
  walletLocator := "wallet"
  signer := none
  apiBaseUrl := "https://staging.crossmint.com/api"
  publicKey := some emptyPayer
  maxPollAttempts := 2
  signingKey := none
  pendingTransactionId := true
  maxPollAttempts_pos := by decide

def pollerCreate : Request where
  method := .post
  url := "https://staging.crossmint.com/api/2025-06-09/wallets/wallet/transactions"
  headers := [("Content-Type", "application/json"), ("X-API-KEY", "sk_staging_1"),
    ("x-idempotency-key", poller.idempotencyKey emptyTransaction)]
  body := emptyCreateText

/-- The create is accepted as `tx-1`, and the polls are answered about this one. -/
def answersAbout (id : String) (n : ℕ) : Reply :=
  .response 200 (.whole (pendingBody (if n = 0 then "tx-1" else id)))

theorem poller_prepared : poller.prepare emptyTransaction = .ok pollerCreate := by
  rfl

theorem poller_accepted (id : String) :
    poller.createVerdict emptyTransaction (answersAbout id 0) = .ok (pendingResponse "tx-1") := by
  rfl

/-- Polls that are answered about the created transaction keep the run with it. -/
theorem poller_stays_with_created :
    poller.AboutCreated emptyTransaction (answersAbout "tx-1") ⟨[]⟩ pollerCreate
      (pendingResponse "tx-1") := by
  refine (followUps_target_created_iff poller emptyTransaction (answersAbout "tx-1") ⟨[]⟩
    poller_prepared (poller_accepted "tx-1")).mpr ?_
  intro followUp follows sent _
  cases follows
  refine ⟨rfl, fun next replied => ?_⟩
  cases replied
  intro followUp follows sent _
  exact ⟨rfl, fun next _ => trivial⟩

/-- After an answer about `tx-2` the next poll is sent to `tx-2`, while `tx-1` stays
registered and is the one that is reported. -/
theorem poller_leaves_created :
    ¬ ∀ (signer : CrossmintSigner) (transaction : VersionedTransaction) (answers : ℕ → Reply)
      (slot : PendingTransactionId) (create : Request) (created : TransactionResponse),
      signer.prepare transaction = .ok create →
      signer.createVerdict transaction (answers 0) = .ok created →
      signer.AboutCreated transaction answers slot create created := by
  intro all
  have about := all poller emptyTransaction (answersAbout "tx-2") ⟨[]⟩ pollerCreate
    (pendingResponse "tx-1") poller_prepared (poller_accepted "tx-2")
  have stays := (aboutCreated_iff_stays poller_prepared (poller_accepted "tx-2")).mp about
  have first := stays (.get "tx-1") rfl _ rfl
  have second := first.2 (pendingResponse "tx-2") rfl (.get "tx-2") rfl _ rfl
  exact absurd second.1 (by decide)

end

end Crossmint.CrossmintSigner

end Keychain.Rust
