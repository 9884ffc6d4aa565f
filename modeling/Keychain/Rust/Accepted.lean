import Keychain.Rust.Signing

/-!
What a `RemoteApiError` of a polling backend says about the create that went before.

`SignerError::RemoteApiError` carries the id of a request that the provider accepted
but did not finish, and no id when none was left behind. `NamesAccepted` is this promise
for one run. Everything behind the last poll reports other errors, so the promise is
decided by the create and the polls: `namesAccepted_submit_iff` takes a call apart there,
and `Polls.names_iff` says which polls break it.
-/

namespace Keychain.Rust

open Prog

variable {σ ι T : Type}

/-! ## The promise -/

/-- The log holds a create whose reply is accepted under this id. -/
def AcceptedIn (createdId : Reply → Option String) (log : List (Request × Reply))
    (id : String) : Prop :=
  ∃ x ∈ log, x.1.method = .post ∧ createdId x.2 = some id

/-- An error of the remote API names what was accepted in this run. -/
def NamesAccepted (createdId : Reply → Option String) (m : HttpProg σ SignerError T)
    (answers : ℕ → Reply) (w : World Request Reply σ) : Prop :=
  ∀ detail providerTxId w', m.run answers w = (.error (.remoteApiError detail providerTxId), w') →
    ∀ id, AcceptedIn createdId w'.log id → providerTxId = some id

def IsRemoteApi (error : SignerError) : Prop :=
  ∃ detail providerTxId, error = .remoteApiError detail providerTxId

section

variable {createdId : Reply → Option String} {answers : ℕ → Reply} {w : World Request Reply σ}

theorem namesAccepted_bind_iff {m : HttpProg σ SignerError ι} {f : ι → HttpProg σ SignerError T}
    (quiet : ∀ a, (f a).Avoids IsRemoteApi) :
    NamesAccepted createdId (m >>= f) answers w ↔ NamesAccepted createdId m answers w := by
  unfold NamesAccepted
  refine forall_congr' fun detail => forall_congr' fun providerTxId => forall_congr' fun w' => ?_
  rw [run_bind_eq_error_iff quiet ⟨detail, providerTxId, rfl⟩]

/-- Before anything is sent an error promises nothing. -/
theorem namesAccepted_ofExcept_bind {s : σ} {x : Except SignerError ι}
    {f : ι → HttpProg σ SignerError T} :
    NamesAccepted createdId (ofExcept x >>= f) answers (.start s) ↔
      ∀ a, x = .ok a → NamesAccepted createdId (f a) answers (.start s) := by
  cases x with
  | ok a => simp
  | error e =>
    refine iff_of_true ?_ (by simp)
    intro detail providerTxId w' failed id accepted
    cases failed
    rcases accepted with ⟨x, member, -⟩
    cases member

theorem namesAccepted_state_bind {f : σ → HttpProg σ SignerError T} :
    NamesAccepted createdId (state >>= f) answers w ↔
      NamesAccepted createdId (f w.state) answers w := Iff.rfl

end

/-! ## A create and its polls -/

/-- The id of a create that the program accepts as such. -/
def acceptedId (verdict : Reply → Except SignerError ι) (idOf : ι → Option String)
    (reply : Reply) : Option String :=
  match verdict reply with
  | .ok handle => idOf handle
  | .error _ => none

/-- The program is a create, formed by the moment and judged by its reply. -/
structure Creates (submit : HttpProg σ SignerError ι) (form : ℕ → Except SignerError Request)
    (verdict : Reply → Except SignerError ι) : Prop where
  consults : submit.ConsultsAt form verdict
  posts : ∀ moment create, form moment = .ok create → create.method = .post

/-- The promise of a call is one about its polls. -/
theorem namesAccepted_submit_iff {submit : HttpProg σ SignerError ι}
    {form : ℕ → Except SignerError Request} {verdict : Reply → Except SignerError ι}
    {poll : ι → HttpProg σ SignerError T} {idOf : ι → Option String}
    (creates : Creates submit form verdict)
    (gets : ∀ handle, (poll handle).Asks (·.method = .get)) {answers : ℕ → Reply} {s : σ} :
    NamesAccepted (acceptedId verdict idOf) (submit >>= poll) answers (.start s) ↔
      ∀ create handle id, form 0 = .ok create → verdict (answers 0) = .ok handle →
        idOf handle = some id → ∀ detail providerTxId,
          ((poll handle).run answers (World.heard (.start s) create (answers 0))).1 =
            .error (.remoteApiError detail providerTxId) → providerTxId = some id := by
  have ran := creates.consults answers (.start s)
  rw [World.start_asked] at ran
  constructor
  · intro names create handle id prepared accepted named detail providerTxId failed
    rw [prepared] at ran
    have whole : (submit >>= poll).run answers (.start s) =
        (poll handle).run answers (World.heard (.start s) create (answers 0)) := by
      simp only [run_bind, ran, accepted]
    refine names detail providerTxId _ (whole.trans (Prod.ext failed rfl)) id ?_
    rcases gets handle answers (World.heard (.start s) create (answers 0)) with ⟨rest, log, -⟩
    refine ⟨(create, answers 0), ?_, creates.posts 0 create prepared, ?_⟩
    · rw [log]
      simp
    · simp [acceptedId, accepted, named]
  · intro names detail providerTxId w' failed id accepted
    rcases accepted with ⟨x, member, post, created⟩
    cases prepared : form 0 with
    | error e =>
      -- Nothing was sent.
      simp only [run_bind, ran, prepared, Prod.mk.injEq] at failed
      rw [← failed.2] at member
      cases member
    | ok create =>
      rw [prepared] at ran
      cases verdicted : verdict (answers 0) with
      | error e =>
        -- The only request was refused.
        simp only [run_bind, ran, verdicted, Prod.mk.injEq] at failed
        rw [← failed.2] at member
        have only : x = (create, answers 0) := by simpa using member
        simp [acceptedId, only, verdicted] at created
      | ok handle =>
        simp only [run_bind, ran, verdicted] at failed
        rcases gets handle answers (World.heard (.start s) create (answers 0))
          with ⟨rest, log, reads⟩
        rw [failed] at log
        rw [log] at member
        rcases List.mem_append.mp member with first | later
        · have only : x = (create, answers 0) := by simpa using first
          refine names create handle id prepared verdicted ?_ detail providerTxId ?_
          · simpa [acceptedId, only, verdicted] using created
          · rw [failed]
        · rw [reads x later] at post
          cases post

/-- What follows the polls has no part in the promise. -/
theorem namesAccepted_polled_iff {U : Type} {submit : HttpProg σ SignerError ι}
    {form : ℕ → Except SignerError Request} {verdict : Reply → Except SignerError ι}
    {poll : ι → HttpProg σ SignerError U} {rest : U → HttpProg σ SignerError T}
    {idOf : ι → Option String} (creates : Creates submit form verdict)
    (gets : ∀ handle, (poll handle).Asks (·.method = .get))
    (quiet : ∀ polled, (rest polled).Avoids IsRemoteApi) {answers : ℕ → Reply} {s : σ} :
    NamesAccepted (acceptedId verdict idOf) (submit >>= fun handle => poll handle >>= rest)
        answers (.start s) ↔
      ∀ create handle id, form 0 = .ok create → verdict (answers 0) = .ok handle →
        idOf handle = some id → ∀ detail providerTxId,
          ((poll handle).run answers (World.heard (.start s) create (answers 0))).1 =
            .error (.remoteApiError detail providerTxId) → providerTxId = some id := by
  rw [← bind_assoc, namesAccepted_bind_iff quiet]
  exact namesAccepted_submit_iff creates gets

theorem consultsAt_exchange [Crates] {request : Except SignerError Request}
    {judge : Response → Except SignerError T} :
    (exchange request judge : HttpProg σ SignerError T).ConsultsAt (fun _ => exchanged request)
      (fun reply => received reply >>= judge) := by
  intro answers w
  rw [exchange_run]
  dsimp only
  cases exchanged request <;> rfl

/-! ## Polls -/

/-- The provider answered, with a status outside 2xx. -/
def IsErrorReply : Reply → Prop
  | .failed _ => False
  | .response status _ => Reply.isSuccess status = false

/-- What a poll makes of its reply: a parsed body is settled by `settles`. -/
def pollVerdict {R : Type} [FromSlice R] (context : String)
    (settles : R → Except SignerError (PollOutcome T)) (reply : Reply) :
    Except SignerError (PollOutcome T) := do
  let response ← received reply
  let parsed ← parseJsonResponse response context
  settles parsed

/-- The first `k` polls are formed and find the transaction pending. -/
def StaysPending (form : ℕ → Except SignerError Request)
    (verdict : Reply → Except SignerError (PollOutcome T)) (answers : ℕ → Reply) (k : ℕ) : Prop :=
  ∀ i < k, (∃ request, form (1 + i) = .ok request) ∧ verdict (answers (1 + i)) = .ok .pending

/-- One of the first `n` polls, the earlier ones pending, is refused. -/
def PollRefused (form : ℕ → Except SignerError Request)
    (verdict : Reply → Except SignerError (PollOutcome T)) (answers : ℕ → Reply) (n : ℕ) : Prop :=
  ∃ k < n, StaysPending form verdict answers k ∧ (∃ request, form (1 + k) = .ok request) ∧
    IsErrorReply (answers (1 + k))

theorem readBodyCapped_spares {stream : BodyStream} :
    Spares IsRemoteApi (readBodyCapped stream) := by
  rw [readBodyCapped_eq]
  split_ifs
  · exact spares_error (by simp [IsRemoteApi, oversizeError])
  · cases stream.failure with
    | some e => exact spares_error (by simp [IsRemoteApi])
    | none => exact spares_ok

theorem parseJsonResponse_of_refused {R : Type} [FromSlice R] {response : Response}
    {context : String} (refused : Reply.isSuccess response.status = false) :
    (parseJsonResponse response context : Except SignerError R) =
      .error (extractApiError response context) := by
  rw [parseJsonResponse, refused]
  rfl

theorem parseJsonResponse_spares {R : Type} [FromSlice R] {response : Response}
    {context : String} (success : Reply.isSuccess response.status = true) :
    Spares IsRemoteApi (parseJsonResponse response context : Except SignerError R) := by
  rw [parseJsonResponse, success]
  refine Spares.bind readBodyCapped_spares fun bytes => ?_
  cases (fromSlice bytes : Except String R) with
  | ok value => exact spares_ok
  | error e => exact spares_error (by simp [IsRemoteApi])

/-- A poll reports an error of the remote API exactly when it is refused, and
then without an id. -/
theorem pollVerdict_eq_remoteApiError_iff {R : Type} [FromSlice R] {context : String}
    {settles : R → Except SignerError (PollOutcome T)}
    (spares : ∀ parsed, Spares IsRemoteApi (settles parsed)) {reply : Reply}
    {providerTxId : Option String} :
    (∃ detail, pollVerdict context settles reply =
        .error (.remoteApiError detail providerTxId)) ↔
      IsErrorReply reply ∧ providerTxId = none := by
  cases reply with
  | failed e =>
    refine iff_of_false ?_ fun refused => refused.1
    intro reported
    rcases reported with ⟨detail, failed⟩
    cases failed
  | response status body =>
    have whole : pollVerdict context settles (.response status body) =
        parseJsonResponse ⟨status, body⟩ context >>= settles := rfl
    rw [whole]
    cases success : Reply.isSuccess status with
    | true =>
      refine iff_of_false ?_ (by simp [IsErrorReply, success])
      intro reported
      rcases reported with ⟨detail, failed⟩
      have parsed : Spares IsRemoteApi (parseJsonResponse ⟨status, body⟩ context >>= settles) :=
        (parseJsonResponse_spares success).bind spares
      exact parsed _ failed ⟨detail, providerTxId, rfl⟩
    | false =>
      have refused : (parseJsonResponse ⟨status, body⟩ context >>= settles) =
          .error (extractApiError ⟨status, body⟩ context) := by
        rw [parseJsonResponse_of_refused success]
        rfl
      rw [refused]
      simp [IsErrorReply, success, extractApiError, SignerError.remoteApi, eq_comm]

/-- The attempt is a poll, formed by the moment and judged by its reply. -/
structure Polls (attempt : HttpProg σ SignerError (PollOutcome T))
    (form : ℕ → Except SignerError Request)
    (verdict : Reply → Except SignerError (PollOutcome T)) : Prop where
  consults : attempt.ConsultsAt form verdict
  gets : ∀ moment poll, form moment = .ok poll → poll.method = .get
  spares : ∀ moment, Spares IsRemoteApi (form moment)
  reports : ∀ reply providerTxId,
    (∃ detail, verdict reply = .error (.remoteApiError detail providerTxId)) ↔
      IsErrorReply reply ∧ providerTxId = none

theorem Polls.asks {timeout : SignerError} {attempt : HttpProg σ SignerError (PollOutcome T)}
    {form : ℕ → Except SignerError Request}
    {verdict : Reply → Except SignerError (PollOutcome T)} (polls : Polls attempt form verdict)
    {n : ℕ} : (retry timeout attempt n).Asks (·.method = .get) :=
  (polls.consults.asks polls.gets).retry n

/-- Which polls keep the promise for the id they were made for. -/
theorem Polls.names_iff {timeout : SignerError}
    {attempt : HttpProg σ SignerError (PollOutcome T)} {form : ℕ → Except SignerError Request}
    {verdict : Reply → Except SignerError (PollOutcome T)} (polls : Polls attempt form verdict)
    {answers : ℕ → Reply} {w : World Request Reply σ} (asked : w.asked = 1) {n : ℕ}
    {id : String} :
    (∀ detail providerTxId, ((retry timeout attempt n).run answers w).1 =
        .error (.remoteApiError detail providerTxId) → providerTxId = some id) ↔
      ¬ PollRefused form verdict answers n ∧
        (StaysPending form verdict answers n → ∀ detail providerTxId,
          timeout = .remoteApiError detail providerTxId → providerTxId = some id) := by
  -- A poll stays pending exactly when it is formed and its reply says so.
  have pends : ∀ k, (∀ i < k, (form (1 + i) >>= fun _ => verdict (answers (1 + i))) =
      .ok .pending) ↔ StaysPending form verdict answers k := by
    intro k
    refine forall_congr' fun i => forall_congr' fun _ => ?_
    rw [bind_eq_ok]
    simp
  have reported : ∀ k providerTxId, (∃ detail,
      (form (1 + k) >>= fun _ => verdict (answers (1 + k))) =
        .error (.remoteApiError detail providerTxId)) ↔
      (∃ request, form (1 + k) = .ok request) ∧ IsErrorReply (answers (1 + k)) ∧
        providerTxId = none := by
    intro k providerTxId
    rw [← polls.reports]
    cases formed : form (1 + k) with
    | ok request => simp [bind, Except.bind]
    | error e =>
      refine iff_of_false ?_ (by simp)
      intro failed
      rcases failed with ⟨detail, failed⟩
      cases failed
      exact polls.spares (1 + k) _ formed ⟨detail, providerTxId, rfl⟩
  simp only [polls.consults.retry_fst, asked, settle_eq_error_iff, pends]
  constructor
  · intro names
    refine ⟨?_, ?_⟩
    · intro refused
      rcases refused with ⟨k, bound, before, formed, refused⟩
      rcases (reported k none).mpr ⟨formed, refused, rfl⟩ with ⟨detail, failed⟩
      have named := names detail none (.inl ⟨k, bound, before, failed⟩)
      cases named
    · intro pending detail providerTxId expired
      exact names detail providerTxId (.inr ⟨pending, expired⟩)
  · intro kept detail providerTxId failed
    rcases failed with ⟨k, bound, before, failed⟩ | ⟨pending, expired⟩
    · have refused := (reported k providerTxId).mp ⟨detail, failed⟩
      exact absurd ⟨k, bound, before, refused.1, refused.2.1⟩ kept.1
    · exact kept.2 pending detail providerTxId expired

/-- Where the timeout names the id, a call keeps the promise unless a poll is
refused. -/
theorem namesAccepted_retried_iff {U : Type} {submit : HttpProg σ SignerError ι}
    {createForm : ℕ → Except SignerError Request} {createVerdict : Reply → Except SignerError ι}
    {idOf : ι → String} {timeout : ι → SignerError}
    {attempt : ι → HttpProg σ SignerError (PollOutcome U)}
    {form : ι → ℕ → Except SignerError Request}
    {verdict : ι → Reply → Except SignerError (PollOutcome U)}
    {rest : U → HttpProg σ SignerError T}
    (creates : Creates submit createForm createVerdict)
    (polls : ∀ handle, Polls (attempt handle) (form handle) (verdict handle))
    (named : ∀ handle, ∃ detail, timeout handle = .remoteApiError detail (some (idOf handle)))
    (quiet : ∀ polled, (rest polled).Avoids IsRemoteApi) {answers : ℕ → Reply} {s : σ} {n : ℕ} :
    NamesAccepted (acceptedId createVerdict fun handle => some (idOf handle))
        (submit >>= fun handle => retry (timeout handle) (attempt handle) n >>= rest) answers
        (.start s) ↔
      ∀ create handle, createForm 0 = .ok create → createVerdict (answers 0) = .ok handle →
        ¬ PollRefused (form handle) (verdict handle) answers n := by
  rw [namesAccepted_polled_iff creates (fun handle => (polls handle).asks) quiet]
  refine forall_congr' fun create => forall_congr' fun handle => ?_
  have kept : (∀ detail providerTxId, ((retry (timeout handle) (attempt handle) n).run answers
        (World.heard (.start s) create (answers 0))).1 =
          .error (.remoteApiError detail providerTxId) → providerTxId = some (idOf handle)) ↔ _ :=
    (polls handle).names_iff (by simp)
  have tells : ∀ detail providerTxId, timeout handle = .remoteApiError detail providerTxId →
      providerTxId = some (idOf handle) := by
    intro detail providerTxId expired
    rcases named handle with ⟨told, carries⟩
    rw [carries] at expired
    cases expired
    rfl
  constructor
  · intro names formed accepted
    exact (kept.mp (names (idOf handle) formed accepted rfl)).1
  · intro unrefused id formed accepted same
    cases same
    exact kept.mpr ⟨unrefused formed accepted, fun _ => tells⟩

/-! ## Everything behind the polls -/

theorem namesAccepted_signAndClassify_iff {createdId : Reply → Option String}
    {signAndSerialize : HttpProg VersionedTransaction SignerError SignedTransaction}
    {answers : ℕ → Reply} {w : World Request Reply VersionedTransaction} :
    NamesAccepted createdId (signAndClassify signAndSerialize) answers w ↔
      NamesAccepted createdId signAndSerialize answers w :=
  namesAccepted_bind_iff fun _ => avoids_state.bind fun _ => avoids_pure

theorem namesAccepted_checked_iff {createdId : Reply → Option String}
    {check : Signature → Except SignerError Unit} {sign : HttpProg σ SignerError Signature}
    (spares : ∀ signature, Spares IsRemoteApi (check signature)) {answers : ℕ → Reply}
    {w : World Request Reply σ} :
    NamesAccepted createdId (checked check sign) answers w ↔
      NamesAccepted createdId sign answers w :=
  namesAccepted_bind_iff fun _ => (avoids_ofExcept (spares _)).bind fun _ => avoids_pure

theorem signatureFromEncoded_spares {decode : String → Except String Bytes}
    {name encoded : String} : Spares IsRemoteApi (signatureFromEncoded decode name encoded) := by
  unfold signatureFromEncoded
  cases decode encoded with
  | ok bytes => exact spares_okOr (by simp [IsRemoteApi])
  | error e => exact spares_error (by simp [IsRemoteApi])

section

variable [Crates]

theorem verifyOrReject_spares {signature : Signature} {publicKey : Pubkey} {message : Bytes} :
    Spares IsRemoteApi (verifyOrReject signature publicKey message) := by
  unfold verifyOrReject
  split
  · exact spares_ok
  · exact spares_error (by simp [IsRemoteApi])

theorem getSigningKeypairPosition_spares {transaction : VersionedTransaction}
    {publicKey : Pubkey} :
    Spares IsRemoteApi (getSigningKeypairPosition transaction publicKey) := by
  unfold getSigningKeypairPosition
  split
  · exact spares_error (by simp [IsRemoteApi])
  · cases transaction.message.requiredKeys.idxOf? publicKey with
    | some position => exact spares_ok
    | none => exact spares_error (by simp [IsRemoteApi])

theorem serializeTransaction_spares {transaction : VersionedTransaction} :
    Spares IsRemoteApi (serializeTransaction transaction) :=
  (spares_mapError (by simp [IsRemoteApi])).bind fun _ => spares_ok

theorem signatureAtSignerPosition_spares {transaction : VersionedTransaction}
    {publicKey : Pubkey} :
    Spares IsRemoteApi (signatureAtSignerPosition transaction publicKey) :=
  getSigningKeypairPosition_spares.bind fun _ => spares_okOr (by simp [IsRemoteApi])

theorem deserializeWireTransaction_spares {bytes : Bytes} :
    Spares IsRemoteApi (deserializeWireTransaction bytes) :=
  spares_mapError (by simp [IsRemoteApi])

theorem placeAndSerialize_avoids {publicKey : Pubkey} {signature : Signature} :
    (placeAndSerialize publicKey signature : Prog Request Reply _ _ _).Avoids IsRemoteApi := by
  refine avoids_state.bind fun transaction => ?_
  refine (avoids_ofExcept ?_).bind fun placed => avoids_modifyState.bind fun _ => ?_
  · exact getSigningKeypairPosition_spares.bind fun _ => spares_ok
  · exact (avoids_ofExcept serializeTransaction_spares).bind fun _ => avoids_pure

end

/-- A request that cannot be sent is no error of the remote API. -/
theorem exchanged_spares [Crates] {request : Request} :
    Spares IsRemoteApi (exchanged (.ok request)) := by
  have whole : exchanged (.ok request) = sendable (.ok request) := rfl
  rw [whole, sendable]
  refine Spares.bind spares_ok fun request => ?_
  cases Crates.builderError request with
  | some e => exact spares_error (by simp [IsRemoteApi])
  | none => exact spares_ok

theorem method_of_exchanged [Crates] {request sent : Request}
    (sends : exchanged (.ok request) = .ok sent) : sent.method = request.method := by
  have same := (exchanged_eq_ok.mp sends).1
  cases same
  rfl

end Keychain.Rust
