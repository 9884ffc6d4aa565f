import Keychain.Wire
import Keychain.Solana

/-!
What a sending signer promises its caller, in terms no backend owns.

A sending signer creates one transaction at its provider and then waits for it
to land. Its caller retries after an error, so an error has to say whether the
provider may have executed the transaction. A `Reading` says how a backend's
conversation is read: which requests are creates, which replies accept one and
under which id, and which errors report an unconfirmed broadcast.
`Sound` is the promise itself.

Every backend reaches its result through the same stages, which a `Plan` lists as
pure functions: prepare the create, judge its reply, finish with the follow-ups.
A backend module shows that its runs follow the `Course` of its plan;
`Course.sound` then reduces the promise to one obligation for each stage.
-/

namespace Keychain.Broadcast

/-- What an unconfirmed-broadcast error tells the caller to reconcile by. -/
structure Outcome where
  providerTxId : Option String
  idempotencyKey : Option String
  deriving DecidableEq

/-- How a backend's conversation and its errors are read. -/
structure Reading (ε : Type) where
  isCreate : Request → Bool
  acceptedId : Reply → Option String
  unconfirmed? : ε → Option Outcome

variable {ε : Type} (reading : Reading ε) (log : List (Request × Reply))

/-- No create was sent. -/
def Unsent : Prop := ∀ x ∈ log, reading.isCreate x.1 = false

/-- The create was answered with a definite rejection. -/
def Rejected : Prop := ∃ x ∈ log, reading.isCreate x.1 ∧ x.2.Rejects

/-- The create was accepted under this provider id. -/
def Accepted (id : String) : Prop :=
  ∃ x ∈ log, reading.isCreate x.1 ∧ reading.acceptedId x.2 = some id

instance {id : String} : Decidable (Accepted reading log id) :=
  inferInstanceAs (Decidable (∃ x ∈ log, reading.isCreate x.1 ∧ reading.acceptedId x.2 = some id))

/-- The promise of a sending signer over one run. -/
structure Sound {α : Type} (result : Except ε α) : Prop where
  /-- A run creates at most one transaction. -/
  single : (log.filter fun x => reading.isCreate x.1).length ≤ 1
  /-- An error that does not report an unconfirmed broadcast is definite. -/
  definite : ∀ error, result = .error error → reading.unconfirmed? error = none →
    Unsent reading log ∨ Rejected reading log
  /-- After an accepted create every error names the accepted transaction. -/
  accepted : ∀ id, Accepted reading log id → ∀ error, result = .error error →
    ∃ outcome, reading.unconfirmed? error = some outcome ∧ outcome.providerTxId = some id

/-- Every accepted create ends in a landed result or in an error that names the
accepted transaction. -/
def Accounted {α : Type} (landed : α → Prop) (result : Except ε α) : Prop :=
  ∀ id, Accepted reading log id →
    (∃ a, result = .ok a ∧ landed a) ∨
      ∃ error outcome, result = .error error ∧ reading.unconfirmed? error = some outcome ∧
        outcome.providerTxId = some id

variable {reading log} {α : Type} {result : Except ε α}

theorem Accepted.of_cons {request : Request} {reply : Reply} {rest : List (Request × Reply)}
    {id : String} (accepted : Accepted reading ((request, reply) :: rest) id)
    (followUps : Unsent reading rest) : reading.acceptedId reply = some id := by
  obtain ⟨x, member, create, acceptedAs⟩ := accepted
  rcases List.mem_cons.mp member with rfl | later
  · exact acceptedAs
  · exact absurd create (by simp [followUps x later])

/-- A run that sends no create promises nothing more. -/
theorem Sound.of_unsent (unsent : Unsent reading log) : Sound reading log result where
  single := by
    have none : log.filter (fun x => reading.isCreate x.1) = [] := by
      simpa [List.filter_eq_nil_iff, Unsent] using unsent
    simp [none]
  definite := fun _ _ _ => Or.inl unsent
  accepted := by
    intro id given
    rcases given with ⟨x, member, create, -⟩
    exact absurd create (by simp [unsent x member])

/-- A run whose first exchange is the create and whose follow-ups create nothing
is sound as soon as its errors agree with what the create was answered. -/
theorem Sound.of_create {request : Request} {reply : Reply} {rest : List (Request × Reply)}
    (create : reading.isCreate request) (followUps : Unsent reading rest)
    (definite : ∀ error, result = .error error → reading.unconfirmed? error = none →
      reply.Rejects)
    (accepted : ∀ id, reading.acceptedId reply = some id → ∀ error, result = .error error →
      ∃ outcome, reading.unconfirmed? error = some outcome ∧ outcome.providerTxId = some id) :
    Sound reading ((request, reply) :: rest) result where
  single := by
    have none : rest.filter (fun x => reading.isCreate x.1) = [] := by
      simpa [List.filter_eq_nil_iff, Unsent] using followUps
    simp [create, none]
  definite := fun error failed plain =>
    Or.inr ⟨_, List.mem_cons_self, create, definite error failed plain⟩
  accepted := fun id acceptedAs => accepted id (acceptedAs.of_cons followUps)

/-! ## Plans -/

/-- The stages of a sending signer for one transaction. `ι` is what the provider
hands back for an accepted create. -/
structure Plan (ε ι α : Type) where
  /-- The create, or the error of a run that sends nothing. -/
  prepare : Except ε Request
  /-- What the create's reply amounts to. -/
  verdict : Reply → Except ε ι
  /-- The requests sent for an accepted create. -/
  followUp : ι → Request → Prop
  /-- The result of an accepted create, by the answers to the follow-ups. -/
  finish : ι → (ℕ → Reply) → Except ε α

/-- The runs of a plan: their results and conversations. -/
inductive Course {ι : Type} (plan : Plan ε ι α) (answers : ℕ → Reply) :
    Except ε α → List (Request × Reply) → Prop
  | unsent {error : ε} : plan.prepare = .error error → Course plan answers (.error error) []
  | unaccepted {request : Request} {error : ε} : plan.prepare = .ok request →
    plan.verdict (answers 0) = .error error →
    Course plan answers (.error error) [(request, answers 0)]
  | accepted {request : Request} {handle : ι} {rest : List (Request × Reply)} :
    plan.prepare = .ok request → plan.verdict (answers 0) = .ok handle →
    (∀ x ∈ rest, plan.followUp handle x.1) →
    Course plan answers (plan.finish handle fun i => answers (i + 1))
      ((request, answers 0) :: rest)

/-- A submit by the plan: a prepared create is sent once and its reply judged. -/
def Plan.submitted {σ ι : Type} (plan : Plan ε ι α) (reply : Reply) (w : World Request Reply σ) :
    Except ε ι × World Request Reply σ :=
  match plan.prepare with
  | .error error => (.error error, w)
  | .ok request => (plan.verdict reply, w.heard request reply)

theorem Plan.submitted_of_accepted {σ ι : Type} {plan : Plan ε ι α} {request : Request}
    {reply : Reply} {handle : ι} {w : World Request Reply σ}
    (prepared : plan.prepare = .ok request) (judged : plan.verdict reply = .ok handle) :
    plan.submitted reply w = (.ok handle, w.heard request reply) := by
  simp [Plan.submitted, prepared, judged]

/-- A program that submits and then finishes by the plan runs along it. -/
theorem Course.of_stages {σ ι : Type} (plan : Plan ε ι α) (submit : HttpProg σ ε ι)
    (finish : ι → HttpProg σ ε α) (s : σ)
    (submits : ∀ answers w, submit.run answers w = plan.submitted (answers w.asked) w)
    (followUps : ∀ handle, (finish handle).Asks (plan.followUp handle))
    (finishes : ∀ handle answers w, w.state = s →
      ((finish handle).run answers w).1 = plan.finish handle fun i => answers (w.asked + i))
    (answers : ℕ → Reply) :
    Course plan answers ((submit >>= finish).run answers (.start s)).1
      ((submit >>= finish).run answers (.start s)).2.log := by
  rw [Prog.run_bind, submits, Plan.submitted]
  cases prepared : plan.prepare with
  | error error => exact .unsent prepared
  | ok request =>
    simp only [World.start_asked]
    cases judged : plan.verdict (answers 0) with
    | error error => exact .unaccepted prepared judged
    | ok handle =>
      simp only
      obtain ⟨rest, log, sent⟩ :=
        followUps handle answers ((World.start s).heard request (answers 0))
      rw [log, finishes handle answers _ rfl]
      simp only [World.heard_asked, World.start_asked, Nat.zero_add, Nat.add_comm 1]
      exact .accepted prepared judged sent

/-- The obligations a plan has to meet to be sound, one for each stage. -/
structure Plan.Honest {ι : Type} (plan : Plan ε ι α) (reading : Reading ε) (idOf : ι → String) :
    Prop where
  create : ∀ request, plan.prepare = .ok request → reading.isCreate request
  followUp : ∀ handle request, plan.followUp handle request → reading.isCreate request = false
  refused : ∀ reply error, plan.verdict reply = .error error →
    reading.unconfirmed? error = none → reply.Rejects
  recovered : ∀ reply error id, plan.verdict reply = .error error →
    reading.acceptedId reply = some id →
    ∃ outcome, reading.unconfirmed? error = some outcome ∧ outcome.providerTxId = some id
  accepted : ∀ reply handle, plan.verdict reply = .ok handle →
    reading.acceptedId reply = some (idOf handle)
  finish : ∀ handle answers error, plan.finish handle answers = .error error →
    ∃ outcome, reading.unconfirmed? error = some outcome ∧
      outcome.providerTxId = some (idOf handle)

/-- The same obligations where an accepted create may come without a readable id. -/
structure Plan.Candid {ι : Type} (plan : Plan ε ι α) (reading : Reading ε)
    (idOf : ι → Option String) : Prop where
  create : ∀ request, plan.prepare = .ok request → reading.isCreate request
  followUp : ∀ handle request, plan.followUp handle request → reading.isCreate request = false
  refused : ∀ reply error, plan.verdict reply = .error error →
    reading.unconfirmed? error = none → reply.Rejects
  recovered : ∀ reply error id, plan.verdict reply = .error error →
    reading.acceptedId reply = some id →
    ∃ outcome, reading.unconfirmed? error = some outcome ∧ outcome.providerTxId = some id
  accepted : ∀ reply handle, plan.verdict reply = .ok handle →
    reading.acceptedId reply = idOf handle
  finish : ∀ handle answers error, plan.finish handle answers = .error error →
    ∃ outcome, reading.unconfirmed? error = some outcome ∧
      ∀ id, idOf handle = some id → outcome.providerTxId = some id

theorem Plan.Honest.candid {ι : Type} {plan : Plan ε ι α} {idOf : ι → String}
    (honest : plan.Honest reading idOf) : plan.Candid reading fun handle => some (idOf handle) where
  create := honest.create
  followUp := honest.followUp
  refused := honest.refused
  recovered := honest.recovered
  accepted := honest.accepted
  finish handle answers error failed := by
    obtain ⟨outcome, unconfirmed, named⟩ := honest.finish handle answers error failed
    exact ⟨outcome, unconfirmed, fun id same => named.trans same⟩

theorem Course.sound_of_candid {ι : Type} {plan : Plan ε ι α} {idOf : ι → Option String}
    {answers : ℕ → Reply} (course : Course plan answers result log)
    (candid : plan.Candid reading idOf) : Sound reading log result := by
  cases course with
  | unsent _ => exact .of_unsent (by simp [Unsent])
  | unaccepted prepared judged =>
    refine .of_create (candid.create _ prepared) (by simp [Unsent]) ?_ ?_
    · intro error failed plain
      cases failed
      exact candid.refused _ _ judged plain
    · intro id acceptedAs error failed
      cases failed
      exact candid.recovered _ _ _ judged acceptedAs
  | accepted prepared judged followUps =>
    refine .of_create (candid.create _ prepared)
      (fun x member => candid.followUp _ _ (followUps x member)) ?_ ?_
    · intro error failed plain
      obtain ⟨outcome, unconfirmed, -⟩ := candid.finish _ _ _ failed
      rw [plain] at unconfirmed
      cases unconfirmed
    · intro id acceptedAs error failed
      rw [candid.accepted _ _ judged] at acceptedAs
      obtain ⟨outcome, unconfirmed, named⟩ := candid.finish _ _ _ failed
      exact ⟨outcome, unconfirmed, named id acceptedAs⟩

theorem Course.sound {ι : Type} {plan : Plan ε ι α} {idOf : ι → String} {answers : ℕ → Reply}
    (course : Course plan answers result log) (honest : plan.Honest reading idOf) :
    Sound reading log result :=
  course.sound_of_candid honest.candid

/-- A run returns exactly when its create was accepted and finished with that
result. -/
theorem Course.eq_ok_iff {ι : Type} {plan : Plan ε ι α} {answers : ℕ → Reply} {a : α}
    (course : Course plan answers result log) :
    result = .ok a ↔ ∃ request handle, plan.prepare = .ok request ∧
      plan.verdict (answers 0) = .ok handle ∧
      plan.finish handle (fun i => answers (i + 1)) = .ok a := by
  constructor
  · intro returned
    cases course with
    | unsent _ => cases returned
    | unaccepted _ _ => cases returned
    | accepted prepared judged _ => exact ⟨_, _, prepared, judged, returned⟩
  · intro given
    rcases given with ⟨request, handle, prepared, judged, finished⟩
    cases course with
    | unsent unsent => cases unsent.symm.trans prepared
    | unaccepted _ refused => cases refused.symm.trans judged
    | accepted _ judged' _ =>
      cases judged'.symm.trans judged
      exact finished

/-- A run whose create was refused ends with the error of its verdict. -/
theorem Course.eq_error_of_refused {ι : Type} {plan : Plan ε ι α} {answers : ℕ → Reply}
    {request : Request} {error : ε} (course : Course plan answers result log)
    (prepared : plan.prepare = .ok request) (refused : plan.verdict (answers 0) = .error error) :
    result = .error error := by
  cases course with
  | unsent unsent => cases unsent.symm.trans prepared
  | unaccepted _ refused' =>
    cases refused'.symm.trans refused
    rfl
  | accepted _ accepted _ => cases accepted.symm.trans refused

/-- What the error of a refused create is like decides what the error of the run is
like. -/
theorem Course.fails_iff {ι : Type} {plan : Plan ε ι α} {answers : ℕ → Reply} {request : Request}
    {P : ε → Prop} {C : Prop} (course : Course plan answers result log)
    (prepared : plan.prepare = .ok request)
    (refused : ∃ error, plan.verdict (answers 0) = .error error ∧ (P error ↔ C)) :
    (∃ error, result = .error error ∧ P error) ↔ C := by
  obtain ⟨error, refused, like⟩ := refused
  rw [course.eq_error_of_refused prepared refused, ← like]
  constructor
  · intro given
    rcases given with ⟨same, failed, holds⟩
    cases failed
    exact holds
  · intro holds
    exact ⟨error, rfl, holds⟩

/-- A run that returns had its create accepted. -/
theorem Course.accepted_of_ok {ι : Type} {plan : Plan ε ι α} {idOf : ι → String}
    {answers : ℕ → Reply} {a : α} (course : Course plan answers result log)
    (honest : plan.Honest reading idOf) (returned : result = .ok a) :
    ∃ id, Accepted reading log id := by
  cases course with
  | unsent _ => cases returned
  | unaccepted _ _ => cases returned
  | @accepted request handle rest prepared judged _ =>
    exact ⟨idOf handle, _, List.mem_cons_self, honest.create _ prepared,
      honest.accepted _ _ judged⟩

/-! ## Idempotency keys -/

/-- An unconfirmed outcome names the key of its create: the key is present, and
the create, the first request of the run, was sent with it under this header. -/
def KeyCarried (unconfirmed? : ε → Option Outcome) (header : String)
    (log : List (Request × Reply)) (result : Except ε α) : Prop :=
  ∀ error outcome, result = .error error → unconfirmed? error = some outcome →
    ∃ key, outcome.idempotencyKey = some key ∧
      ∀ x, log.head? = some x → x.1.headers.lookup header = some key

/-- A plan whose create is sent under `key` and classified under it. -/
structure Plan.Keyed {ι : Type} (plan : Plan ε ι α) (unconfirmed? : ε → Option Outcome)
    (header key : String) : Prop where
  create : ∀ request, plan.prepare = .ok request → request.headers.lookup header = some key
  verdict : ∀ reply error outcome, plan.verdict reply = .error error →
    unconfirmed? error = some outcome → outcome.idempotencyKey = some key

/-- What is left to check of a keyed plan: the errors of a create that was not sent
and those of an accepted one. -/
theorem Course.keyCarried_iff {ι : Type} {plan : Plan ε ι α} {answers : ℕ → Reply}
    {unconfirmed? : ε → Option Outcome} {header key : String}
    (course : Course plan answers result log) (keyed : plan.Keyed unconfirmed? header key) :
    KeyCarried unconfirmed? header log result ↔
      (∀ error outcome, plan.prepare = .error error → unconfirmed? error = some outcome →
        outcome.idempotencyKey.isSome) ∧
      (∀ request handle, plan.prepare = .ok request → plan.verdict (answers 0) = .ok handle →
        ∀ error outcome, plan.finish handle (fun i => answers (i + 1)) = .error error →
          unconfirmed? error = some outcome → outcome.idempotencyKey = some key) := by
  cases course with
  | unsent failed =>
    refine ⟨fun carried => ⟨?_, ?_⟩, ?_⟩
    · intro error outcome prepared unconfirmed
      cases failed.symm.trans prepared
      obtain ⟨found, names, -⟩ := carried _ _ rfl unconfirmed
      simp [names]
    · intro request handle prepared
      cases failed.symm.trans prepared
    · intro conditions error outcome same unconfirmed
      cases same
      obtain ⟨found, names⟩ := Option.isSome_iff_exists.mp (conditions.1 _ _ failed unconfirmed)
      exact ⟨found, names, by simp⟩
  | unaccepted prepared refused =>
    refine ⟨fun _ => ⟨?_, ?_⟩, ?_⟩
    · intro error outcome failed
      cases prepared.symm.trans failed
    · intro request handle _ accepted
      cases refused.symm.trans accepted
    · intro _ error outcome same unconfirmed
      cases same
      refine ⟨key, keyed.verdict _ _ _ refused unconfirmed, ?_⟩
      intro x first
      cases first
      exact keyed.create _ prepared
  | accepted prepared accepted _ =>
    refine ⟨fun carried => ⟨?_, ?_⟩, ?_⟩
    · intro error outcome failed
      cases prepared.symm.trans failed
    · intro request handle prepared' accepted' error outcome failed unconfirmed
      cases accepted.symm.trans accepted'
      obtain ⟨found, names, sent⟩ := carried _ _ failed unconfirmed
      have create := (sent _ rfl).symm.trans (keyed.create _ prepared)
      rw [names, create]
    · intro conditions error outcome failed unconfirmed
      refine ⟨key, conditions.2 _ _ prepared accepted _ _ failed unconfirmed, ?_⟩
      intro x first
      cases first
      exact keyed.create _ prepared

end Keychain.Broadcast
