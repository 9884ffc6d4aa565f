import Keychain.Wire

/-!
What the Crossmint ports have in common: the follow-up requests a created
transaction is driven with, and the loop that drives it.

A port drives a transaction in its own string type `S` and response type `R`. A
`Machine` is a driver without its loop: from the last response, and whether an
approval was submitted, it stops or sends one follow-up. `Machine.drive` is the
loop, for any way of sending a follow-up; with typed responses at hand, `course`
lists what the loop sends and how it ends.

Two machines agree on a run exactly when they coincide in every response the run
goes through (`course_agrees_iff`).
-/

namespace Keychain.Crossmint

open Prog

/-- The poll attempts of a signer that is configured without a number. -/
def defaultMaxPollAttempts : ℕ := 60

theorem defaultMaxPollAttempts_pos : 0 < defaultMaxPollAttempts := by decide

/-! ## Follow-ups -/

/-- A request about a transaction that was created before. An approval names the
locator it is submitted under and carries the bytes that were signed next to the
base58 text of their signature. -/
inductive FollowUp (S : Type) where
  | get (id : S)
  | approve (id signer : S) (signed : Bytes) (signature : S)
  deriving DecidableEq

namespace FollowUp

variable {S S' : Type}

/-- The transaction a follow-up is about. -/
def id : FollowUp S → S
  | get id => id
  | approve id _ _ _ => id

def isApproval : FollowUp S → Bool
  | get _ => false
  | approve _ _ _ _ => true

def map (f : S → S') : FollowUp S → FollowUp S'
  | get id => get (f id)
  | approve id signer signed signature => approve (f id) (f signer) signed (f signature)

@[simp] theorem map_id {followUp : FollowUp S} : followUp.map (fun s => s) = followUp := by
  cases followUp <;> rfl

@[simp] theorem isApproval_map {f : S → S'} {followUp : FollowUp S} :
    (followUp.map f).isApproval = followUp.isApproval := by
  cases followUp <;> rfl

end FollowUp

/-- The class of the result a drive ends with. -/
inductive Ending where
  /-- A response with status `success`. -/
  | success
  /-- A response with status `failed`. -/
  | failed
  /-- Awaiting approvals that are not ours to give. -/
  | awaitingApproval
  /-- The message to approve is missing or cannot be decoded. -/
  | unreadableMessage
  | timedOut
  deriving DecidableEq

/-! ## Drivers -/

/-- What a driver does about a response. -/
inductive Move (S E : Type) where
  | stop (result : E)
  | follow (followUp : FollowUp S)
  deriving DecidableEq

namespace Move

variable {S S' E E' : Type}

def map (f : S → S') (g : E → E') : Move S E → Move S' E'
  | stop result => stop (g result)
  | follow followUp => follow (followUp.map f)

end Move

/-- A driver: its move, and its verdict once the attempts are used up. Both know
whether an approval was submitted. -/
structure Machine (S R E : Type) where
  move : Bool → R → Move S E
  last : Bool → R → E

namespace Machine

variable {S S' R R' E E' Q A σ ε T : Type}

/-- A driver that reports its results in other terms. -/
def mapResult (h : E → E') (machine : Machine S R E) : Machine S R E' where
  move approved response := (machine.move approved response).map (fun s => s) h
  last approved response := h (machine.last approved response)

/-- The driving loop with its remaining attempts. -/
def drive (machine : Machine S R (Except ε T)) (send : FollowUp S → Prog Q A σ ε R) :
    ℕ → Bool → R → Prog Q A σ ε T
  | 0, approved, response => ofExcept (machine.last approved response)
  | attempts + 1, approved, response =>
    match machine.move approved response with
    | .stop result => ofExcept result
    | .follow followUp => do
      let response ← send followUp
      machine.drive send attempts (approved || followUp.isApproval) response

theorem drive_of_stop {machine : Machine S R (Except ε T)}
    {send : FollowUp S → Prog Q A σ ε R} {attempts : ℕ} {approved : Bool} {response : R}
    {result : Except ε T} (stops : machine.move approved response = .stop result) :
    machine.drive send (attempts + 1) approved response = ofExcept result := by
  rw [drive, stops]

theorem drive_of_follow {machine : Machine S R (Except ε T)}
    {send : FollowUp S → Prog Q A σ ε R} {attempts : ℕ} {approved : Bool} {response : R}
    {followUp : FollowUp S} (follows : machine.move approved response = .follow followUp) :
    machine.drive send (attempts + 1) approved response =
      send followUp >>=
        machine.drive send attempts (approved || followUp.isApproval) := by
  rw [drive, follows]

/-- What is sent and how it ends when the `n`-th follow-up is answered with
`answers n`. -/
def course (machine : Machine S R E) (answers : ℕ → R) :
    ℕ → Bool → R → ℕ → List (FollowUp S) × E
  | 0, approved, response, _ => ([], machine.last approved response)
  | attempts + 1, approved, response, n =>
    match machine.move approved response with
    | .stop result => ([], result)
    | .follow followUp =>
      let rest := machine.course answers attempts (approved || followUp.isApproval)
        (answers n) (n + 1)
      (followUp :: rest.1, rest.2)

/-- A drive over typed responses takes the course. -/
theorem drive_ask (machine : Machine S R (Except ε T)) (answers : ℕ → R) (attempts : ℕ)
    (approved : Bool) (response : R) (w : World (FollowUp S) R σ) :
    let course := machine.course answers attempts approved response w.asked
    let run := (machine.drive ask attempts approved response).run answers w
    run.1 = course.2 ∧ run.2.log.map Prod.fst = w.log.map Prod.fst ++ course.1 := by
  induction attempts generalizing approved response w with
  | zero => simp [drive, course]
  | succ attempts ih =>
    unfold drive course
    cases machine.move approved response with
    | stop result => simp
    | follow followUp =>
      have rest := ih (approved || followUp.isApproval) (answers w.asked)
        (w.heard followUp (answers w.asked))
      rw [World.heard_asked, World.heard_log, List.map_append] at rest
      simp only [run_bind, run_ask]
      refine ⟨rest.1, ?_⟩
      rw [rest.2]
      simp

/-! ## Agreement -/

variable (machine : Machine S R E) (machine' : Machine S' R' E')
variable (f : S → S') (g : R → R') (classify : E → Ending) (classify' : E' → Ending)

/-- The machines look the same at every response of a run. -/
def Coincides (answers : ℕ → R) : ℕ → Bool → R → ℕ → Prop
  | 0, approved, response, _ =>
    classify' (machine'.last approved (g response)) = classify (machine.last approved response)
  | attempts + 1, approved, response, n =>
    (machine'.move approved (g response)).map (fun s => s) classify' =
      (machine.move approved response).map f classify ∧
    ∀ followUp, machine.move approved response = .follow followUp →
      Coincides answers attempts (approved || followUp.isApproval) (answers n) (n + 1)

/-- The machines send the same follow-ups and end in the same class. -/
def Agrees (answers : ℕ → R) (attempts : ℕ) (approved : Bool) (response : R) (n : ℕ) : Prop :=
  let course := machine.course answers attempts approved response n
  let course' := machine'.course (g ∘ answers) attempts approved (g response) n
  course'.1 = course.1.map (FollowUp.map f) ∧ classify' course'.2 = classify course.2

variable {machine machine' f g classify classify'}

/-- A first difference is visible in what is sent or in how it ends. -/
theorem course_agrees_iff {answers : ℕ → R} {attempts n : ℕ} {approved : Bool} {response : R} :
    Agrees machine machine' f g classify classify' answers attempts approved response n ↔
      Coincides machine machine' f g classify classify' answers attempts approved response n := by
  induction attempts generalizing approved response n with
  | zero => simp [Agrees, Coincides, course]
  | succ attempts ih =>
    cases here : machine.move approved response with
    | stop result =>
      cases here' : machine'.move approved (g response) with
      | stop result' => simp [Agrees, Coincides, course, here, here', Move.map]
      | follow followUp' => simp [Agrees, Coincides, course, here, here', Move.map]
    | follow followUp =>
      cases here' : machine'.move approved (g response) with
      | stop result' => simp [Agrees, Coincides, course, here, here', Move.map]
      | follow followUp' =>
        simp only [Agrees, Coincides, course, here, here', Move.map, FollowUp.map_id,
          Move.follow.injEq, forall_eq', List.map_cons, List.cons.injEq, and_assoc]
        refine and_congr_right fun same => ?_
        rw [← ih, same, FollowUp.isApproval_map]
        rfl

end Machine

end Keychain.Crossmint
