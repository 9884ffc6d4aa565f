import Keychain.Rust.Ledger.Claim
import Keychain.Rust.Ledger.Session

/-!
Callers that give up: the claim protocol of `Keychain.Rust.Ledger.Claim`, with what its
commands ask for and the session the device thread caches.

`request_on` promises that a request its caller abandoned costs the session, so that the
next command re-establishes it. The thread does not learn of the caller, and
`abandoned_drops_session_iff` says for exactly which device answers the promise is kept.
-/

namespace Keychain.Rust.Ledger

open Prog

/-! ## What a command leaves of the session -/

def DeviceCommand.kind : DeviceCommand → Claim.Kind
  | .connect _ => .connect
  | .signTransactionMessage _ => .signTransactionMessage
  | .signOffchainMessage _ _ _ => .signOffchainMessage
  | .isAvailable _ _ => .isAvailable
  | .isAttached => .isAttached

/-- The commands sent by `request_on`; the two probes wait for their reply themselves. -/
def DeviceCommand.usesRequestOn : DeviceCommand → Bool
  | .connect _ | .signTransactionMessage _ | .signOffchainMessage _ _ _ => true
  | .isAvailable _ _ | .isAttached => false

/-- No cached session answers the connect, and none of its attempts succeeds. -/
def Connect.Fails (command : Connect) (session : Option Session) (device : ℕ → Scene) : Prop :=
  let reuses := (command.reusable session).isSome
  let start := if reuses then 1 else 0
  let attempt i := establishSession command.hostDevicePath (device i)
  (reuses = true → (device 0).getPubkey.isOk = false) ∧
    (course command.autoOpenApp (attempt start)
      (ensureSolanaAppOpen command.hostDevicePath (device (start + 1)).dashboard)
      (fun i => attempt (start + 2 + i))).2.isOk = false

/-- The exchange fails for the device's sake. -/
def IsFault (failure : Option SignerError) : Prop :=
  ∃ e, failure = some e ∧ sessionAction e = .drop

/-- The command comes to talk to a device. -/
def DeviceCommand.reachesDevice [Crates] (command : DeviceCommand) : Bool :=
  command.pathStr.any fun pathStr => (Connect.parse pathStr).isOk

/-- The command fails in a way that costs the session: a connect altogether, and any
other command when it cannot establish a session or its exchange fails for the device's
sake. A command that does not come to the device leaves the session as it is. -/
def CostsSession [Crates] (session : Option Session) (device : ℕ → Turn)
    (command : DeviceCommand) : Prop :=
  if command.reachesDevice then
    match command with
    | .connect command => command.Fails session fun i => (device i).toScene
    | command =>
      match session.filter (·.hostDevicePath = command.hostDevicePath) with
      | some _ => IsFault (command.failure (device 0))
      | none =>
        (establishSession command.hostDevicePath (device 0).toScene).isOk = false ∨
          IsFault (command.failure (device 1))
  else
    session = none

section

variable {session : Option Session}

theorem settled_eq_none_iff {active : Session} {failure : Option SignerError} :
    settled active failure = none ↔ IsFault failure := by
  cases failure with
  | none => simp [settled, IsFault]
  | some e => simp [settled, IsFault]

theorem sessionCourse_eq_none_iff {hostDevicePath : Option String} {device : ℕ → Turn}
    {failure : Turn → Option SignerError} :
    (sessionCourse session hostDevicePath device failure).2 = none ↔
      match session.filter (·.hostDevicePath = hostDevicePath) with
      | some _ => IsFault (failure (device 0))
      | none =>
        (establishSession hostDevicePath (device 0).toScene).isOk = false ∨
          IsFault (failure (device 1)) := by
  unfold sessionCourse
  cases session.filter (·.hostDevicePath = hostDevicePath) with
  | some active => exact settled_eq_none_iff
  | none =>
    cases establishSession hostDevicePath (device 0).toScene with
    | error e => simp [Except.isOk, Except.toBool]
    | ok opened => simp [settled_eq_none_iff, Except.isOk, Except.toBool]

variable [Crates]

theorem DeviceCommand.validPath_of_reachesDevice {command : DeviceCommand}
    (reaches : command.reachesDevice = true) : command.ValidPath := by
  intro pathStr named
  simp only [reachesDevice, named, Option.any_some] at reaches
  cases parsed : Connect.parse pathStr with
  | ok path => exact ⟨path, rfl⟩
  | error e =>
    rw [parsed] at reaches
    cases reaches

/-- A connect replies with an error exactly when it fails. -/
theorem Connect.serve_isOk_iff {command : Connect} {path : DerivationPath} {device : ℕ → Scene}
    (valid : parse command.pathStr = .ok path) :
    (command.serve.run device (.start session)).1.isOk = false ↔
      command.Fails session device := by
  have mapped : ∀ outcome : Outcome, (outcome.map Prod.snd).isOk = outcome.isOk := by
    intro outcome
    cases outcome <;> rfl
  have both : command.serve.Meets device (.start session)
      (fun pubkey _ => (.ok pubkey : Except SignerError Pubkey).isOk = false ↔
        command.Fails session device)
      (fun e _ => (.error e : Except SignerError Pubkey).isOk = false ↔
        command.Fails session device) := by
    unfold serve
    rw [valid, ofExcept_ok_bind, meets_bind, meets_state, World.start_state]
    cases cached : command.reusable session with
    | none =>
      refine establish_meets (P := fun _ reply => reply.isOk = false ↔ _) rfl rfl
        (fun _ => rfl) ?_
      simp [mapped, Fails, cached]
    | some existing =>
      dsimp only
      rw [meets_bind, meets_ask, World.start_asked]
      cases read : (device 0).getPubkey with
      | ok pubkey => simp [Fails, cached, read, Except.isOk, Except.toBool]
      | error e =>
        refine establish_meets (P := fun _ reply => reply.isOk = false ↔ _) rfl rfl
          (fun _ => rfl) ?_
        rw [mapped]
        simp [Fails, cached, read, World.heard, World.asked, Except.isOk, Except.toBool]
  exact both.of_both (P := fun reply _ => reply.isOk = false ↔ _)

omit [Crates] in
/-- Some history tracks any session. -/
theorem exists_tracks : ∃ history, Tracks history session := by
  cases session with
  | none => exact ⟨[], tracks_none⟩
  | some s =>
    refine ⟨[.establish s.hostDevicePath (some s.wallet) (.error (.other ""))], ?_⟩
    intro s' cached
    cases cached
    rfl

omit [Crates] in
theorem isErr_pubkey_iff {result : Except SignerError Pubkey} :
    (Answer.pubkey result).isErr = true ↔ result.isOk = false := by
  cases result with
  | ok pubkey => simp [Answer.isErr, Except.isOk, Except.toBool]
  | error e => exact iff_of_true rfl rfl

theorem parse_error_of_not_reachesDevice {command : DeviceCommand} {pathStr : String}
    (unreached : command.reachesDevice = false) (named : command.pathStr = some pathStr) :
    ∃ e, Connect.parse pathStr = .error e := by
  simp only [DeviceCommand.reachesDevice, named, Option.any_some] at unreached
  cases parsed : Connect.parse pathStr with
  | ok path =>
    rw [parsed] at unreached
    cases unreached
  | error e => exact ⟨e, rfl⟩

theorem serveWithSession_of_unparsed {T : Type} {device : ℕ → Turn} {pathStr : String}
    {hostDevicePath : Option String} {call : LedgerWallet → DerivationPath → ThreadCall}
    {read : Turn → Except SignerError T} {answer : Except SignerError T → Answer}
    (unparsed : ∃ e, Connect.parse pathStr = .error e) :
    (serveWithSession session device pathStr hostDevicePath call read answer).session =
      session := by
  rcases unparsed with ⟨e, unparsed⟩
  simp [serveWithSession, withSession, unparsed, run_bind]

theorem serve_session_of_not_reachesDevice {device : ℕ → Turn} {command : DeviceCommand}
    (unreached : command.reachesDevice = false) :
    (serve session device command).session = session := by
  cases command with
  | connect command =>
    rcases parse_error_of_not_reachesDevice unreached rfl with ⟨e, unparsed⟩
    simp [serve, Connect.serve, unparsed, run_bind]
  | isAttached => rfl
  | signTransactionMessage command =>
    exact serveWithSession_of_unparsed (parse_error_of_not_reachesDevice unreached rfl)
  | signOffchainMessage pathStr message hostDevicePath =>
    exact serveWithSession_of_unparsed (parse_error_of_not_reachesDevice unreached rfl)
  | isAvailable pathStr hostDevicePath =>
    exact serveWithSession_of_unparsed (parse_error_of_not_reachesDevice unreached rfl)

/-- A command leaves no session exactly when it costs the one there was. -/
theorem serve_session_eq_none_iff {device : ℕ → Turn} {command : DeviceCommand} :
    (serve session device command).session = none ↔ CostsSession session device command := by
  unfold CostsSession
  cases reaches : command.reachesDevice with
  | true =>
    have valid := DeviceCommand.validPath_of_reachesDevice reaches
    have course : command.runsExchange = true → (serve session device command).session = _ :=
      fun exchanges => congrArg Prod.snd (serve_eq_course valid exchanges)
    simp only [if_true]
    cases command with
    | connect command =>
      have tracked : ∃ history, Tracks history session := exists_tracks
      rcases tracked with ⟨history, tracks⟩
      rcases valid command.pathStr rfl with ⟨path, parsed⟩
      have answered : (serve session device (.connect command)).answer =
          .pubkey (command.serve.run (fun i => (device i).toScene) (.start session)).1 := rfl
      rw [← (serve_connect_sound tracks valid).2, answered, isErr_pubkey_iff]
      exact Connect.serve_isOk_iff parsed
    | isAttached => cases reaches
    | signTransactionMessage command =>
      rw [course rfl]
      exact sessionCourse_eq_none_iff
    | signOffchainMessage pathStr message hostDevicePath =>
      rw [course rfl]
      exact sessionCourse_eq_none_iff
    | isAvailable pathStr hostDevicePath =>
      rw [course rfl]
      exact sessionCourse_eq_none_iff
  | false =>
    rw [serve_session_of_not_reachesDevice reaches]
    simp

end

/-! ## The protocol with its session -/

namespace Abandoned

open Transition

structure State where
  /-- The callers, the channel and the device claim. -/
  claims : Claim.State
  /-- What each command that was sent asks for. -/
  sent : ℕ → Option DeviceCommand
  /-- The session cached on the device thread. -/
  session : Option Session
  /-- The commands whose caller, in `request_on`, timed out before they were answered. -/
  abandoned : List ℕ
  /-- The command that was answered last. -/
  answered : Option ℕ

def initial : State where
  claims := Claim.initial
  sent _ := none
  session := none
  abandoned := []
  answered := none

inductive Event where
  | send (caller : ℕ) (command : DeviceCommand)
  /-- The thread does the work of its command, as the device lets it, and replies. -/
  | answer (device : ℕ → Turn)
  | timeout (caller : ℕ)
  /-- Any other step of a caller or of the device thread. -/
  | other (event : Claim.Event)

/-- The kind of command a caller is about to send. -/
def sending : Claim.Phase → Option Claim.Kind
  | .holding kind _ => some kind
  | .attaching => some .isAttached
  | .idle | .waiting _ => none

/-- The command a caller of `request_on` gives up on when its time is out. -/
def givenUp (s : State) (caller : ℕ) : List ℕ :=
  match s.claims.phase caller with
  | .waiting id =>
    if id ∉ s.claims.replies ∧ (s.sent id).any DeviceCommand.usesRequestOn then [id] else []
  | _ => []

def step [Crates] (s : State) : Event → Option State
  | .send caller command =>
    if sending (s.claims.phase caller) = some command.kind then
      (Claim.step s.claims (.send caller)).map fun claims =>
        { s with claims, sent := Function.update s.sent s.claims.nextCommand (some command) }
    else
      none
  | .answer device =>
    match s.claims.executing with
    | none => none
    | some current =>
      match s.sent current.id with
      | none => none
      | some command =>
        (Claim.step s.claims .reply).map fun claims =>
          { s with
            claims
            session := (serve s.session device command).session
            answered := some current.id }
  | .timeout caller =>
    (Claim.step s.claims (.timeout caller)).map fun claims =>
      { s with claims, abandoned := givenUp s caller ++ s.abandoned }
  | .other (.send _) | .other .reply | .other (.timeout _) => none
  | .other event => (Claim.step s.claims event).map fun claims => { s with claims }

/-- No session is left of a command that was answered after its caller gave up. It is
the session the thread finds when it has finished that command and dequeues the next. -/
def Dropped (s : State) : Prop :=
  ∀ id, s.answered = some id → id ∈ s.abandoned → s.session = none

/-- If the caller of the command being executed has given up, this answer costs the
session. -/
def AnswerCosts [Crates] (s : State) (device : ℕ → Turn) : Prop :=
  ∀ current command, s.claims.executing = some current → s.sent current.id = some command →
    current.id ∈ s.abandoned → CostsSession s.session device command

/-! ## One step -/

/-- What a step that answers nothing leaves: the session and the command answered last,
and it abandons only commands that are yet unanswered. -/
structure Kept (s t : State) : Prop where
  session : t.session = s.session
  answered : t.answered = s.answered
  replies : s.claims.replies ⊆ t.claims.replies
  abandoned : ∀ id ∈ t.abandoned, id ∈ s.abandoned ∨ id ∉ s.claims.replies

section

variable [Crates] {s t : State}

omit [Crates] in
theorem not_replied_of_givenUp {caller id : ℕ} (gaveUp : id ∈ givenUp s caller) :
    id ∉ s.claims.replies := by
  unfold givenUp at gaveUp
  split at gaveUp
  · split_ifs at gaveUp with unanswered
    · rw [List.mem_singleton.mp gaveUp]
      exact unanswered.1
    · cases gaveUp
  · cases gaveUp

omit [Crates] in
theorem kept_of_claims {claims : Claim.State} {event : Claim.Event}
    (sent : ℕ → Option DeviceCommand) (stepped : Claim.step s.claims event = some claims) :
    Kept s { s with claims, sent } where
  session := rfl
  answered := rfl
  replies := (Claim.moves_of_step stepped).replies_subset
  abandoned _ member := .inl member

theorem answered_of_step {device : ℕ → Turn} (stepped : step s (.answer device) = some t) :
    ∃ current command, s.claims.executing = some current ∧ s.sent current.id = some command ∧
      t.session = (serve s.session device command).session ∧ t.abandoned = s.abandoned ∧
      t.answered = some current.id ∧ current.id ∈ t.claims.replies := by
  simp only [step] at stepped
  split at stepped
  · cases stepped
  next current executing =>
    split at stepped
    · cases stepped
    next command asked =>
      rcases Option.map_eq_some_iff.mp stepped with ⟨claims, moved, rfl⟩
      refine ⟨current, command, executing, asked, rfl, rfl, rfl, ?_⟩
      cases Claim.moves_of_step moved with
      | replied current' =>
        cases executing.symm.trans current'
        exact List.mem_cons_self

theorem kept_of_step {event : Event} (stepped : step s event = some t)
    (silent : ∀ device, event ≠ .answer device) : Kept s t := by
  unfold step at stepped
  split at stepped
  · split_ifs at stepped
    rcases Option.map_eq_some_iff.mp stepped with ⟨claims, moved, rfl⟩
    exact kept_of_claims _ moved
  · exact absurd rfl (silent _)
  · rcases Option.map_eq_some_iff.mp stepped with ⟨claims, moved, rfl⟩
    refine ⟨rfl, rfl, (Claim.moves_of_step moved).replies_subset, ?_⟩
    intro id member
    rcases List.mem_append.mp member with gaveUp | already
    · exact .inr (not_replied_of_givenUp gaveUp)
    · exact .inl already
  · cases stepped
  · cases stepped
  · cases stepped
  · rcases Option.map_eq_some_iff.mp stepped with ⟨claims, moved, rfl⟩
    exact kept_of_claims _ moved

/-! ## Every run -/

/-- The command that was answered last is no longer given up on. -/
def Settled (s : State) : Prop :=
  Dropped s ∧ ∀ id, s.answered = some id → id ∈ s.claims.replies

theorem settled_step {event : Event} (settled : Settled s) (stepped : step s event = some t)
    (costs : ∀ device, event = .answer device → AnswerCosts s device) : Settled t := by
  by_cases answers : ∃ device, event = .answer device
  · rcases answers with ⟨device, rfl⟩
    rcases answered_of_step stepped with
      ⟨current, command, executing, asked, session, abandoned, answered, replied⟩
    constructor
    · intro id last gaveUp
      cases answered.symm.trans last
      rw [abandoned] at gaveUp
      rw [session]
      exact serve_session_eq_none_iff.mpr
        (costs device rfl current command executing asked gaveUp)
    · intro id last
      cases answered.symm.trans last
      exact replied
  · have kept := kept_of_step stepped fun device same => answers ⟨device, same⟩
    constructor
    · intro id last gaveUp
      rw [kept.answered] at last
      rw [kept.session]
      rcases kept.abandoned id gaveUp with already | unanswered
      · exact settled.1 id last already
      · exact absurd (settled.2 id last) unanswered
    · intro id last
      rw [kept.answered] at last
      exact kept.replies (settled.2 id last)

/-- An answer after which an abandoned command has left no session has cost it. -/
theorem answerCosts_of_dropped {device : ℕ → Turn} (stepped : step s (.answer device) = some t)
    (dropped : Dropped t) : AnswerCosts s device := by
  rcases answered_of_step stepped with
    ⟨current, command, executing, asked, session, abandoned, answered, -⟩
  intro current' command' executing' asked' gaveUp
  cases executing.symm.trans executing'
  cases asked.symm.trans asked'
  rw [← abandoned] at gaveUp
  exact serve_session_eq_none_iff.mp (session.symm.trans (dropped current.id answered gaveUp))

end

/-- An abandoned request leaves no session, all along a run, exactly when every answer to
one costs the session. -/
theorem abandoned_drops_session_iff [Crates] {events : List Event} {s : State}
    (ran : run step initial events = some s) :
    (∀ before after t, events = before ++ after → run step initial before = some t →
      Dropped t) ↔
    (∀ before device after t, events = before ++ .answer device :: after →
      run step initial before = some t → AnswerCosts t device) := by
  constructor
  · intro dropped before device after t split reached
    rw [split] at ran
    rcases step_of_run ran reached with ⟨u, stepped, next⟩
    exact answerCosts_of_dropped stepped (dropped _ after u (by simp [split]) next)
  · intro costs before after t split reached
    have settled : Settled t := by
      refine run_invariant_along ?_ ?_ reached
      · intro before' event after' u v split' reached' settled stepped
        refine settled_step settled stepped ?_
        intro device same
        refine costs before' device (after' ++ after) u ?_ reached'
        simp [split, split', same]
      · constructor
        · intro id last
          cases last
        · intro id last
          cases last
    exact settled.1

/-! ## A signature nobody waits for -/

section

local instance abandonedCrates : Crates :=
  .linked emptyDigest (fun _ => .error "expected ident") (fun _ => "null")

def defaultSignature : DeviceCommand := .signTransactionMessage ⟨"m/44'/501'/0'", [1], none⟩

/-- The user takes longer than the timeout, and approves. -/
def approvedLate : Turn := ⟨declinesOnce 1, .ok (List.replicate 64 3)⟩

/-- The Ledger is unplugged while it waits for its user. -/
def unplugged : Turn := ⟨declinesOnce 1, .error .noDeviceFound⟩

/-- A caller gives up on a signature, the thread finishes it and dequeues the next one. -/
def outlived (device : Turn) : List Event :=
  [.other (.acquire 0 .signTransactionMessage), .send 0 defaultSignature, .other .dequeue,
    .timeout 0, .answer fun _ => device, .other .finish,
    .other (.acquire 1 .signTransactionMessage), .send 1 defaultSignature, .other .dequeue]

/-- The unplugged Ledger costs the session, so the abandoned signature leaves none. -/
theorem unplugged_drops_session :
    ∃ s, run step initial (outlived unplugged) = some s ∧ s.abandoned = [0] ∧
      ∀ before after t, outlived unplugged = before ++ after →
        run step initial before = some t → Dropped t := by
  have ran : ∃ s, run step initial (outlived unplugged) = some s ∧ s.abandoned = [0] :=
    ⟨_, rfl, rfl⟩
  rcases ran with ⟨s, ran, gaveUp⟩
  refine ⟨s, ran, gaveUp, (abandoned_drops_session_iff ran).mpr ?_⟩
  intro before device after t split reached current command executing asked _
  have only : before = (outlived unplugged).take 4 ∧ device = fun _ => unplugged := by
    simp only [outlived, List.cons_eq_append_iff, List.cons.injEq, List.nil_eq,
      List.append_eq_nil_iff, Event.answer.injEq, reduceCtorEq, false_and, and_false,
      true_and, exists_const, ↓existsAndEq, or_self, or_false, false_or] at split
    exact ⟨split.1, split.2.1⟩
  rcases only with ⟨rfl, rfl⟩
  cases reached
  cases executing
  cases asked
  have reaches : defaultSignature.reachesDevice = true := by decide
  have fault : IsFault (defaultSignature.failure unplugged) := ⟨_, rfl, rfl⟩
  unfold CostsSession
  rw [if_pos reaches]
  exact .inr fault

/-- The late approval leaves its session, and the next command is served on it. -/
theorem approvedLate_keeps_session :
    (∃ s, run step initial (outlived approvedLate) = some s ∧ s.abandoned = [0] ∧
      s.answered = some 0 ∧ s.session = some probedSession) ∧
      ¬ ∀ events s, run step initial events = some s → Dropped s := by
  have kept : ∃ s, run step initial (outlived approvedLate) = some s ∧ s.abandoned = [0] ∧
      s.answered = some 0 ∧ s.session = some probedSession := by
    refine ⟨_, rfl, rfl, rfl, ?_⟩
    decide
  refine ⟨kept, ?_⟩
  intro always
  rcases kept with ⟨s, ran, gaveUp, answered, session⟩
  have dropped := always _ s ran 0 answered (by simp [gaveUp])
  rw [session] at dropped
  cases dropped

end

end Abandoned

end Keychain.Rust.Ledger
