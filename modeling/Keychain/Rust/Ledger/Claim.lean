import Keychain.Lib.Transition

/-!
The device claim of `ledger/mod.rs` as a transition system: any number of callers
acquire the claim, send it away inside a command and wait for a reply; the device
thread dequeues commands, replies to them and drops them.

`DEVICE_BUSY` is one flag, and a `DeviceClaim` is owned by whoever holds it: the
caller that acquired it, or the command it was moved into. `Custody` is the
invariant: the flag is set exactly while one claim is alive.
-/

namespace Keychain.Rust.Ledger.Claim

open Transition

/-! ## The system -/

inductive Kind where
  | connect
  | signTransactionMessage
  | signOffchainMessage
  | isAvailable
  | isAttached
  deriving DecidableEq

/-- A command in the channel or on the device thread. `IsAttached` carries no
claim. The `id` names the reply channel. -/
structure Command where
  id : ℕ
  kind : Kind
  claim : Option ℕ
  deriving DecidableEq

/-- Where a caller stands. -/
inductive Phase where
  | idle
  /-- Owns a claim and is about to send the command it goes into. -/
  | holding (kind : Kind) (claim : ℕ)
  /-- `is_attached` found the flag clear and is about to send its command. -/
  | attaching
  /-- Holds the receiver of the reply to a command. -/
  | waiting (command : ℕ)
  deriving DecidableEq

/-- The device thread and its receiver. A panic drops the command being executed,
then the receiver, then what is left in the channel. -/
inductive Actor where
  | serving
  | unwinding
  | gone
  deriving DecidableEq

structure State where
  /-- `DEVICE_BUSY` -/
  busy : Bool
  phase : ℕ → Phase
  queue : List Command
  executing : Option Command
  /-- Whether the command being executed has been replied to. -/
  replied : Bool
  actor : Actor
  /-- The commands whose reply has been sent. -/
  replies : List ℕ
  nextClaim : ℕ
  nextCommand : ℕ

def initial : State where
  busy := false
  phase _ := .idle
  queue := []
  executing := none
  replied := false
  actor := .serving
  replies := []
  nextClaim := 0
  nextCommand := 0

inductive Event where
  /-- `DeviceClaim::acquire`, or `try_acquire` for `IsAvailable`. -/
  | acquire (caller : ℕ) (kind : Kind)
  /-- `device_is_busy` of `is_attached`. -/
  | look (caller : ℕ)
  /-- `Sender::send`, which fails when the receiver is gone. -/
  | send (caller : ℕ)
  | receive (caller : ℕ)
  | timeout (caller : ℕ)
  | disconnect (caller : ℕ)
  | dequeue
  | reply
  | finish
  | panic
  | close
  | discard
  deriving DecidableEq

def setPhase (s : State) (caller : ℕ) (phase : Phase) : State :=
  { s with phase := Function.update s.phase caller phase }

/-- Dropping a command drops its claim, and `Drop` clears the flag. -/
def dropCommand (s : State) (command : Command) : State :=
  if command.claim.isSome then { s with busy := false } else s

/-- The commands in the channel or on the device thread. -/
def commands (s : State) : List Command := s.executing.toList ++ s.queue

/-- Put a command into the channel, or get it back and drop it. -/
def sendCommand (s : State) (caller : ℕ) (kind : Kind) (claim : Option ℕ) : State :=
  let command : Command := ⟨s.nextCommand, kind, claim⟩
  if s.actor = .gone then
    setPhase (dropCommand s command) caller .idle
  else
    setPhase { s with queue := s.queue ++ [command], nextCommand := s.nextCommand + 1 }
      caller (.waiting command.id)

/-- One step of a caller or of the device thread. -/
def step (s : State) : Event → Option State
  | .acquire caller kind =>
    if s.phase caller = .idle ∧ kind ≠ .isAttached then
      -- `compare_exchange(false, true)`; a caller that loses is told so.
      if s.busy then some s
      else some (setPhase { s with busy := true, nextClaim := s.nextClaim + 1 }
        caller (.holding kind s.nextClaim))
    else none
  | .look caller =>
    if s.phase caller = .idle then
      if s.busy then some s else some (setPhase s caller .attaching)
    else none
  | .send caller =>
    match s.phase caller with
    | .holding kind claim => some (sendCommand s caller kind (some claim))
    | .attaching => some (sendCommand s caller .isAttached none)
    | _ => none
  | .receive caller =>
    match s.phase caller with
    | .waiting command => if command ∈ s.replies then some (setPhase s caller .idle) else none
    | _ => none
  | .timeout caller =>
    match s.phase caller with
    | .waiting _ => some (setPhase s caller .idle)
    | _ => none
  | .disconnect caller =>
    match s.phase caller with
    | .waiting command =>
      if command ∉ s.replies ∧ command ∉ (commands s).map Command.id then
        some (setPhase s caller .idle)
      else none
    | _ => none
  | .dequeue =>
    match s.actor, s.executing, s.queue with
    | .serving, none, command :: queue =>
      some { s with executing := some command, replied := false, queue }
    | _, _, _ => none
  | .reply =>
    match s.executing with
    | some command =>
      if s.replied then none
      else some { s with replied := true, replies := command.id :: s.replies }
    | none => none
  | .finish =>
    match s.executing with
    | some command =>
      if s.replied then some (dropCommand { s with executing := none } command) else none
    | none => none
  | .panic =>
    match s.executing with
    | some command =>
      some (dropCommand { s with executing := none, actor := .unwinding } command)
    | none => none
  | .close => if s.actor = .unwinding then some { s with actor := .gone } else none
  | .discard =>
    match s.actor, s.queue with
    | .gone, command :: queue => some (dropCommand { s with queue } command)
    | _, _ => none

/-! ## What a step does -/

/-- The steps, one constructor for each way a step can go. -/
inductive Moves (s : State) : Event → State → Prop where
  | refused {caller : ℕ} {kind : Kind} (idle : s.phase caller = .idle) (busy : s.busy = true) :
      Moves s (.acquire caller kind) s
  | acquired {caller : ℕ} {kind : Kind} (idle : s.phase caller = .idle)
      (claimed : kind ≠ .isAttached) (clear : s.busy = false) :
      Moves s (.acquire caller kind)
        (setPhase { s with busy := true, nextClaim := s.nextClaim + 1 } caller
          (.holding kind s.nextClaim))
  | sawBusy {caller : ℕ} (idle : s.phase caller = .idle) (busy : s.busy = true) :
      Moves s (.look caller) s
  | sawClear {caller : ℕ} (idle : s.phase caller = .idle) (clear : s.busy = false) :
      Moves s (.look caller) (setPhase s caller .attaching)
  | sentClaim {caller : ℕ} {kind : Kind} {claim : ℕ} (held : s.phase caller = .holding kind claim) :
      Moves s (.send caller) (sendCommand s caller kind (some claim))
  | sentProbe {caller : ℕ} (held : s.phase caller = .attaching) :
      Moves s (.send caller) (sendCommand s caller .isAttached none)
  | received {caller command : ℕ} (waits : s.phase caller = .waiting command)
      (answered : command ∈ s.replies) : Moves s (.receive caller) (setPhase s caller .idle)
  | timedOut {caller command : ℕ} (waits : s.phase caller = .waiting command) :
      Moves s (.timeout caller) (setPhase s caller .idle)
  | disconnected {caller command : ℕ} (waits : s.phase caller = .waiting command) :
      Moves s (.disconnect caller) (setPhase s caller .idle)
  | dequeued {command : Command} {queue : List Command} (ready : s.executing = none)
      (queued : s.queue = command :: queue) :
      Moves s .dequeue { s with executing := some command, replied := false, queue }
  | replied {command : Command} (current : s.executing = some command) :
      Moves s .reply { s with replied := true, replies := command.id :: s.replies }
  | finished {command : Command} (current : s.executing = some command)
      (answered : s.replied = true) :
      Moves s .finish (dropCommand { s with executing := none } command)
  | panicked {command : Command} (current : s.executing = some command) :
      Moves s .panic (dropCommand { s with executing := none, actor := .unwinding } command)
  | closed (unwound : s.actor = .unwinding) : Moves s .close { s with actor := .gone }
  | discarded {command : Command} {queue : List Command} (gone : s.actor = .gone)
      (queued : s.queue = command :: queue) :
      Moves s .discard (dropCommand { s with queue } command)

theorem moves_of_step {s t : State} {e : Event} (stepped : step s e = some t) : Moves s e t := by
  cases e with
  | acquire caller kind =>
    simp only [step] at stepped
    split_ifs at stepped with ready busy
    · cases stepped
      exact .refused ready.1 busy
    · cases stepped
      exact .acquired ready.1 ready.2 (by simpa using busy)
  | look caller =>
    simp only [step] at stepped
    split_ifs at stepped with ready busy
    · cases stepped
      exact .sawBusy ready busy
    · cases stepped
      exact .sawClear ready (by simpa using busy)
  | send caller =>
    simp only [step] at stepped
    split at stepped
    · next held =>
      cases stepped
      exact .sentClaim held
    · next held =>
      cases stepped
      exact .sentProbe held
    · cases stepped
  | receive caller =>
    simp only [step] at stepped
    split at stepped
    · next waits =>
      split_ifs at stepped with answered
      cases stepped
      exact .received waits answered
    · cases stepped
  | timeout caller =>
    simp only [step] at stepped
    split at stepped
    · next waits =>
      cases stepped
      exact .timedOut waits
    · cases stepped
  | disconnect caller =>
    simp only [step] at stepped
    split at stepped
    · next waits =>
      split_ifs at stepped
      cases stepped
      exact .disconnected waits
    · cases stepped
  | dequeue =>
    simp only [step] at stepped
    split at stepped
    · next idle queued =>
      cases stepped
      exact .dequeued idle queued
    · cases stepped
  | reply =>
    simp only [step] at stepped
    split at stepped
    · next current =>
      split_ifs at stepped
      cases stepped
      exact .replied current
    · cases stepped
  | finish =>
    simp only [step] at stepped
    split at stepped
    · next current =>
      split_ifs at stepped with answered
      cases stepped
      exact .finished current answered
    · cases stepped
  | panic =>
    simp only [step] at stepped
    split at stepped
    · next current =>
      cases stepped
      exact .panicked current
    · cases stepped
  | close =>
    simp only [step] at stepped
    split_ifs at stepped with unwound
    cases stepped
    exact .closed unwound
  | discard =>
    simp only [step] at stepped
    split at stepped
    · next gone queued =>
      cases stepped
      exact .discarded gone queued
    · cases stepped

/-- A reply that was sent stays sent. -/
theorem Moves.replies_subset {s t : State} {e : Event} (moves : Moves s e t) :
    s.replies ⊆ t.replies := by
  have dropped : ∀ (s : State) (command : Command), (dropCommand s command).replies = s.replies :=
    fun s command => by unfold dropCommand; split <;> rfl
  have sent : ∀ (caller : ℕ) (kind : Kind) (claim : Option ℕ),
      (sendCommand s caller kind claim).replies = s.replies := by
    intro caller kind claim
    unfold sendCommand
    dsimp only
    split
    · exact dropped _ _
    · rfl
  cases moves with
  | replied current => exact List.subset_cons_self _ _
  | sentClaim held => rw [sent]; exact List.Subset.refl _
  | sentProbe held => rw [sent]; exact List.Subset.refl _
  | finished current answered => rw [dropped]; exact List.Subset.refl _
  | panicked current => rw [dropped]; exact List.Subset.refl _
  | discarded gone queued => rw [dropped]; exact List.Subset.refl _
  | _ => exact List.Subset.refl _

/-! ## Custody of the claim -/

/-- The claims inside commands. -/
def claims (s : State) : List ℕ := (commands s).filterMap Command.claim

/-- A claim that has been acquired and not dropped. -/
def Live (s : State) (claim : ℕ) : Prop :=
  (∃ caller kind, s.phase caller = .holding kind claim) ∨ claim ∈ claims s

def NoneHolds (phase : ℕ → Phase) : Prop := ∀ caller kind claim, phase caller ≠ .holding kind claim

/-- Who owns the claim: nobody, one caller, or one command. -/
inductive Custody (s : State) : Prop where
  | free (clear : s.busy = false) (callers : NoneHolds s.phase) (inCommands : claims s = [])
  | caller (caller : ℕ) (kind : Kind) (claim : ℕ) (set : s.busy = true)
      (held : s.phase caller = .holding kind claim)
      (alone : ∀ other kind claim, s.phase other = .holding kind claim → other = caller)
      (inCommands : claims s = [])
  | command (claim : ℕ) (set : s.busy = true) (callers : NoneHolds s.phase)
      (inCommands : claims s = [claim])

section

variable {s t : State} {caller : ℕ} {phase : Phase} {command : Command}

@[simp] theorem setPhase_busy : (setPhase s caller phase).busy = s.busy := rfl

@[simp] theorem claims_setPhase : claims (setPhase s caller phase) = claims s := rfl

theorem claims_dropCommand : claims (dropCommand s command) = claims s := by
  unfold dropCommand
  split <;> rfl

@[simp] theorem dropCommand_phase : (dropCommand s command).phase = s.phase := by
  unfold dropCommand
  split <;> rfl

/-- A phase other than `holding` owns nothing. -/
def Phase.owns : Phase → Bool
  | .holding _ _ => true
  | _ => false

theorem holding_setPhase {other : ℕ} {kind : Kind} {claim : ℕ} (empty : phase.owns = false) :
    (setPhase s caller phase).phase other = .holding kind claim ↔
      other ≠ caller ∧ s.phase other = .holding kind claim := by
  by_cases same : other = caller
  · subst same
    simp only [setPhase, Function.update_self, ne_eq, not_true_eq_false, false_and, iff_false]
    intro same
    subst same
    cases empty
  · simp [setPhase, same]

/-- A caller that owns nothing may move on. -/
theorem custody_setPhase (custody : Custody s) (before : (s.phase caller).owns = false)
    (after : phase.owns = false) : Custody (setPhase s caller phase) := by
  have noneHolds : NoneHolds s.phase → NoneHolds (setPhase s caller phase).phase := by
    intro callers other kind claim held
    exact callers other kind claim ((holding_setPhase after).mp held).2
  cases custody with
  | free clear callers inCommands => exact .free clear (noneHolds callers) inCommands
  | command claim set callers inCommands => exact .command claim set (noneHolds callers) inCommands
  | caller holder kind claim set held alone inCommands =>
    have distinct : holder ≠ caller := by
      intro same
      subst same
      rw [held] at before
      cases before
    have stillHeld := (holding_setPhase after).mpr ⟨distinct, held⟩
    refine .caller holder kind claim set stillHeld ?_ inCommands
    intro other kind' claim' held'
    exact alone other kind' claim' ((holding_setPhase after).mp held').2

/-- Custody rests on the flag, the callers and the claims inside commands. -/
theorem custody_congr (custody : Custody s) (busy : t.busy = s.busy) (phases : t.phase = s.phase)
    (same : (claims s).Perm (claims t)) : Custody t := by
  cases custody with
  | free clear callers inCommands =>
    rw [inCommands] at same
    exact .free (busy.trans clear) (phases ▸ callers) same.symm.eq_nil
  | caller holder kind claim set held alone inCommands =>
    rw [inCommands] at same
    exact .caller holder kind claim (busy.trans set) (phases ▸ held) (phases ▸ alone)
      same.symm.eq_nil
  | command claim set callers inCommands =>
    rw [inCommands] at same
    exact .command claim (busy.trans set) (phases ▸ callers) (List.perm_singleton.mp same.symm)

/-- Dropping a command releases the claim it carries, and nothing else. -/
theorem custody_dropCommand (custody : Custody s) (busy : t.busy = s.busy)
    (phases : t.phase = s.phase) (split : (claims s).Perm (command.claim.toList ++ claims t)) :
    Custody (dropCommand t command) := by
  cases carried : command.claim with
  | none =>
    have same : dropCommand t command = t := by simp [dropCommand, carried]
    rw [same]
    exact custody_congr custody busy phases (by simpa [carried] using split)
  | some claim =>
    simp only [carried, Option.toList_some, List.singleton_append] at split
    have released : dropCommand t command = { t with busy := false } := by
      simp [dropCommand, carried]
    have kept : claims { t with busy := false } = claims t := rfl
    rw [released]
    cases custody with
    | free clear callers inCommands =>
      rw [inCommands] at split
      simpa using split.symm.eq_nil
    | caller holder kind claim' set held alone inCommands =>
      rw [inCommands] at split
      simpa using split.symm.eq_nil
    | command claim' set callers inCommands =>
      rw [inCommands] at split
      have rest : claims t = [] := by
        have lengths := split.length_eq
        simpa using lengths
      exact .free rfl (phases ▸ callers) (kept.trans rest)

/-- Sending moves the claim from the caller into the command. -/
theorem custody_send_claim {kind : Kind} {claim : ℕ} (custody : Custody s)
    (held : s.phase caller = .holding kind claim) :
    Custody (sendCommand s caller kind (some claim)) := by
  cases custody with
  | free _ callers _ => exact absurd held (callers caller kind claim)
  | command _ _ callers _ => exact absurd held (callers caller kind claim)
  | caller holder kind' claim' set held' alone inCommands =>
    have same := alone caller kind claim held
    subst same
    have nobody : ∀ (u : State) (next : Phase), u.phase = s.phase → next.owns = false →
        NoneHolds (setPhase u caller next).phase := by
      intro u next phases empty other kind claim held
      rcases (holding_setPhase empty).mp held with ⟨distinct, held⟩
      exact distinct (alone other kind claim (phases ▸ held))
    unfold sendCommand
    by_cases closed : s.actor = .gone
    · simp only [closed, if_true]
      refine .free ?_ (nobody _ _ dropCommand_phase rfl) ?_
      · simp [dropCommand]
      · rw [claims_setPhase, claims_dropCommand, inCommands]
    · simp only [closed, if_false]
      refine .command claim set (nobody _ _ rfl rfl) ?_
      have sent : claims { s with
          queue := s.queue ++ [⟨s.nextCommand, kind, some claim⟩],
          nextCommand := s.nextCommand + 1 } = claims s ++ [claim] := by
        simp [claims, commands]
      rw [claims_setPhase, sent, inCommands]
      rfl

/-- A probe adds no claim. -/
theorem custody_send_probe (custody : Custody s) (held : s.phase caller = .attaching) :
    Custody (sendCommand s caller .isAttached none) := by
  have before : (s.phase caller).owns = false := by rw [held]; rfl
  unfold sendCommand
  by_cases closed : s.actor = .gone
  · simp only [closed, if_true]
    have kept : Custody (dropCommand s ⟨s.nextCommand, .isAttached, none⟩) :=
      custody_dropCommand custody rfl rfl (by simp)
    exact custody_setPhase kept (by simpa using before) rfl
  · simp only [closed, if_false]
    refine custody_setPhase (custody_congr custody rfl rfl ?_) before rfl
    simp [claims, commands]

/-- A step that takes the claim from nobody. -/
theorem custody_acquire {kind : Kind} (custody : Custody s) (clear : s.busy = false) :
    Custody (setPhase { s with busy := true, nextClaim := s.nextClaim + 1 } caller
      (.holding kind s.nextClaim)) := by
  cases custody with
  | caller _ _ _ set _ _ _ => simp [set] at clear
  | command _ set _ _ => simp [set] at clear
  | free _ callers inCommands =>
    refine .caller caller kind s.nextClaim rfl (by simp [setPhase]) ?_ inCommands
    intro other kind' claim' held
    by_cases same : other = caller
    · exact same
    · simp only [setPhase, Function.update_of_ne same] at held
      exact absurd held (callers other kind' claim')

theorem claims_cons {rest : List Command} :
    (command :: rest).filterMap Command.claim =
      command.claim.toList ++ rest.filterMap Command.claim := by
  cases carried : command.claim <;> simp [carried]

/-- The claims of a state, with those of the command being executed apart. -/
theorem claims_of_executing (current : s.executing = some command) :
    claims s = command.claim.toList ++ s.queue.filterMap Command.claim := by
  rw [claims, commands, current]
  exact claims_cons

/-- Every step keeps the claim in one hand. -/
theorem custody_step {e : Event} (custody : Custody s) (stepped : step s e = some t) :
    Custody t := by
  cases moves_of_step stepped with
  | refused _ _ => exact custody
  | acquired _ _ clear => exact custody_acquire custody clear
  | sawBusy _ _ => exact custody
  | sawClear idle _ => exact custody_setPhase custody (by rw [idle]; rfl) rfl
  | sentClaim held => exact custody_send_claim custody held
  | sentProbe held => exact custody_send_probe custody held
  | received waits _ => exact custody_setPhase custody (by rw [waits]; rfl) rfl
  | timedOut waits => exact custody_setPhase custody (by rw [waits]; rfl) rfl
  | disconnected waits => exact custody_setPhase custody (by rw [waits]; rfl) rfl
  | dequeued ready queued =>
    refine custody_congr custody rfl rfl ?_
    simp [claims, commands, ready, queued]
  | replied _ => exact custody_congr custody rfl rfl (List.Perm.refl _)
  | finished current _ =>
    refine custody_dropCommand custody rfl rfl ?_
    rw [claims_of_executing current]
    exact List.Perm.refl _
  | panicked current =>
    refine custody_dropCommand custody rfl rfl ?_
    rw [claims_of_executing current]
    exact List.Perm.refl _
  | closed _ => exact custody_congr custody rfl rfl (List.Perm.refl _)
  | discarded _ queued =>
    refine custody_dropCommand custody rfl rfl ?_
    rw [claims, commands, queued, claims, commands, ← claims_cons]
    exact List.perm_middle.filterMap _

theorem custody_initial : Custody initial :=
  .free rfl (fun _ _ _ held => by cases held) rfl

/-- In every reachable state the claim is in one hand. -/
theorem custody_run {events : List Event} (ran : run step initial events = some s) : Custody s :=
  run_invariant (fun _ => True) (fun _ _ _ _ custody stepped => custody_step custody stepped)
    custody_initial (fun _ _ => trivial) ran

/-! ## The protocol -/

/-- No two claims exist, wherever they are. -/
structure AtMostOneClaim (s : State) : Prop where
  callers : ∀ i j kind kind' claim claim', s.phase i = .holding kind claim →
    s.phase j = .holding kind' claim' → i = j
  apart : ∀ i kind claim, s.phase i = .holding kind claim → claims s = []
  inCommands : (claims s).length ≤ 1

/-- The commands a step drops. -/
def dropped (s : State) : Event → List Command
  | .send caller =>
    match s.phase caller with
    | .holding kind claim =>
      if s.actor = .gone then [⟨s.nextCommand, kind, some claim⟩] else []
    | .attaching => if s.actor = .gone then [⟨s.nextCommand, .isAttached, none⟩] else []
    | _ => []
  | .finish | .panic => s.executing.toList
  | .discard => s.queue.head?.toList
  | _ => []

theorem Custody.busy_iff (custody : Custody s) : s.busy = true ↔ ∃ claim, Live s claim := by
  cases custody with
  | free clear callers inCommands =>
    simp only [clear, Bool.false_eq_true, false_iff]
    intro live
    rcases live with ⟨claim, ⟨i, kind, held⟩ | inside⟩
    · exact callers i kind claim held
    · simp [inCommands] at inside
  | caller holder kind claim set held _ _ =>
    exact iff_of_true set ⟨claim, .inl ⟨holder, kind, held⟩⟩
  | command claim set _ inCommands => exact iff_of_true set ⟨claim, .inr (by simp [inCommands])⟩

theorem Custody.atMostOneClaim (custody : Custody s) : AtMostOneClaim s := by
  cases custody with
  | free _ callers inCommands =>
    exact ⟨fun i _ kind _ claim _ held => absurd held (callers i kind claim),
      fun i kind claim held => absurd held (callers i kind claim), by simp [inCommands]⟩
  | command _ _ callers inCommands =>
    exact ⟨fun i _ kind _ claim _ held => absurd held (callers i kind claim),
      fun i kind claim held => absurd held (callers i kind claim), by simp [inCommands]⟩
  | caller holder _ _ _ _ alone inCommands =>
    refine ⟨fun i j kind kind' claim claim' held held' => ?_, fun _ _ _ _ => inCommands,
      by simp [inCommands]⟩
    exact (alone i kind claim held).trans (alone j kind' claim' held').symm

/-- Counting claim-carrying commands is counting the claims inside commands. -/
theorem length_filter_claim {list : List Command} :
    (list.filter fun command => command.claim.isSome).length =
      (list.filterMap Command.claim).length := by
  induction list with
  | nil => rfl
  | cons command rest ih => cases carried : command.claim <;> simp [carried, ih]

theorem dropCommand_eq :
    dropCommand s command = { s with busy := s.busy && command.claim.isNone } := by
  unfold dropCommand
  cases command.claim <;> simp

theorem dropCommand_busy : (dropCommand s command).busy = (s.busy && command.claim.isNone) := by
  rw [dropCommand_eq]

/-- A timeout leaves the flag as it was. -/
theorem timeout_busy (stepped : step s (.timeout caller) = some t) : t.busy = s.busy := by
  cases moves_of_step stepped with
  | timedOut _ => rfl

/-- The flag is cleared by dropping a command that carries a live claim. -/
theorem dropped_of_cleared {e : Event} (stepped : step s e = some t) (set : s.busy = true)
    (cleared : t.busy = false) :
    ∃ command ∈ dropped s e, ∃ claim, command.claim = some claim ∧ Live s claim := by
  have carrier : ∀ (u : State) (command : Command), u.busy = true →
      (dropCommand u command).busy = false → ∃ claim, command.claim = some claim := by
    intro u command set cleared
    rw [dropCommand_busy, set, Bool.true_and] at cleared
    cases carried : command.claim with
    | none => simp [carried] at cleared
    | some claim => exact ⟨claim, rfl⟩
  have inside : ∀ (command : Command) (claim : ℕ), command ∈ commands s →
      command.claim = some claim → Live s claim :=
    fun command claim member carried => .inr (List.mem_filterMap.mpr ⟨command, member, carried⟩)
  cases moves_of_step stepped with
  | refused _ _ => simp [set] at cleared
  | acquired _ _ clear => simp [set] at clear
  | sawBusy _ _ => simp [set] at cleared
  | sawClear _ clear => simp [set] at clear
  | @sentClaim caller kind claim held =>
    by_cases closed : s.actor = .gone
    · refine ⟨⟨s.nextCommand, kind, some claim⟩, ?_, claim, rfl, .inl ⟨caller, kind, held⟩⟩
      simp [dropped, held, closed]
    · simp [sendCommand, closed, set] at cleared
  | sentProbe _ =>
    unfold sendCommand at cleared
    split at cleared
    · simp [dropCommand_busy, set] at cleared
    · simp [set] at cleared
  | received _ _ => simp [set] at cleared
  | timedOut _ => simp [set] at cleared
  | disconnected _ => simp [set] at cleared
  | dequeued _ _ => simp [set] at cleared
  | replied _ => simp [set] at cleared
  | @finished command current _ =>
    rcases carrier _ command (by exact set) cleared with ⟨claim, carried⟩
    exact ⟨command, by simp [dropped, current], claim, carried,
      inside command claim (by simp [commands, current]) carried⟩
  | @panicked command current =>
    rcases carrier _ command (by exact set) cleared with ⟨claim, carried⟩
    exact ⟨command, by simp [dropped, current], claim, carried,
      inside command claim (by simp [commands, current]) carried⟩
  | closed _ => simp [set] at cleared
  | @discarded command queue _ queued =>
    rcases carrier _ command (by exact set) cleared with ⟨claim, carried⟩
    exact ⟨command, by simp [dropped, queued], claim, carried,
      inside command claim (by simp [commands, queued]) carried⟩

/-- The claim protocol, over every interleaving of callers and device thread: the
flag is set exactly while a claim is alive, there is never a second claim nor a
second claim-carrying command, a timeout leaves the flag as it was, and only
dropping the command that owns the claim clears it. -/
theorem claim_protocol {events : List Event} {s : State}
    (ran : run step initial events = some s) :
    (s.busy = true ↔ ∃ claim, Live s claim) ∧
    AtMostOneClaim s ∧
    ((commands s).filter fun command => command.claim.isSome).length ≤ 1 ∧
    (∀ caller t, step s (.timeout caller) = some t → t.busy = s.busy) ∧
    (∀ e t, step s e = some t → s.busy = true → t.busy = false →
      ∃ command ∈ dropped s e, ∃ claim, command.claim = some claim ∧ Live s claim) := by
  have custody := custody_run ran
  have one := custody.atMostOneClaim
  refine ⟨custody.busy_iff, one, ?_, fun _ _ => timeout_busy, fun _ _ => dropped_of_cleared⟩
  rw [length_filter_claim]
  exact one.inCommands

/-- A caller that timed out leaves its claim in the channel. -/
theorem claim_protocol_after_timeout :
    ∃ s, run step initial [.acquire 0 .connect, .send 0, .timeout 0] = some s ∧
      (s.busy = true ↔ ∃ claim, Live s claim) ∧ AtMostOneClaim s := by
  have ran : ∃ s, run step initial [.acquire 0 .connect, .send 0, .timeout 0] = some s := ⟨_, rfl⟩
  rcases ran with ⟨s, ran⟩
  exact ⟨s, ran, (claim_protocol ran).1, (claim_protocol ran).2.1⟩

/-! ## A sequential user -/

/-- The steps of one caller that issues its commands one after the other, and of
the device thread that serves them. -/
def Event.sequential : Event → Bool
  | .acquire caller kind => caller == 0 &&
      [.connect, .signTransactionMessage, .signOffchainMessage].contains kind
  | .send caller | .receive caller => caller == 0
  | .dequeue | .reply | .finish => true
  | _ => false

/-- What holds along a sequential user's runs. -/
structure Sequential (s : State) : Prop where
  custody : Custody s
  serving : s.actor = .serving
  others : ∀ caller, caller ≠ 0 → s.phase caller = .idle
  claiming : s.phase 0 ≠ .attaching
  carried : ∀ command ∈ commands s, command.claim.isSome = true
  /-- A queued command is the one the caller waits for, and is unanswered. -/
  awaited : ∀ command ∈ s.queue, s.phase 0 = .waiting command.id ∧ command.id ∉ s.replies
  known : ∀ id ∈ s.replies, id < s.nextCommand
  numbered : ∀ command ∈ commands s, command.id < s.nextCommand

theorem sequential_initial : Sequential initial where
  custody := custody_initial
  serving := rfl
  others _ _ := rfl
  claiming := by simp [initial]
  carried := by simp [commands, initial]
  awaited := by simp [initial]
  known := by simp [initial]
  numbered := by simp [commands, initial]

/-- At most one command is in the channel or on the device thread. -/
theorem Sequential.length_commands_le (sequential : Sequential s) : (commands s).length ≤ 1 := by
  have all : (commands s).filter (fun command => command.claim.isSome) = commands s :=
    List.filter_eq_self.mpr sequential.carried
  have counted : ((commands s).filter fun command => command.claim.isSome).length =
      (claims s).length := length_filter_claim
  rw [all] at counted
  rw [counted]
  exact sequential.custody.atMostOneClaim.inCommands

/-- While a command is executed the channel is empty. -/
theorem Sequential.queue_eq_nil (sequential : Sequential s) (current : s.executing = some command) :
    s.queue = [] := by
  have few := sequential.length_commands_le
  simp only [commands, current, Option.toList_some, List.length_append, List.length_singleton]
    at few
  exact List.length_eq_zero_iff.mp (by omega)

/-- A caller that waits for nothing new has nothing in the channel. -/
theorem Sequential.queue_eq_nil_of_awake (sequential : Sequential s)
    (awake : ∀ id, s.phase 0 = .waiting id → id ∈ s.replies) : s.queue = [] := by
  refine List.eq_nil_iff_forall_not_mem.mpr fun command member => ?_
  have awaited := sequential.awaited command member
  exact awaited.2 (awake command.id awaited.1)

/-- Between two commands of a sequential user the flag says whether the device
thread still has the last one in hand. -/
theorem Sequential.busy_iff (sequential : Sequential s) (idle : s.phase 0 = .idle) :
    s.busy = false ↔ s.executing = none := by
  have empty := sequential.queue_eq_nil_of_awake (by simp [idle])
  have nobody : NoneHolds s.phase := by
    intro caller kind claim held
    by_cases first : caller = 0
    · rw [first, idle] at held
      cases held
    · rw [sequential.others caller first] at held
      cases held
  cases current : s.executing with
  | none =>
    have none_left : claims s = [] := by simp [claims, commands, current, empty]
    cases sequential.custody with
    | free clear _ _ => simp [clear]
    | caller holder kind claim _ held _ _ => exact absurd held (nobody holder kind claim)
    | command claim _ _ inCommands => simp [none_left] at inCommands
  | some command =>
    have held := sequential.carried command (by simp [commands, current])
    rcases Option.isSome_iff_exists.mp held with ⟨claim, carries⟩
    have live : ∃ claim, Live s claim :=
      ⟨claim, .inr (List.mem_filterMap.mpr ⟨command, by simp [commands, current], carries⟩)⟩
    have set := sequential.custody.busy_iff.mpr live
    simp [set]

theorem Sequential.others_setPhase (sequential : Sequential s) {u : State} {next : Phase}
    {caller : ℕ} (phases : u.phase = s.phase) (distinct : caller ≠ 0) :
    (setPhase u 0 next).phase caller = .idle := by
  simp only [setPhase, Function.update_of_ne distinct, phases]
  exact sequential.others caller distinct

/-- The caller takes the claim, or is done with its command. -/
theorem Sequential.rephased (sequential : Sequential s) (empty : s.queue = []) {busy : Bool}
    {nextClaim : ℕ} {next : Phase} (claiming : next ≠ .attaching)
    (custody : Custody (setPhase { s with busy, nextClaim } 0 next)) :
    Sequential (setPhase { s with busy, nextClaim } 0 next) where
  custody := custody
  serving := sequential.serving
  others _ distinct := sequential.others_setPhase rfl distinct
  claiming := by simpa [setPhase] using claiming
  carried := sequential.carried
  awaited := by simp [setPhase, empty]
  known := sequential.known
  numbered := sequential.numbered

/-- The caller sends its claim away inside a command. -/
theorem Sequential.sent (sequential : Sequential s) (empty : s.queue = []) {kind : Kind}
    {claim : ℕ} (custody : Custody (sendCommand s 0 kind (some claim))) :
    Sequential (sendCommand s 0 kind (some claim)) := by
  have queued : sendCommand s 0 kind (some claim) =
      setPhase { s with
        queue := [⟨s.nextCommand, kind, some claim⟩],
        nextCommand := s.nextCommand + 1 } 0 (.waiting s.nextCommand) := by
    simp [sendCommand, sequential.serving, empty]
  rw [queued] at custody ⊢
  have spent : s.nextCommand ∉ s.replies := by
    intro member
    have early := sequential.known _ member
    omega
  refine {
    custody
    serving := sequential.serving
    others := fun caller distinct => sequential.others_setPhase rfl distinct
    claiming := by simp [setPhase]
    carried := ?_
    awaited := ?_
    known := fun id member => Nat.lt_succ_of_lt (sequential.known id member)
    numbered := ?_ }
  · intro command member
    rcases List.mem_append.mp member with current | fresh
    · exact sequential.carried command (List.mem_append_left _ current)
    · rw [List.mem_singleton.mp fresh]
      rfl
  · intro command fresh
    rw [List.mem_singleton.mp fresh]
    exact ⟨by simp [setPhase], spent⟩
  · intro command member
    rcases List.mem_append.mp member with current | fresh
    · exact Nat.lt_succ_of_lt (sequential.numbered command (List.mem_append_left _ current))
    · rw [List.mem_singleton.mp fresh]
      exact Nat.lt_succ_self _

theorem sequential_step {e : Event} (allowed : e.sequential = true) (sequential : Sequential s)
    (stepped : step s e = some t) : Sequential t := by
  have custody := custody_step sequential.custody stepped
  cases moves_of_step stepped with
  | refused _ _ => exact sequential
  | @acquired caller kind idle _ _ =>
    have first : caller = 0 := by
      simp only [Event.sequential, Bool.and_eq_true, beq_iff_eq] at allowed
      exact allowed.1
    subst first
    have empty := sequential.queue_eq_nil_of_awake (by simp [idle])
    exact sequential.rephased empty (by simp) custody
  | sawBusy _ _ => cases allowed
  | sawClear _ _ => cases allowed
  | @sentClaim caller kind claim held =>
    have first : caller = 0 := by simpa [Event.sequential] using allowed
    subst first
    have empty := sequential.queue_eq_nil_of_awake (by simp [held])
    exact sequential.sent empty custody
  | @sentProbe caller held =>
    have first : caller = 0 := by simpa [Event.sequential] using allowed
    subst first
    exact absurd held sequential.claiming
  | @received caller id waits answered =>
    have first : caller = 0 := by simpa [Event.sequential] using allowed
    subst first
    have empty := sequential.queue_eq_nil_of_awake fun id' waits' => by
      cases waits.symm.trans waits'
      exact answered
    exact sequential.rephased empty (by simp) custody
  | timedOut _ => cases allowed
  | disconnected _ => cases allowed
  | @dequeued command queue ready queued =>
    have same : commands { s with executing := some command, replied := false, queue } =
        commands s := by
      simp [commands, ready, queued]
    exact {
      custody
      serving := sequential.serving
      others := sequential.others
      claiming := sequential.claiming
      carried := fun c member => sequential.carried c (same ▸ member)
      awaited := fun c member =>
        sequential.awaited c (by rw [queued]; exact List.mem_cons_of_mem _ member)
      known := sequential.known
      numbered := fun c member => sequential.numbered c (same ▸ member) }
  | @replied command current =>
    have empty := sequential.queue_eq_nil current
    refine {
      custody
      serving := sequential.serving
      others := sequential.others
      claiming := sequential.claiming
      carried := sequential.carried
      awaited := by simp [empty]
      known := ?_
      numbered := sequential.numbered }
    intro id member
    rcases List.mem_cons.mp member with rfl | member
    · exact sequential.numbered command (by simp [commands, current])
    · exact sequential.known id member
  | @finished command current _ =>
    have remaining : ∀ c, c ∈ s.queue → c ∈ commands s := fun c => List.mem_append_right _
    rw [dropCommand_eq] at custody ⊢
    exact {
      custody
      serving := sequential.serving
      others := sequential.others
      claiming := sequential.claiming
      carried := fun c member =>
        sequential.carried c (remaining c (by simpa [commands] using member))
      awaited := sequential.awaited
      known := sequential.known
      numbered := fun c member =>
        sequential.numbered c (remaining c (by simpa [commands] using member)) }
  | panicked _ => cases allowed
  | closed _ => cases allowed
  | discarded _ _ => cases allowed

/-- Every state from which a run acquires satisfies `P`. -/
def AcquiresFrom (P : State → Prop) (events : List Event) : Prop :=
  ∀ before kind after s, events = before ++ .acquire 0 kind :: after →
    run step initial before = some s → P s

/-- A sequential user is never told that the device is busy exactly when each of
its acquires comes after the device thread dropped the command it last served. -/
theorem acquire_succeeds_iff_dropped {events : List Event} {s : State}
    (sequential : ∀ e ∈ events, e.sequential = true) (ran : run step initial events = some s) :
    AcquiresFrom (fun s => s.busy = false) events ↔
      AcquiresFrom (fun s => s.executing = none) events := by
  have pointwise : ∀ before kind after t, events = before ++ .acquire 0 kind :: after →
      run step initial before = some t → (t.busy = false ↔ t.executing = none) := by
    intro before kind after t split reached
    have kept : Sequential t := by
      refine run_invariant (fun e => e.sequential = true)
        (fun _ _ _ allowed holds stepped => sequential_step allowed holds stepped)
        sequential_initial (fun e member => ?_) reached
      exact sequential e (by rw [split]; exact List.mem_append_left _ member)
    rw [split] at ran
    rcases step_of_run ran reached with ⟨u, stepped, -⟩
    cases moves_of_step stepped with
    | refused idle _ => exact kept.busy_iff idle
    | acquired idle _ _ => exact kept.busy_iff idle
  refine ⟨fun clear before kind after t split reached => ?_,
    fun dropped before kind after t split reached => ?_⟩
  · exact (pointwise before kind after t split reached).mp (clear before kind after t split reached)
  · exact (pointwise before kind after t split reached).mpr
      (dropped before kind after t split reached)

/-- A connect whose command is dropped before the signature is asked for. -/
def connectThenSign : List Event :=
  [.acquire 0 .connect, .send 0, .dequeue, .reply, .receive 0, .finish,
    .acquire 0 .signTransactionMessage]

theorem acquire_succeeds_after_connect :
    AcquiresFrom (fun s => s.busy = false) connectThenSign ↔
      AcquiresFrom (fun s => s.executing = none) connectThenSign := by
  have ran : ∃ s, run step initial connectThenSign = some s := ⟨_, rfl⟩
  rcases ran with ⟨s, ran⟩
  exact acquire_succeeds_iff_dropped (by decide) ran

/-- The reply is sent before the claim is dropped, and the user who acts on it at
once is told that the device is busy. -/
theorem acquire_refused_after_reply :
    ¬ ∀ (events : List Event) (s : State), (∀ e ∈ events, e.sequential = true) →
      run step initial events = some s → AcquiresFrom (fun s => s.busy = false) events := by
  intro always
  let early : List Event := [.acquire 0 .connect, .send 0, .dequeue, .reply, .receive 0]
  have reached : ∃ s, run step initial early = some s ∧ s.busy = true := ⟨_, rfl, rfl⟩
  have ran : ∃ s, run step initial (early ++ [.acquire 0 .signTransactionMessage]) = some s :=
    ⟨_, rfl⟩
  rcases reached with ⟨s, reached, set⟩
  rcases ran with ⟨t, ran⟩
  have clear := always _ t (by decide) ran early .signTransactionMessage [] s rfl reached
  simp [set] at clear

end

end Keychain.Rust.Ledger.Claim
