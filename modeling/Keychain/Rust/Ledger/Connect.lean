import Keychain.Rust.Ledger.Device

/-!
The device thread serving a `Connect`: reuse the cached session, or establish one,
launching the Solana app and trying again when the first attempt fails.

The thread's calls are a conversation with the device, one `Scene` for each call,
and the record of the conversation shows every attempt to establish a session.
`serveConnect_respects_rejection_iff` says for exactly which devices an attempt
that the user rejected is the last one and decides the reply.
-/

namespace Keychain.Rust.Ledger

open Prog

/-! ## The command -/

/-- A live device session, cached on the device thread between commands. -/
structure Session where
  wallet : LedgerWallet
  hostDevicePath : Option String
  deriving DecidableEq

/-- The fields of `DeviceCommand::Connect` the device thread acts on. -/
structure Connect where
  pathStr : String
  confirmPubkeyOnDevice : Bool
  hostDevicePath : Option String
  autoOpenApp : Bool

/-- What the device thread calls while it serves a command. -/
inductive DeviceCall where
  | getPubkey (wallet : LedgerWallet) (path : DerivationPath) (confirmKey : Bool)
  | establishSession (path : DerivationPath) (confirmPubkeyOnDevice : Bool)
    (hostDevicePath : Option String)
  | ensureSolanaAppOpen (hostDevicePath : Option String)

abbrev ThreadProg := Prog DeviceCall Scene (Option Session) SignerError

abbrev Outcome := Except SignerError (LedgerWallet × Pubkey)

namespace Connect

def parse [Crates] (pathStr : String) : Except SignerError DerivationPath :=
  (Crates.derivationPath pathStr).mapError fun e => .configError s!"invalid derivation path: {e}"

/-- Reuse only the same device, and never when the user has to confirm on screen. -/
def reusable (command : Connect) (session : Option Session) : Option Session :=
  (session.filter (·.hostDevicePath = command.hostDevicePath)).filter
    fun _ => !command.confirmPubkeyOnDevice

def attempt (command : Connect) (path : DerivationPath) : ThreadProg Outcome := do
  let scene ← ask (.establishSession path command.confirmPubkeyOnDevice command.hostDevicePath)
  pure (establishSession command.hostDevicePath scene)

/-- Try again across the USB re-enumeration that launching an app triggers. -/
def retryConnect (command : Connect) (path : DerivationPath) : ℕ → Outcome → ThreadProg Outcome
  | 0, connected => pure connected
  | n + 1, _ => do
    let connected ← command.attempt path
    match connected with
    | .ok _ => pure connected
    | .error _ => retryConnect command path n connected

/-- `NotAvailable` of a device the dashboard identified as locked. -/
def isLocked : SignerError → Bool
  | .notAvailable detail => containsText detail "is locked"
  | _ => false

def isRejection : SignerError → Bool
  | .userRejected _ => true
  | _ => false

/-- Launch the Solana app after a failed attempt, when the caller allows it. A
locked device and a decline on the device end the command; any other dashboard
error keeps the attempt's own. -/
def autoOpen (command : Connect) (path : DerivationPath) (connected : Outcome) :
    ThreadProg Outcome :=
  if connected.isOk || !command.autoOpenApp then
    pure connected
  else do
    let scene ← ask (.ensureSolanaAppOpen command.hostDevicePath)
    match ensureSolanaAppOpen command.hostDevicePath scene.dashboard with
    | .error e => if isLocked e || isRejection e then fail e else pure connected
    | .ok _ => command.retryConnect path 20 connected

/-- Cache the session of a successful outcome. -/
def keepSession (command : Connect) (connected : Outcome) : ThreadProg Pubkey := do
  let (wallet, pubkey) ← ofExcept connected
  modifyState fun _ => some ⟨wallet, command.hostDevicePath⟩
  pure pubkey

def establish (command : Connect) (path : DerivationPath) : ThreadProg Pubkey := do
  modifyState fun _ => none
  let connected ← command.attempt path
  let connected ← command.autoOpen path connected
  command.keepSession connected

/-- `device_thread` on a `Connect`; the result is what it replies. -/
def serve [Crates] (command : Connect) : ThreadProg Pubkey := do
  let path ← ofExcept (parse command.pathStr)
  let session ← state
  match command.reusable session with
  | some existing => do
    let scene ← ask (.getPubkey existing.wallet path false)
    match scene.getPubkey with
    | .ok pubkey => pure pubkey
    -- The cached handle is stale; rebuild.
    | .error _ => command.establish path
  | none => command.establish path

end Connect

/-! ## Rejections -/

/-- An attempt or a reply that ends in `UserRejected`. -/
def rejected {α : Type} : Except SignerError α → Bool
  | .error e => Connect.isRejection e
  | .ok _ => false

/-- The attempts to establish a session that a record shows, with their outcomes. -/
def attempts (log : List (DeviceCall × Scene)) : List Outcome :=
  log.filterMap fun
    | (.establishSession _ _ hostDevicePath, scene) =>
      some (establishSession hostDevicePath scene)
    | _ => none

/-- A rejected attempt is the last one, and the reply is a rejection. -/
def RejectionFinal {α : Type} (attempts : List Outcome) (reply : Except SignerError α) : Prop :=
  ∀ (j : ℕ) (outcome : Outcome), attempts[j]? = some outcome → rejected outcome = true →
    j + 1 = attempts.length ∧ rejected reply = true

/-- The attempts a retry loop makes: up to the first that succeeds. -/
def tried (retries : ℕ → Outcome) : ℕ → List Outcome
  | 0 => []
  | n + 1 =>
    match retries 0 with
    | .ok opened => [.ok opened]
    | .error e => .error e :: tried (fun i => retries (i + 1)) n

/-- The attempts made by `establish` and the outcome it settles on, by how the
first attempt, the launch and the retries go. -/
def course (autoOpenApp : Bool) (first : Outcome) (launch : Except SignerError Bool)
    (retries : ℕ → Outcome) : List Outcome × Outcome :=
  if first.isOk || !autoOpenApp then
    ([first], first)
  else
    match launch with
    | .error e => ([first], if Connect.isLocked e || Connect.isRejection e then .error e else first)
    | .ok _ => (first :: tried retries 20, (tried retries 20).getLastD first)

section

variable {command : Connect} {path : DerivationPath} {device : ℕ → Scene}
  {w : World DeviceCall Scene (Option Session)}

theorem attempt_meets {outcome : Outcome}
    {done : Outcome → World DeviceCall Scene (Option Session) → Prop}
    {failed : SignerError → World DeviceCall Scene (Option Session) → Prop}
    (same : outcome = establishSession command.hostDevicePath (device w.asked))
    (next : ∀ w', w'.asked = w.asked + 1 → attempts w'.log = attempts w.log ++ [outcome] →
      done outcome w') :
    (command.attempt path).Meets device w done failed := by
  unfold Connect.attempt
  rw [meets_bind, meets_ask, meets_pure, ← same]
  refine next _ (by simp [World.asked, World.heard]) ?_
  simp [World.heard, attempts, same]

/-- The retry loop makes the attempts `tried` lists and returns the last of them. -/
theorem retryConnect_meets {n : ℕ} {connected : Outcome} {retries : ℕ → Outcome}
    (same : ∀ i, retries i = establishSession command.hostDevicePath (device (w.asked + i))) :
    (command.retryConnect path n connected).Meets device w
      (fun outcome w' => outcome = (tried retries n).getLastD connected ∧
        attempts w'.log = attempts w.log ++ tried retries n)
      (fun _ _ => False) := by
  induction n generalizing w connected retries with
  | zero => simp [Connect.retryConnect, tried]
  | succ n ih =>
    rw [Connect.retryConnect, meets_bind]
    refine attempt_meets (same 0) fun w' asked logged => ?_
    cases first : retries 0 with
    | ok opened =>
      rw [meets_pure]
      simp [tried, first, logged]
    | error e =>
      have shifted : ∀ i, retries (i + 1) =
          establishSession command.hostDevicePath (device (w'.asked + i)) := by
        intro i
        rw [same, asked, Nat.add_assoc, Nat.add_comm 1]
      refine (ih shifted).mono ?_ fun _ _ h => h
      intro outcome w'' settled
      rcases settled with ⟨rfl, logged'⟩
      simp [tried, first, logged, logged', List.getLast?_cons]

/-- What `establish` attempts and returns. -/
theorem establish_meets {first : Outcome} {launch : Except SignerError Bool}
    {retries : ℕ → Outcome} {P : List Outcome → Except SignerError Pubkey → Prop}
    (ofFirst : first = establishSession command.hostDevicePath (device w.asked))
    (ofLaunch : launch =
      ensureSolanaAppOpen command.hostDevicePath (device (w.asked + 1)).dashboard)
    (ofRetries : ∀ i, retries i =
      establishSession command.hostDevicePath (device (w.asked + 2 + i)))
    (holds : P (attempts w.log ++ (course command.autoOpenApp first launch retries).1)
      ((course command.autoOpenApp first launch retries).2.map Prod.snd)) :
    (command.establish path).Meets device w
      (fun pubkey w' => P (attempts w'.log) (.ok pubkey))
      (fun e w' => P (attempts w'.log) (.error e)) := by
  have settle : ∀ (outcome : Outcome) (w' : World DeviceCall Scene (Option Session)),
      P (attempts w'.log) (outcome.map Prod.snd) →
      (command.keepSession outcome).Meets device w'
        (fun pubkey w' => P (attempts w'.log) (.ok pubkey))
        (fun e w' => P (attempts w'.log) (.error e)) := by
    intro outcome w' replied
    cases outcome with
    | error e => exact replied
    | ok opened => exact replied
  unfold Connect.establish
  rw [meets_bind, meets_modifyState, meets_bind]
  refine attempt_meets ofFirst fun w' asked logged => ?_
  have same : attempts w'.log = attempts w.log ++ [first] := logged
  have next : w'.asked = w.asked + 1 := asked
  rw [meets_bind]
  unfold Connect.autoOpen course at *
  by_cases settled : (first.isOk || !command.autoOpenApp) = true
  · rw [if_pos settled] at holds ⊢
    refine settle _ _ ?_
    rwa [same]
  · rw [if_neg settled] at holds ⊢
    rw [meets_bind, meets_ask, next, ← ofLaunch]
    have heard : attempts (w'.heard (.ensureSolanaAppOpen command.hostDevicePath)
        (device (w.asked + 1))).log = attempts w.log ++ [first] := by
      rw [← same]
      simp [World.heard, attempts]
    cases launched : launch with
    | error e =>
      simp only [launched] at holds
      by_cases decisive : (Connect.isLocked e || Connect.isRejection e) = true
      · simp only [decisive, if_true, meets_fail] at holds ⊢
        rwa [heard]
      · simp only [decisive] at holds ⊢
        refine settle _ _ ?_
        rwa [heard]
    | ok opened =>
      simp only [launched] at holds
      have again : (w'.heard (.ensureSolanaAppOpen command.hostDevicePath)
          (device (w.asked + 1))).asked = w.asked + 2 := by
        simp [World.heard, World.asked] at next ⊢
        omega
      have same' : ∀ i, retries i = establishSession command.hostDevicePath
          (device ((w'.heard (.ensureSolanaAppOpen command.hostDevicePath)
            (device (w.asked + 1))).asked + i)) := by
        intro i
        rw [ofRetries, again]
      refine (retryConnect_meets same').mono ?_ fun _ _ h => h.elim
      intro outcome w'' done
      rcases done with ⟨rfl, retried⟩
      refine settle _ _ ?_
      rw [retried, heard]
      simpa using holds

/-! ## When a rejection is final -/

theorem rejectionFinal_map {tries : List Outcome} {outcome : Outcome} :
    RejectionFinal tries (outcome.map Prod.snd) ↔ RejectionFinal tries outcome := by
  have same : rejected (outcome.map Prod.snd) = rejected outcome := by cases outcome <;> rfl
  simp only [RejectionFinal, same]

/-- A single attempt is final when the reply repeats its rejection. -/
theorem rejectionFinal_singleton {α : Type} {first : Outcome} {reply : Except SignerError α} :
    RejectionFinal [first] reply ↔ (rejected first = true → rejected reply = true) := by
  refine ⟨fun final refused => (final 0 first rfl refused).2, ?_⟩
  intro replied j outcome at_ refused
  rcases j with _ | j
  · cases at_
    exact ⟨rfl, replied refused⟩
  · simp at at_

/-- An attempt before others must not be rejected. -/
theorem rejectionFinal_cons {α : Type} {first : Outcome} {rest : List Outcome}
    {reply : Except SignerError α} (more : rest ≠ []) :
    RejectionFinal (first :: rest) reply ↔
      rejected first = false ∧ RejectionFinal rest reply := by
  have some_left : 0 < rest.length := List.length_pos_iff.mpr more
  refine ⟨fun final => ⟨?_, fun j outcome at_ refused => ?_⟩, fun final j outcome at_ refused => ?_⟩
  · cases refused : rejected first with
    | false => rfl
    | true =>
      have last := (final 0 first rfl refused).1
      simp only [List.length_cons] at last
      omega
  · have later := final (j + 1) outcome at_ refused
    simp only [List.length_cons] at later
    exact ⟨by omega, later.2⟩
  · rcases j with _ | j
    · cases at_
      rw [final.1] at refused
      cases refused
    · have later := final.2 j outcome at_ refused
      simp only [List.length_cons]
      exact ⟨by omega, later.2⟩

theorem tried_ne_nil {retries : ℕ → Outcome} {n : ℕ} : tried retries (n + 1) ≠ [] := by
  rw [tried]
  cases retries 0 <;> simp

/-- Rejections among retries are final when each comes after a success, which ends
the loop, or on the last try. -/
theorem rejectionFinal_tried {retries : ℕ → Outcome} {n : ℕ} {connected : Outcome} :
    RejectionFinal (tried retries (n + 1)) ((tried retries (n + 1)).getLastD connected) ↔
      ∀ i < n, rejected (retries i) = true → ∃ k < i, (retries k).isOk = true := by
  induction n generalizing retries connected with
  | zero =>
    have once : tried retries 1 = [retries 0] := by
      simp only [tried]
      cases retries 0 <;> rfl
    rw [once, rejectionFinal_singleton]
    simp
  | succ n ih =>
    rw [tried]
    cases outcome : retries 0 with
    | ok opened =>
      have settled : ∀ i < n + 1, rejected (retries i) = true →
          ∃ k < i, (retries k).isOk = true := by
        intro i _ refused
        rcases i with _ | i
        · rw [outcome] at refused
          cases refused
        · exact ⟨0, Nat.succ_pos i, by rw [outcome]; rfl⟩
      exact iff_of_true (rejectionFinal_singleton.mpr fun refused => by cases refused) settled
    | error e =>
      have last : (Except.error e :: tried (fun i => retries (i + 1)) (n + 1)).getLastD connected =
          (tried (fun i => retries (i + 1)) (n + 1)).getLastD (.error e) := by
        simp [List.getLast?_cons]
      dsimp only
      rw [last, rejectionFinal_cons tried_ne_nil, ih]
      refine ⟨fun final i bound refused => ?_, fun final => ⟨?_, fun i bound refused => ?_⟩⟩
      · rcases i with _ | i
        · rw [outcome, final.1] at refused
          cases refused
        · rcases final.2 i (by omega) refused with ⟨k, before, opened⟩
          exact ⟨k + 1, by omega, opened⟩
      · cases refused : rejected (Except.error e : Outcome) with
        | false => rfl
        | true =>
          rcases final 0 (by omega) (by rw [outcome, refused]) with ⟨k, before, -⟩
          omega
      · rcases final (i + 1) (by omega) refused with ⟨k, before, opened⟩
        rcases k with _ | k
        · rw [outcome] at opened
          cases opened
        · exact ⟨k, by omega, opened⟩

/-- The devices on which `establish` respects a rejection. -/
def CourseRespects (autoOpenApp : Bool) (first : Outcome) (launch : Except SignerError Bool)
    (retries : ℕ → Outcome) : Prop :=
  autoOpenApp = false ∨ first.isOk = true ∨
    if rejected first then
      ∃ e, launch = .error e ∧ Connect.isLocked e = false
    else
      launch.isOk = false ∨
        ∀ i < 19, rejected (retries i) = true → ∃ k < i, (retries k).isOk = true

theorem course_rejectionFinal_iff {autoOpenApp : Bool} {first : Outcome}
    {launch : Except SignerError Bool} {retries : ℕ → Outcome} :
    RejectionFinal (course autoOpenApp first launch retries).1
        ((course autoOpenApp first launch retries).2.map Prod.snd) ↔
      CourseRespects autoOpenApp first launch retries := by
  rw [rejectionFinal_map]
  unfold course CourseRespects
  by_cases settled : (first.isOk || !autoOpenApp) = true
  · rw [if_pos settled, rejectionFinal_singleton]
    have early : autoOpenApp = false ∨ first.isOk = true := by
      cases autoOpenApp <;> simp_all
    exact iff_of_true (fun refused => refused) (early.imp_right .inl)
  · rw [if_neg settled]
    have failed : first.isOk = false ∧ autoOpenApp = true := by
      cases autoOpenApp <;> simp_all
    simp only [failed, Bool.true_eq_false, Bool.false_eq_true, false_or]
    cases launch with
    | error e =>
      simp only [rejectionFinal_singleton, Except.error.injEq, exists_eq_left', Except.isOk,
        Except.toBool, true_or]
      have exclusive : Connect.isLocked e = true → Connect.isRejection e = false := by
        cases e <;> simp [Connect.isLocked, Connect.isRejection]
      cases refused : rejected first with
      | false => simp
      | true =>
        cases locked : Connect.isLocked e with
        | true => simp [rejected, exclusive locked]
        | false =>
          cases declined : Connect.isRejection e with
          | true => simp [rejected, declined]
          | false => simp [refused]
    | ok opened =>
      simp only [rejectionFinal_cons tried_ne_nil, rejectionFinal_tried]
      cases refused : rejected first with
      | true => simp
      | false => simp [Except.isOk, Except.toBool]

end

/-- The devices on which a `Connect` respects a rejection: it never comes to an
attempt, the first attempt succeeds or stands alone, or no rejection is followed
by another attempt. `device i` is how the thread's call `i` goes. -/
def RespectsRejection [Crates] (command : Connect) (session : Option Session)
    (device : ℕ → Scene) : Prop :=
  let reuses := (command.reusable session).isSome
  let start := if reuses then 1 else 0
  let attempt i := establishSession command.hostDevicePath (device i)
  (Connect.parse command.pathStr).isOk = false ∨
    (reuses = true ∧ (device 0).getPubkey.isOk = true) ∨
    CourseRespects command.autoOpenApp (attempt start)
      (ensureSolanaAppOpen command.hostDevicePath (device (start + 1)).dashboard)
      (fun i => attempt (start + 2 + i))

/-- For which devices a rejected attempt is the last one and decides the reply. -/
theorem serveConnect_respects_rejection_iff [Crates] (command : Connect)
    (session : Option Session) (device : ℕ → Scene) :
    RejectionFinal (attempts (command.serve.run device (.start session)).2.log)
        (command.serve.run device (.start session)).1 ↔
      RespectsRejection command session device := by
  -- Without an attempt there is nothing to respect.
  have quiet : ∀ reply : Except SignerError Pubkey, RejectionFinal [] reply := by
    intro reply j outcome at_
    simp at at_
  have both : command.serve.Meets device (.start session)
      (fun pubkey w => RejectionFinal (attempts w.log) (.ok pubkey) ↔
        RespectsRejection command session device)
      (fun e w => RejectionFinal (attempts w.log) (.error e : Except SignerError Pubkey) ↔
        RespectsRejection command session device) := by
    unfold Connect.serve
    rw [meets_bind]
    cases parsed : Connect.parse command.pathStr with
    | error e => exact iff_of_true (quiet _) (.inl (by rw [parsed]; rfl))
    | ok path =>
      rw [meets_ofExcept_ok, meets_bind, meets_state, World.start_state]
      cases cached : command.reusable session with
      | none =>
        refine establish_meets (P := fun tries reply => RejectionFinal tries reply ↔ _)
          rfl rfl (fun _ => rfl) ?_
        simp [RespectsRejection, parsed, cached, attempts, course_rejectionFinal_iff, Except.isOk,
          Except.toBool]
      | some existing =>
        dsimp only
        rw [meets_bind, meets_ask, World.start_asked]
        cases read : (device 0).getPubkey with
        | ok pubkey =>
          refine iff_of_true (quiet _) (.inr (.inl ⟨?_, ?_⟩))
          · rw [cached]
            rfl
          · rw [read]
            rfl
        | error e =>
          refine establish_meets (P := fun tries reply => RejectionFinal tries reply ↔ _)
            rfl rfl (fun _ => rfl) ?_
          simp [RespectsRejection, parsed, cached, read, attempts, World.heard, World.asked,
            course_rejectionFinal_iff, Except.isOk, Except.toBool]
  exact both.of_both (P := fun reply w => RejectionFinal (attempts w.log) reply ↔ _)

/-! ## A user who is asked again -/

/-- A Ledger that runs the Solana app, whose user declines to confirm the address
and then, asked again, confirms it. -/
def declinesOnce (call : ℕ) : Scene where
  walletManager := true
  updateDevices := .ok 1
  listDevices := [.ledger ⟨0, some "/dev/hidraw2"⟩]
  unenumerated := none
  getPubkey :=
    if call = 0 then .error (.ledgerError .userCancel) else .ok ⟨List.replicate 32 7, rfl⟩
  dashboard := {
    hid := some [⟨0x2c97, 0xFF00, 0, "/dev/hidraw2", some "0001", true⟩]
    getAppAndVersion := {
      write := .ok ()
      read := .ok ([1, 6] ++ utf8 "Solana" ++ [5] ++ utf8 "1.4.0", 0x9000) }
    reenumerated := fun _ => none
    openApp := ⟨.ok (), .ok ([], 0x9000)⟩ }

/-- A connect that confirms the address on the device, with the defaults otherwise. -/
def confirmingConnect : Connect := ⟨"m/44'/501'/0'", true, none, true⟩

local instance connectCrates : Crates :=
  .linked ⟨List.replicate 32 2, rfl⟩ (fun _ => .error "expected value") (fun _ => "null")

/-- The user declined, was prompted again, and the connect succeeded. -/
theorem serveConnect_prompts_again :
    ¬ RejectionFinal (attempts (confirmingConnect.serve.run declinesOnce (.start none)).2.log)
      (confirmingConnect.serve.run declinesOnce (.start none)).1 := by
  intro final
  have refused : (attempts (confirmingConnect.serve.run declinesOnce (.start none)).2.log)[0]? =
      some (.error (.userRejected "request rejected on Ledger device")) := by
    rfl
  have tries : (attempts (confirmingConnect.serve.run declinesOnce (.start none)).2.log).length =
      2 := by
    rfl
  have last := (final 0 _ refused rfl).1
  omega

end Keychain.Rust.Ledger
