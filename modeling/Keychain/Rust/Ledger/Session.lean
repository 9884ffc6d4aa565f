import Keychain.Rust.Ledger.Thread

/-!
What the device thread keeps true of its session, over any sequence of commands.

The session it caches is always the handle that was opened last, together with the host
path it was opened for (`Tracks`). A command that finds it cached for its own host path
therefore talks to the right device, and every other command opens a handle first.
-/

namespace Keychain.Rust.Ledger

open Prog

/-! ## Handles -/

/-- The handle opened last, and the host path it was opened for. -/
def lastOpened (history : List Contact) : Option (LedgerWallet × Option String) :=
  (history.filterMap Contact.opened).getLast?

/-- Every contact talks to the handle opened last, which was opened for this host path. -/
def OwnHandles (hostDevicePath : Option String) : List Contact → List Contact → Prop
  | _, [] => True
  | history, contact :: rest =>
    (∀ wallet, contact.handle = some wallet →
      lastOpened (history ++ [contact]) = some (wallet, hostDevicePath)) ∧
    OwnHandles hostDevicePath (history ++ [contact]) rest

/-- The cached session is the handle opened last. -/
def Tracks (history : List Contact) (session : Option Session) : Prop :=
  ∀ s, session = some s → lastOpened history = some (s.wallet, s.hostDevicePath)

section

variable {history contacts rest : List Contact} {hostDevicePath : Option String}

theorem ownHandles_append :
    OwnHandles hostDevicePath history (contacts ++ rest) ↔
      OwnHandles hostDevicePath history contacts ∧
        OwnHandles hostDevicePath (history ++ contacts) rest := by
  induction contacts generalizing history with
  | nil => simp [OwnHandles]
  | cons contact contacts ih => simp [OwnHandles, ih, and_assoc]

theorem lastOpened_establish {wallet : LedgerWallet} {outcome : Outcome} :
    lastOpened (history ++ [.establish hostDevicePath (some wallet) outcome]) =
      some (wallet, hostDevicePath) := by
  simp [lastOpened, Contact.opened]

theorem lastOpened_exchange {wallet : LedgerWallet} {failure : Option SignerError} :
    lastOpened (history ++ [.exchange wallet failure]) = lastOpened history := by
  simp [lastOpened, Contact.opened]

/-- Opening a handle for the own host path is always right. -/
theorem OwnHandles.establish {selected : Option LedgerWallet} {outcome : Outcome}
    (own : OwnHandles hostDevicePath history contacts) :
    OwnHandles hostDevicePath history
      (contacts ++ [.establish hostDevicePath selected outcome]) := by
  refine ownHandles_append.mpr ⟨own, ?_, trivial⟩
  intro wallet talks
  cases selected with
  | none => cases talks
  | some selected =>
    cases talks
    exact lastOpened_establish

/-- An exchange is right on the handle opened last. -/
theorem OwnHandles.exchange {wallet : LedgerWallet} {failure : Option SignerError}
    (own : OwnHandles hostDevicePath history contacts)
    (last : lastOpened (history ++ contacts) = some (wallet, hostDevicePath)) :
    OwnHandles hostDevicePath history (contacts ++ [.exchange wallet failure]) := by
  refine ownHandles_append.mpr ⟨own, ?_, trivial⟩
  intro wallet' talks
  cases talks
  rw [lastOpened_exchange]
  exact last

theorem tracks_none : Tracks history none := by
  intro s cached
  cases cached

end

/-- What holds after a command served for a host path: its contacts were right and the
session it leaves is the handle opened last. -/
structure Sound (hostDevicePath : Option String) (history contacts : List Contact)
    (session : Option Session) : Prop where
  own : OwnHandles hostDevicePath history contacts
  tracks : Tracks (history ++ contacts) session

/-! ## Establishing a session -/

/-- A session that was established is on the handle that was selected. -/
theorem selected_of_established {hostDevicePath : Option String} {scene : Scene}
    {wallet : LedgerWallet} {pubkey : Pubkey}
    (opened : establishSession hostDevicePath scene = .ok (wallet, pubkey)) :
    (selectedLedger hostDevicePath scene).toOption = some wallet := by
  rw [establishSession] at opened
  rcases bind_eq_ok.mp opened with ⟨ledger, selected, opened⟩
  rcases bind_eq_ok.mp opened with ⟨key, -, same⟩
  cases same
  rw [selected]
  rfl

/-! ## Connect -/

namespace Connect

def contacts (w : World DeviceCall Scene (Option Session)) : List Contact :=
  w.log.filterMap DeviceCall.contact

/-- Between two attempts no session is cached. -/
structure Between (command : Connect) (history : List Contact)
    (w : World DeviceCall Scene (Option Session)) : Prop where
  uncached : w.state = none
  own : OwnHandles command.hostDevicePath history (contacts w)

/-- A successful outcome is the handle opened last. -/
def Latest (command : Connect) (history : List Contact) (outcome : Outcome)
    (w : World DeviceCall Scene (Option Session)) : Prop :=
  ∀ wallet pubkey, outcome = .ok (wallet, pubkey) →
    lastOpened (history ++ contacts w) = some (wallet, command.hostDevicePath)

section

variable {command : Connect} {path : DerivationPath} {history : List Contact}
  {device : ℕ → Scene} {w : World DeviceCall Scene (Option Session)}

theorem attempt_between (between : command.Between history w) :
    (command.attempt path).Meets device w
      (fun outcome w' => command.Between history w' ∧ command.Latest history outcome w')
      (fun _ _ => False) := by
  unfold attempt
  rw [meets_bind, meets_ask, meets_pure]
  have heard : contacts (w.heard
      (.establishSession path command.confirmPubkeyOnDevice command.hostDevicePath)
      (device w.asked)) = contacts w ++ [.establish command.hostDevicePath
        (selectedLedger command.hostDevicePath (device w.asked)).toOption
        (establishSession command.hostDevicePath (device w.asked))] := by
    simp [contacts, DeviceCall.contact]
  refine ⟨⟨between.uncached, ?_⟩, ?_⟩
  · rw [heard]
    exact between.own.establish
  · intro wallet pubkey opened
    rw [heard, selected_of_established opened, ← List.append_assoc]
    exact lastOpened_establish

theorem retryConnect_between {n : ℕ} {connected : Outcome} (between : command.Between history w)
    (latest : command.Latest history connected w) :
    (command.retryConnect path n connected).Meets device w
      (fun outcome w' => command.Between history w' ∧ command.Latest history outcome w')
      (fun _ _ => False) := by
  induction n generalizing w connected with
  | zero => exact ⟨between, latest⟩
  | succ n ih =>
    rw [retryConnect, meets_bind]
    refine (attempt_between between).mono ?_ fun _ _ h => h
    intro outcome w' made
    cases outcome with
    | ok opened => exact made
    | error e => exact ih made.1 made.2

theorem autoOpen_between {connected : Outcome} (between : command.Between history w)
    (latest : command.Latest history connected w) :
    (command.autoOpen path connected).Meets device w
      (fun outcome w' => command.Between history w' ∧ command.Latest history outcome w')
      (fun _ w' => command.Between history w') := by
  unfold autoOpen
  split_ifs with settled
  · exact ⟨between, latest⟩
  · rw [meets_bind, meets_ask]
    -- The dashboard is asked over a connection of its own.
    have heard : contacts (w.heard (.ensureSolanaAppOpen command.hostDevicePath)
        (device w.asked)) = contacts w := by
      simp [contacts, DeviceCall.contact]
    have between' : command.Between history (w.heard
        (.ensureSolanaAppOpen command.hostDevicePath) (device w.asked)) :=
      ⟨between.uncached, by rw [heard]; exact between.own⟩
    have latest' : command.Latest history connected (w.heard
        (.ensureSolanaAppOpen command.hostDevicePath) (device w.asked)) := by
      intro wallet pubkey opened
      rw [heard]
      exact latest wallet pubkey opened
    cases ensureSolanaAppOpen command.hostDevicePath (device w.asked).dashboard with
    | error e =>
      dsimp only
      split_ifs
      · exact between'
      · exact ⟨between', latest'⟩
    | ok launched =>
      exact (retryConnect_between between' latest').mono (fun _ _ h => h) fun _ _ h => h.elim

/-- A connect that has to establish a session caches the one it opened, or none. -/
theorem establish_sound (own : OwnHandles command.hostDevicePath history (contacts w)) :
    (command.establish path).Meets device w
      (fun _ w' => Sound command.hostDevicePath history (contacts w') w'.state ∧
        w'.state ≠ none)
      (fun _ w' => Sound command.hostDevicePath history (contacts w') w'.state ∧
        w'.state = none) := by
  unfold establish
  rw [meets_bind, meets_modifyState, meets_bind]
  have emptied : command.Between history { w with state := none } := ⟨rfl, own⟩
  refine (attempt_between emptied).mono ?_ fun _ _ h => h.elim
  intro outcome w' made
  rw [meets_bind]
  refine (autoOpen_between made.1 made.2).mono ?_ ?_
  · intro connected w'' settled
    unfold keepSession
    cases connected with
    | error e =>
      have empty := settled.1.uncached
      exact ⟨⟨settled.1.own, by rw [empty]; exact tracks_none⟩, empty⟩
    | ok opened =>
      refine ⟨⟨settled.1.own, ?_⟩, by simp⟩
      intro s cached
      cases cached
      exact settled.2 opened.1 opened.2 rfl
  · intro e w'' between
    have empty := between.uncached
    exact ⟨⟨between.own, by rw [empty]; exact tracks_none⟩, empty⟩

theorem reusable_eq_some {session : Option Session} {existing : Session}
    (reuses : command.reusable session = some existing) :
    session = some existing ∧ existing.hostDevicePath = command.hostDevicePath := by
  have same := (Option.filter_eq_some_iff.mp reuses).1
  have cached := Option.filter_eq_some_iff.mp same
  exact ⟨cached.1, by simpa using cached.2⟩

/-- A connect leaves a session exactly when it replies with a pubkey. -/
theorem serve_sound [Crates] {session : Option Session} (tracks : Tracks history session)
    (valid : parse command.pathStr = .ok path) :
    command.serve.Meets device (.start session)
      (fun _ w' => Sound command.hostDevicePath history (contacts w') w'.state ∧
        w'.state ≠ none)
      (fun _ w' => Sound command.hostDevicePath history (contacts w') w'.state ∧
        w'.state = none) := by
  unfold serve
  rw [valid, ofExcept_ok_bind, meets_bind, meets_state, World.start_state]
  cases reuses : command.reusable session with
  | none => exact establish_sound trivial
  | some existing =>
    dsimp only
    rw [meets_bind, meets_ask, World.start_asked]
    rcases reusable_eq_some reuses with ⟨cached, same⟩
    have last := tracks existing cached
    have heard : contacts ((World.start session).heard
        (.getPubkey existing.wallet path false) (device 0)) = [.exchange existing.wallet
          (failureOf ((device 0).getPubkey.mapError mapRwErr))] := by
      simp [contacts, DeviceCall.contact]
    have own : OwnHandles command.hostDevicePath history (contacts ((World.start session).heard
        (.getPubkey existing.wallet path false) (device 0))) := by
      rw [heard]
      have first : OwnHandles command.hostDevicePath history [] := trivial
      exact first.exchange (by rw [List.append_nil, ← same]; exact last)
    cases (device 0).getPubkey with
    | ok pubkey =>
      refine ⟨⟨own, ?_⟩, ?_⟩
      · intro s found
        have same' : s = existing := by
          rw [World.heard_state, World.start_state, cached] at found
          cases found
          rfl
        rw [heard, lastOpened_exchange, same']
        exact last
      · simp [cached]
    | error e => exact establish_sound own

end

end Connect

/-! ## Commands that run an exchange -/

/-- The session after an exchange on it. -/
def settled (active : Session) : Option SignerError → Option Session
  | some e => if sessionAction e = .drop then none else some active
  | none => some active

/-- The contacts and the session of a command that runs one exchange, by how the
device's turns go. -/
def sessionCourse (session : Option Session) (hostDevicePath : Option String)
    (device : ℕ → Turn) (failure : Turn → Option SignerError) :
    List Contact × Option Session :=
  match session.filter (·.hostDevicePath = hostDevicePath) with
  | some active =>
    ([.exchange active.wallet (failure (device 0))], settled active (failure (device 0)))
  | none =>
    let outcome := establishSession hostDevicePath (device 0).toScene
    let opening : Contact := .establish hostDevicePath
      (selectedLedger hostDevicePath (device 0).toScene).toOption outcome
    match outcome with
    | .error _ => ([opening], none)
    | .ok (wallet, _) =>
      ([opening, .exchange wallet (failure (device 1))],
        settled ⟨wallet, hostDevicePath⟩ (failure (device 1)))

section

variable [Crates] {T : Type} {session : Option Session} {device : ℕ → Turn} {pathStr : String}
  {path : DerivationPath} {hostDevicePath : Option String}
  {call : LedgerWallet → DerivationPath → ThreadCall} {read : Turn → Except SignerError T}
  {answer : Except SignerError T → Answer}

omit [Crates] in
theorem exchangeOn_run {active : Session} {w : World ThreadCall Turn (Option Session)}
    (cached : w.state = some active) :
    (exchangeOn active.wallet path call read).run device w =
      (read (device w.asked), ⟨settled active (failureOf (read (device w.asked))),
        w.log ++ [(call active.wallet path, device w.asked)]⟩) := by
  rw [exchangeOn, run_bind, run_ask]
  cases outcome : read (device w.asked) with
  | ok value =>
    dsimp only
    rw [outcome]
    simp [failureOf, settled, World.heard, cached]
  | error e =>
    dsimp only
    rw [outcome]
    simp only [failureOf, settled]
    split_ifs with drops
    · rfl
    · simp [World.heard, cached]

/-- A session cached for the own host path is used as it is. -/
theorem withSession_run_cached (valid : Connect.parse pathStr = .ok path) {active : Session}
    (cached : session.filter (·.hostDevicePath = hostDevicePath) = some active) :
    (withSession pathStr hostDevicePath call read).run device (.start session) =
      (read (device 0), ⟨settled active (failureOf (read (device 0))),
        [(call active.wallet path, device 0)]⟩) := by
  have found : (activeSession path hostDevicePath).run device
      ⟨some active, []⟩ = (.ok active, ⟨some active, []⟩) := rfl
  simp only [withSession, valid, ofExcept_ok_bind, run_bind, run_modifyState, World.start_state,
    World.start_log, cached, found]
  exact exchangeOn_run rfl

/-- Otherwise a session is established first. -/
theorem withSession_run_uncached (valid : Connect.parse pathStr = .ok path)
    (uncached : session.filter (·.hostDevicePath = hostDevicePath) = none) :
    (withSession pathStr hostDevicePath call read).run device (.start session) =
      match establishSession hostDevicePath (device 0).toScene with
      | .error e =>
        (.error e, ⟨none, [(.device (.establishSession path false hostDevicePath), device 0)]⟩)
      | .ok (wallet, _) =>
        (read (device 1), ⟨settled ⟨wallet, hostDevicePath⟩ (failureOf (read (device 1))),
          [(.device (.establishSession path false hostDevicePath), device 0),
            (call wallet path, device 1)]⟩) := by
  have opens : (activeSession path hostDevicePath).run device ⟨none, []⟩ =
      match establishSession hostDevicePath (device 0).toScene with
      | .error e =>
        (.error e, ⟨none, [(.device (.establishSession path false hostDevicePath), device 0)]⟩)
      | .ok (wallet, _) =>
        (.ok ⟨wallet, hostDevicePath⟩, ⟨some ⟨wallet, hostDevicePath⟩,
          [(.device (.establishSession path false hostDevicePath), device 0)]⟩) := by
    have first : (⟨none, []⟩ : World ThreadCall Turn (Option Session)).asked = 0 := rfl
    simp only [activeSession, run_bind, run_state, run_ask, run_ofExcept, first]
    cases establishSession hostDevicePath (device 0).toScene <;> rfl
  simp only [withSession, valid, ofExcept_ok_bind, run_bind, run_modifyState, World.start_state,
    World.start_log, uncached, opens]
  cases establishSession hostDevicePath (device 0).toScene with
  | error e => rfl
  | ok opened => exact exchangeOn_run rfl

theorem serveWithSession_eq (valid : Connect.parse pathStr = .ok path)
    (exchanges : ∀ wallet turn, ThreadCall.contact (call wallet path, turn) =
      some (.exchange wallet (failureOf (read turn)))) :
    ((serveWithSession session device pathStr hostDevicePath call read answer).contacts,
      (serveWithSession session device pathStr hostDevicePath call read answer).session) =
      sessionCourse session hostDevicePath device fun turn => failureOf (read turn) := by
  unfold serveWithSession sessionCourse
  cases cached : session.filter (·.hostDevicePath = hostDevicePath) with
  | some active =>
    rw [withSession_run_cached valid cached]
    simp [exchanges]
  | none =>
    rw [withSession_run_uncached valid cached]
    have opens : ThreadCall.contact
        (.device (.establishSession path false hostDevicePath), device 0) =
          some (.establish hostDevicePath
            (selectedLedger hostDevicePath (device 0).toScene).toOption
            (establishSession hostDevicePath (device 0).toScene)) := rfl
    cases outcome : establishSession hostDevicePath (device 0).toScene with
    | error e => simp [opens, outcome]
    | ok opened => simp [opens, exchanges, outcome]

end

section

variable {session : Option Session} {device : ℕ → Turn} {hostDevicePath : Option String}
  {failure : Turn → Option SignerError} {history : List Contact}

/-- The session an exchange leaves is the one it was made on, if any. -/
theorem settled_eq_some {active s : Session} {failed : Option SignerError}
    (kept : settled active failed = some s) : s = active := by
  unfold settled at kept
  split at kept
  · split_ifs at kept
    cases kept
    rfl
  · cases kept
    rfl

theorem sessionCourse_sound (tracks : Tracks history session) :
    Sound hostDevicePath history (sessionCourse session hostDevicePath device failure).1
      (sessionCourse session hostDevicePath device failure).2 := by
  have first : OwnHandles hostDevicePath history [] := trivial
  unfold sessionCourse
  cases cached : session.filter (·.hostDevicePath = hostDevicePath) with
  | some active =>
    have found := Option.filter_eq_some_iff.mp cached
    have same : active.hostDevicePath = hostDevicePath := by simpa using found.2
    have last := tracks active found.1
    refine ⟨first.exchange (by rw [List.append_nil, ← same]; exact last), ?_⟩
    intro s kept
    rw [settled_eq_some kept, lastOpened_exchange]
    exact last
  | none =>
    dsimp only
    cases outcome : establishSession hostDevicePath (device 0).toScene with
    | error e => exact ⟨first.establish, tracks_none⟩
    | ok opened =>
      have last : lastOpened (history ++ [.establish hostDevicePath
          (selectedLedger hostDevicePath (device 0).toScene).toOption (.ok opened)]) =
            some (opened.1, hostDevicePath) := by
        rw [selected_of_established outcome]
        exact lastOpened_establish
      have opens : OwnHandles hostDevicePath history [.establish hostDevicePath
          (selectedLedger hostDevicePath (device 0).toScene).toOption (.ok opened)] :=
        first.establish
      refine ⟨opens.exchange last, ?_⟩
      intro s kept
      rw [settled_eq_some kept]
      have whole : history ++ [.establish hostDevicePath
          (selectedLedger hostDevicePath (device 0).toScene).toOption (.ok opened),
          .exchange opened.1 (failure (device 1))] = history ++ [.establish hostDevicePath
            (selectedLedger hostDevicePath (device 0).toScene).toOption (.ok opened)] ++
              [.exchange opened.1 (failure (device 1))] := by simp
      rw [whole, lastOpened_exchange]
      exact last

end

/-! ## Any command -/

section

variable [Crates] {session : Option Session} {device : ℕ → Turn} {command : DeviceCommand}
  {history : List Contact}

theorem serve_eq_course (valid : command.ValidPath) (exchanges : command.runsExchange = true) :
    ((serve session device command).contacts, (serve session device command).session) =
      sessionCourse session command.hostDevicePath device command.failure := by
  cases command with
  | connect command => cases exchanges
  | isAttached => cases exchanges
  | signTransactionMessage command =>
    rcases valid command.pathStr rfl with ⟨path, parsed⟩
    exact serveWithSession_eq parsed fun _ _ => rfl
  | signOffchainMessage pathStr message hostDevicePath =>
    rcases valid pathStr rfl with ⟨path, parsed⟩
    exact serveWithSession_eq parsed fun _ _ => rfl
  | isAvailable pathStr hostDevicePath =>
    rcases valid pathStr rfl with ⟨path, parsed⟩
    exact serveWithSession_eq parsed fun _ _ => rfl

theorem serve_connect_sound {command : Connect} (tracks : Tracks history session)
    (valid : (DeviceCommand.connect command).ValidPath) :
    Sound command.hostDevicePath history (serve session device (.connect command)).contacts
        (serve session device (.connect command)).session ∧
      ((serve session device (.connect command)).answer.isErr = true ↔
        (serve session device (.connect command)).session = none) := by
  rcases valid command.pathStr rfl with ⟨path, parsed⟩
  have served : command.serve.Meets (fun i => (device i).toScene) (.start session) _ _ :=
    Connect.serve_sound tracks parsed
  refine served.mono (fun pubkey w settled => ?_) (fun e w settled => ?_) |>.of_both
    (P := fun result w => Sound command.hostDevicePath history (Connect.contacts w) w.state ∧
      ((Answer.pubkey result).isErr = true ↔ w.state = none))
  · exact ⟨settled.1, by simp [Answer.isErr, settled.2]⟩
  · exact ⟨settled.1, by simp [Answer.isErr, settled.2]⟩

/-- Serving a command keeps the session on the handle opened last. -/
theorem serve_sound (tracks : Tracks history session) (valid : command.ValidPath) :
    Sound command.hostDevicePath history (serve session device command).contacts
      (serve session device command).session := by
  cases exchanges : command.runsExchange with
  | true =>
    have course : ((serve session device command).contacts,
        (serve session device command).session) = _ := serve_eq_course valid exchanges
    have sound : Sound command.hostDevicePath history
        (sessionCourse session command.hostDevicePath device command.failure).1
        (sessionCourse session command.hostDevicePath device command.failure).2 :=
      sessionCourse_sound tracks
    rwa [← course] at sound
  | false =>
    cases command with
    | connect command => exact (serve_connect_sound tracks valid).1
    | isAttached => exact ⟨trivial, by simpa [serve] using tracks⟩
    | signTransactionMessage _ => cases exchanges
    | signOffchainMessage _ _ _ => cases exchanges
    | isAvailable _ _ => cases exchanges

end

/-! ## Over any sequence of commands -/

/-- A command whose exchange the user declined leaves the session it was made on. -/
def KeepsDeclined [Crates] (thread : Thread) (service : Service) : Prop :=
  ∀ wallet detail,
    .exchange wallet (some (.userRejected detail)) ∈
        (serve thread.session service.device service.command).contacts →
      (thread.next service).session = some ⟨wallet, service.command.hostDevicePath⟩ ∧
      ∀ s, thread.session = some s → s.hostDevicePath = service.command.hostDevicePath →
        (thread.next service).session = some s

/-- What the thread keeps to when it serves a command. -/
structure Orderly [Crates] (thread : Thread) (service : Service) : Prop where
  /-- Every exchange is on a handle opened for the command's own host path. -/
  own : OwnHandles service.command.hostDevicePath thread.history
    (serve thread.session service.device service.command).contacts
  /-- A connect that fails leaves no session. -/
  failedConnect : service.command.isConnect = true →
    (serve thread.session service.device service.command).answer.isErr = true →
      (thread.next service).session = none
  /-- Any other command leaves none when its exchange failed for the device's sake. -/
  failedExchange : service.command.isConnect = false → ∀ wallet e,
    .exchange wallet (some e) ∈
        (serve thread.session service.device service.command).contacts →
      (∃ detail, e = .notAvailable detail ∨ e = .signingFailed detail) →
        (thread.next service).session = none
  /-- It also leaves none when it could not establish a session. -/
  failedOpening : service.command.isConnect = false → ∀ hostDevicePath selected e,
    .establish hostDevicePath selected (.error e) ∈
        (serve thread.session service.device service.command).contacts →
      (thread.next service).session = none
  declined : service.command.isConnect = false → KeepsDeclined thread service

section

variable {session : Option Session} {device : ℕ → Turn} {hostDevicePath : Option String}
  {failure : Turn → Option SignerError}

/-- The exchange of a course decides the session it leaves. -/
theorem sessionCourse_of_exchange {wallet : LedgerWallet} {failed : Option SignerError}
    (exchanged : .exchange wallet failed ∈
      (sessionCourse session hostDevicePath device failure).1) :
    (sessionCourse session hostDevicePath device failure).2 =
        settled ⟨wallet, hostDevicePath⟩ failed ∧
      ∀ s, session = some s → s.hostDevicePath = hostDevicePath →
        s = ⟨wallet, hostDevicePath⟩ := by
  unfold sessionCourse at exchanged ⊢
  cases cached : session.filter (·.hostDevicePath = hostDevicePath) with
  | some active =>
    have found := Option.filter_eq_some_iff.mp cached
    have same : active = ⟨active.wallet, hostDevicePath⟩ := by
      have path : active.hostDevicePath = hostDevicePath := by simpa using found.2
      rw [← path]
    simp only [cached, List.mem_singleton, Contact.exchange.injEq] at exchanged
    rcases exchanged with ⟨rfl, rfl⟩
    refine ⟨by rw [← same], ?_⟩
    intro s held _
    rw [found.1] at held
    cases held
    exact same
  | none =>
    simp only [cached] at exchanged
    cases outcome : establishSession hostDevicePath (device 0).toScene with
    | error e => simp [outcome] at exchanged
    | ok opened =>
      simp only [outcome, List.mem_cons, reduceCtorEq, List.not_mem_nil, or_false, false_or,
        Contact.exchange.injEq] at exchanged
      rcases exchanged with ⟨rfl, rfl⟩
      refine ⟨rfl, ?_⟩
      intro s held path
      simp [held, path, Option.filter] at cached

theorem sessionCourse_of_unopened {hostDevicePath' : Option String}
    {selected : Option LedgerWallet} {e : SignerError}
    (unopened : .establish hostDevicePath' selected (.error e) ∈
      (sessionCourse session hostDevicePath device failure).1) :
    (sessionCourse session hostDevicePath device failure).2 = none := by
  unfold sessionCourse at unopened ⊢
  cases cached : session.filter (·.hostDevicePath = hostDevicePath) with
  | some active => simp [cached] at unopened
  | none =>
    cases outcome : establishSession hostDevicePath (device 0).toScene with
    | error e => rfl
    | ok opened => simp [cached, outcome] at unopened

end

section

variable [Crates]

/-- A command that is no connect either runs an exchange or makes no contact. -/
theorem serve_course_or_quiet {session : Option Session} {device : ℕ → Turn}
    {command : DeviceCommand} (valid : command.ValidPath) (other : command.isConnect = false) :
    ((serve session device command).contacts, (serve session device command).session) =
        sessionCourse session command.hostDevicePath device command.failure ∨
      (serve session device command).contacts = [] := by
  cases command with
  | connect command => cases other
  | isAttached => exact .inr rfl
  | signTransactionMessage _ => exact .inl (serve_eq_course valid rfl)
  | signOffchainMessage _ _ _ => exact .inl (serve_eq_course valid rfl)
  | isAvailable _ _ => exact .inl (serve_eq_course valid rfl)

theorem serve_of_exchange {session : Option Session} {device : ℕ → Turn}
    {command : DeviceCommand} {wallet : LedgerWallet} {failed : Option SignerError}
    (valid : command.ValidPath) (other : command.isConnect = false)
    (exchanged : .exchange wallet failed ∈ (serve session device command).contacts) :
    (serve session device command).session = settled ⟨wallet, command.hostDevicePath⟩ failed ∧
      ∀ s, session = some s → s.hostDevicePath = command.hostDevicePath →
        s = ⟨wallet, command.hostDevicePath⟩ := by
  have served : ((serve session device command).contacts,
      (serve session device command).session) = _ ∨ _ := serve_course_or_quiet valid other
  rcases served with course | quiet
  · have contacts := congrArg Prod.fst course
    have session' := congrArg Prod.snd course
    dsimp only at contacts session'
    rw [contacts] at exchanged
    rw [session']
    exact sessionCourse_of_exchange exchanged
  · rw [quiet] at exchanged
    cases exchanged

theorem orderly_of_tracks {thread : Thread} {service : Service}
    (tracks : Tracks thread.history thread.session) (valid : service.command.ValidPath) :
    Orderly thread service where
  own := (serve_sound tracks valid).own
  failedConnect := by
    intro connects failed
    rcases service with ⟨command, device⟩
    cases command with
    | connect command => exact (serve_connect_sound tracks valid).2.mp failed
    | _ => cases connects
  failedExchange := by
    intro other wallet e exchanged fault
    have left := (serve_of_exchange valid other exchanged).1
    have drops : sessionAction e = .drop := by
      rcases fault with ⟨detail, rfl | rfl⟩ <;> rfl
    exact left.trans (if_pos drops)
  failedOpening := by
    intro other hostDevicePath selected e unopened
    have served : ((serve thread.session service.device service.command).contacts,
        (serve thread.session service.device service.command).session) = _ ∨ _ :=
      serve_course_or_quiet valid other
    rcases served with course | quiet
    · have contacts := congrArg Prod.fst course
      have session' := congrArg Prod.snd course
      dsimp only at contacts session'
      rw [contacts] at unopened
      exact session'.trans (sessionCourse_of_unopened unopened)
    · rw [quiet] at unopened
      cases unopened
  declined := by
    intro other wallet detail exchanged
    have left := serve_of_exchange valid other exchanged
    have kept : (thread.next service).session =
        some ⟨wallet, service.command.hostDevicePath⟩ := left.1
    refine ⟨kept, ?_⟩
    intro s cached same
    rw [kept, left.2 s cached same]

/-- One command keeps the session on the handle opened last. -/
theorem next_tracks {thread : Thread} {service : Service}
    (tracks : Tracks thread.history thread.session) (valid : service.command.ValidPath) :
    Tracks (thread.next service).history (thread.next service).session :=
  (serve_sound tracks valid).tracks

/-- Any sequence of commands does. -/
theorem foldl_next_tracks {services : List Service} {thread : Thread}
    (tracks : Tracks thread.history thread.session)
    (valid : ∀ service ∈ services, service.command.ValidPath) :
    Tracks (services.foldl Thread.next thread).history
      (services.foldl Thread.next thread).session := by
  induction services generalizing thread with
  | nil => exact tracks
  | cons service services ih =>
    rw [List.foldl_cons]
    refine ih (next_tracks tracks (valid service (by simp))) fun later member => ?_
    exact valid later (List.mem_cons_of_mem _ member)

/-- The thread keeps to its rules with every command of any sequence. -/
theorem deviceThread_orderly {services : List Service}
    (valid : ∀ service ∈ services, service.command.ValidPath) :
    ∀ before service after, services = before ++ service :: after →
      Orderly (deviceThread before) service := by
  intro before service after split
  subst split
  refine orderly_of_tracks (foldl_next_tracks tracks_none ?_) (valid service (by simp))
  intro earlier member
  exact valid earlier (List.mem_append_left _ member)

end

/-! ## A declined request -/

section

local instance sessionCrates : Crates :=
  .linked emptyDigest (fun _ => .error "expected value") (fun _ => "null")

/-- A Ledger that runs the Solana app and whose user declines to sign. -/
def unsigned (call : ℕ) : Turn := ⟨declinesOnce call, .error (.ledgerError .userCancel)⟩

/-- A probe of that Ledger, which answers. -/
def probe : Service := ⟨.isAvailable "m/44'/501'/0'" none, fun _ => unsigned 1⟩

def declinedSignature : Service :=
  ⟨.signTransactionMessage ⟨"m/44'/501'/0'", [1], none⟩, fun _ => unsigned 1⟩

/-- A connect while the Ledger declines every `get_pubkey`. -/
def declinedConnect : Service :=
  ⟨.connect ⟨"m/44'/501'/0'", false, none, false⟩, fun _ => unsigned 0⟩

/-- The session of the probe, on the handle it opened. -/
def probedSession : Session := ⟨⟨0, some "/dev/hidraw2"⟩, none⟩

theorem validPath_of_default {service : Service}
    (given : service.command.pathStr = some "m/44'/501'/0'") : service.command.ValidPath := by
  intro pathStr named
  rw [given] at named
  cases named
  exact ⟨⟨some 0, none⟩, by decide⟩

/-- The declined signature leaves the session of the probe. -/
theorem declinedSignature_orderly :
    (deviceThread [probe]).session = some probedSession ∧
      (deviceThread [probe, declinedSignature]).session = some probedSession ∧
      Orderly (deviceThread [probe]) declinedSignature := by
  have valid : ∀ service ∈ [probe, declinedSignature], service.command.ValidPath := by
    intro service member
    rcases List.mem_pair.mp member with rfl | rfl
    · exact validPath_of_default rfl
    · exact validPath_of_default rfl
  exact ⟨by decide, by decide,
    deviceThread_orderly valid [probe] declinedSignature [] rfl⟩

/-- A connect does not keep a session on which its exchange was declined. -/
theorem declinedConnect_loses_session :
    (deviceThread [probe]).session = some probedSession ∧
      (deviceThread [probe, declinedConnect]).session = none ∧
      ¬ ∀ services : List Service, (∀ service ∈ services, service.command.ValidPath) →
        ∀ before service after, services = before ++ service :: after →
          KeepsDeclined (deviceThread before) service := by
  have cached : (deviceThread [probe]).session = some probedSession := by decide
  have lost : (deviceThread [probe, declinedConnect]).session = none := by decide
  refine ⟨cached, lost, ?_⟩
  intro always
  have valid : ∀ service ∈ [probe, declinedConnect], service.command.ValidPath := by
    intro service member
    rcases List.mem_pair.mp member with rfl | rfl
    · exact validPath_of_default rfl
    · exact validPath_of_default rfl
  have exchanged : (serve (deviceThread [probe]).session declinedConnect.device
      declinedConnect.command).contacts.head? = some (.exchange probedSession.wallet
        (some (.userRejected "request rejected on Ledger device"))) := rfl
  have kept := always [probe, declinedConnect] valid [probe] declinedConnect [] rfl
    probedSession.wallet _ (List.mem_of_mem_head? exchanged)
  have same : (deviceThread [probe, declinedConnect]).session = some probedSession :=
    kept.2 probedSession cached rfl
  rw [lost] at same
  cases same

end

end Keychain.Rust.Ledger
