import Keychain.Rust.Ledger.Connect

/-!
`device_thread`: every command it serves, and the one session it keeps between them.

Serving a command is a conversation with the device, one `Turn` for each call. What the
conversation does with handles is the list of its `Contact`s: each `establish_session`
with the handle it selected, and each exchange on the handle of a session.
-/

namespace Keychain.Rust.Ledger

open Prog

/-! ## Commands -/

/-- `DeviceCommand`, without the claim and the reply channel. -/
inductive DeviceCommand where
  | connect (command : Connect)
  | signTransactionMessage (command : SignTransactionMessage)
  | signOffchainMessage (pathStr : String) (message : Bytes) (hostDevicePath : Option String)
  | isAvailable (pathStr : String) (hostDevicePath : Option String)
  | isAttached

namespace DeviceCommand

def pathStr : DeviceCommand → Option String
  | .connect command => some command.pathStr
  | .signTransactionMessage command => some command.pathStr
  | .signOffchainMessage pathStr _ _ | .isAvailable pathStr _ => some pathStr
  | .isAttached => none

def hostDevicePath : DeviceCommand → Option String
  | .connect command => command.hostDevicePath
  | .signTransactionMessage command => command.hostDevicePath
  | .signOffchainMessage _ _ hostDevicePath | .isAvailable _ hostDevicePath => hostDevicePath
  | .isAttached => none

def isConnect : DeviceCommand → Bool
  | .connect _ => true
  | _ => false

/-- The commands served by `with_session`. -/
def runsExchange : DeviceCommand → Bool
  | .signTransactionMessage _ | .signOffchainMessage _ _ _ | .isAvailable _ _ => true
  | .connect _ | .isAttached => false

/-- The derivation path parses, as `connect_with` made sure. -/
def ValidPath [Crates] (command : DeviceCommand) : Prop :=
  ∀ pathStr, command.pathStr = some pathStr → ∃ path, Connect.parse pathStr = .ok path

end DeviceCommand

/-- What is sent on the reply channel. -/
inductive Answer where
  | pubkey (result : Except SignerError Pubkey)
  | signature (result : Except SignerError Signature)
  | probe (found : Bool)

def Answer.isErr : Answer → Bool
  | .pubkey (.error _) | .signature (.error _) => true
  | _ => false

/-! ## The session -/

/-- What an error means for the cached device session. -/
inductive SessionAction where
  | keep
  | drop
  deriving DecidableEq

def sessionAction : SignerError → SessionAction
  | .notAvailable _ | .signingFailed _ => .drop
  | _ => .keep

/-- How the calls into the wallet crates go while the device thread makes one call of
its own, with the bytes a signing call returns. -/
structure Turn extends Scene where
  signature : Except RemoteWalletError Bytes

/-- Extract the 64 raw bytes of a signature. -/
def signatureBytes (raw : Bytes) : Except SignerError Signature :=
  okOr (Signature.ofBytes? raw) (.signingFailed
    "the Ledger returned a signature of the wrong length, so the response was truncated in transit. Nothing was signed. Retry, and if it persists run `just rust-ledger-diagnose`.")

def Turn.signed (turn : Turn) : Except SignerError Signature :=
  turn.signature.mapError mapRwErr >>= signatureBytes

/-- What the device thread calls while it serves a command. -/
inductive ThreadCall where
  | device (call : DeviceCall)
  | signMessage (wallet : LedgerWallet) (path : DerivationPath) (message : Bytes)
  | signOffchainMessage (wallet : LedgerWallet) (path : DerivationPath) (message : Bytes)

abbrev SessionProg := Prog ThreadCall Turn (Option Session) SignerError

/-- The cached session, re-established if it is gone. -/
def activeSession (path : DerivationPath) (hostDevicePath : Option String) :
    SessionProg Session := do
  match ← state with
  | some active => pure active
  | none => do
    let turn ← ask (.device (.establishSession path false hostDevicePath))
    let (wallet, _) ← ofExcept (establishSession hostDevicePath turn.toScene)
    modifyState fun _ => some ⟨wallet, hostDevicePath⟩
    pure ⟨wallet, hostDevicePath⟩

/-- One exchange on the handle of a session, which an error may cost. -/
def exchangeOn {T : Type} (wallet : LedgerWallet) (path : DerivationPath)
    (call : LedgerWallet → DerivationPath → ThreadCall) (read : Turn → Except SignerError T) :
    SessionProg T := do
  let turn ← ask (call wallet path)
  match read turn with
  | .ok value => pure value
  | .error e =>
    if sessionAction e = .drop then modifyState fun _ => none
    fail e

/-- Run one exchange against the cached session, re-establishing it if it is gone. -/
def withSession [Crates] {T : Type} (pathStr : String) (hostDevicePath : Option String)
    (call : LedgerWallet → DerivationPath → ThreadCall) (read : Turn → Except SignerError T) :
    SessionProg T := do
  let path ← ofExcept (Connect.parse pathStr)
  -- A session opened against a different device is not ours to use.
  modifyState fun session => session.filter (·.hostDevicePath = hostDevicePath)
  let active ← activeSession path hostDevicePath
  exchangeOn active.wallet path call read

/-! ## What a conversation does with handles -/

/-- One contact with a device on behalf of a command. -/
inductive Contact where
  /-- An `establish_session`, the handle it selected and how it ended. -/
  | establish (hostDevicePath : Option String) (selected : Option LedgerWallet)
    (outcome : Outcome)
  /-- An exchange on the handle of a session, and the error it failed with. -/
  | exchange (wallet : LedgerWallet) (failure : Option SignerError)

namespace Contact

/-- The handle it talks to; `establish_session` reads the pubkey on the one it selects. -/
def handle : Contact → Option LedgerWallet
  | .establish _ selected _ => selected
  | .exchange wallet _ => some wallet

/-- The handle it opens, and the host path it opens it for. -/
def opened : Contact → Option (LedgerWallet × Option String)
  | .establish hostDevicePath selected _ => selected.map (·, hostDevicePath)
  | .exchange _ _ => none

end Contact

def failureOf {T : Type} : Except SignerError T → Option SignerError
  | .ok _ => none
  | .error e => some e

def DeviceCall.contact : DeviceCall × Scene → Option Contact
  | (.getPubkey wallet _ _, scene) =>
    some (.exchange wallet (failureOf (scene.getPubkey.mapError mapRwErr)))
  | (.establishSession _ _ hostDevicePath, scene) =>
    some (.establish hostDevicePath (selectedLedger hostDevicePath scene).toOption
      (Ledger.establishSession hostDevicePath scene))
  | (.ensureSolanaAppOpen _, _) => none

def ThreadCall.contact : ThreadCall × Turn → Option Contact
  | (.device call, turn) => DeviceCall.contact (call, turn.toScene)
  | (.signMessage wallet _ _, turn) | (.signOffchainMessage wallet _ _, turn) =>
    some (.exchange wallet (failureOf turn.signed))

/-- The error the exchange of a command fails with. -/
def DeviceCommand.failure : DeviceCommand → Turn → Option SignerError
  | .signTransactionMessage _, turn | .signOffchainMessage _ _ _, turn => failureOf turn.signed
  | .isAvailable _ _, turn => failureOf (turn.getPubkey.mapError mapRwErr)
  | .connect _, _ | .isAttached, _ => none

/-! ## The thread -/

/-- What serving one command leaves behind. -/
structure Served where
  answer : Answer
  contacts : List Contact
  session : Option Session

/-- A command that runs one exchange against the session. -/
def serveWithSession [Crates] {T : Type} (session : Option Session) (device : ℕ → Turn)
    (pathStr : String) (hostDevicePath : Option String)
    (call : LedgerWallet → DerivationPath → ThreadCall) (read : Turn → Except SignerError T)
    (answer : Except SignerError T → Answer) : Served :=
  let (result, w) := (withSession pathStr hostDevicePath call read).run device (.start session)
  ⟨answer result, w.log.filterMap ThreadCall.contact, w.state⟩

/-- `device_thread` on one command, whose calls the device answers with `device`. -/
def serve [Crates] (session : Option Session) (device : ℕ → Turn) : DeviceCommand → Served
  | .connect command =>
    let (result, w) := command.serve.run (fun i => (device i).toScene) (.start session)
    ⟨.pubkey result, w.log.filterMap DeviceCall.contact, w.state⟩
  | .signTransactionMessage command =>
    serveWithSession session device command.pathStr command.hostDevicePath
      (fun wallet path => .signMessage wallet path command.message) Turn.signed .signature
  | .signOffchainMessage pathStr message hostDevicePath =>
    serveWithSession session device pathStr hostDevicePath
      (fun wallet path => .signOffchainMessage wallet path message) Turn.signed .signature
  | .isAvailable pathStr hostDevicePath =>
    serveWithSession session device pathStr hostDevicePath
      (fun wallet path => .device (.getPubkey wallet path false))
      (fun turn => turn.getPubkey.mapError mapRwErr) (fun result => .probe result.isOk)
  | .isAttached =>
    let attached := (device 0).dashboard.hid.any (·.any (·.vendorId = ledgerVid))
    ⟨.probe attached, [], session⟩

/-- A command and how the device behaves while it is served. -/
structure Service where
  command : DeviceCommand
  device : ℕ → Turn

/-- The cached session, and every contact so far, oldest first. -/
structure Thread where
  session : Option Session
  history : List Contact

def Thread.start : Thread := ⟨none, []⟩

def Thread.next [Crates] (thread : Thread) (service : Service) : Thread :=
  let served := serve thread.session service.device service.command
  ⟨served.session, thread.history ++ served.contacts⟩

/-- `device_thread`, from its start through these commands. -/
def deviceThread [Crates] (services : List Service) : Thread :=
  services.foldl Thread.next .start

end Keychain.Rust.Ledger
