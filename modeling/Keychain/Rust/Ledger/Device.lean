import Keychain.Rust.Ledger.Dashboard
import Keychain.Rust.Signing

/-!
`ledger/mod.rs`: what crosses from a `LedgerSigner` to the device thread, and how
the thread opens a device.

A caller sees of the device thread only how its request was delivered:
`Delivery`. The thread in turn sees of the device only how each call into
`solana-remote-wallet` and `hidapi` goes, which is a `Scene` for each call.
-/

namespace Keychain.Rust.Ledger

open Prog

/-! ## Requests -/

def busyDetail : String :=
  "Ledger is busy with another operation or awaiting on-device confirmation"

/-- The error a caller gets instead of queueing behind an on-device prompt. -/
def busyError : SignerError := .notAvailable busyDetail

/-- How a request to the device thread ends for its caller. -/
inductive Delivery (T : Type) where
  /-- `DeviceClaim::acquire` found the device claimed. -/
  | refused
  /-- The blocking task that waits for the reply did not finish. -/
  | taskFailed (detail : String)
  /-- The command could not be sent. -/
  | notRunning
  | timedOut
  | disconnected
  | replied (result : Except SignerError T)

/-- The outcome of `DeviceClaim::acquire` and `request_on` on a blocking task. -/
def requestOn {T : Type} : Delivery T → Except SignerError T
  | .refused => .error busyError
  | .taskFailed detail => .error (.other s!"Ledger signing task failed: {detail}")
  | .notRunning => .error (.notAvailable "Ledger device thread is not running")
  | .timedOut => .error busyError
  | .disconnected => .error (.notAvailable "Ledger device thread stopped")
  | .replied result => result

/-- The fields of `DeviceCommand::SignTransactionMessage` the device acts on. -/
structure SignTransactionMessage where
  pathStr : String
  message : Bytes
  hostDevicePath : Option String
  deriving DecidableEq

/-! ## Signing -/

structure LedgerSigner where
  pubkey : Pubkey
  pathStr : String
  hostDevicePath : Option String

namespace LedgerSigner

/-- A conversation with the device thread about the caller's transaction. -/
abbrev DeviceProg :=
  Prog SignTransactionMessage (Delivery Signature) VersionedTransaction SignerError

section

variable [Crates]

/-- Have the device sign the message and check what it answers. -/
def signOnDevice (signer : LedgerSigner) (message : Bytes) : DeviceProg Signature :=
  checked (verifyOrReject · signer.pubkey message) do
    let delivery ← ask ⟨signer.pathStr, message, signer.hostDevicePath⟩
    ofExcept (requestOn delivery)

/-- Sign the caller's transaction on the device, in place. -/
def signAndSerialize (signer : LedgerSigner) : DeviceProg SignedTransaction := do
  let transaction ← state
  let signature ← signer.signOnDevice (Crates.serializeMessage transaction.message)
  placeAndSerialize signer.pubkey signature

def signTransaction (signer : LedgerSigner) : DeviceProg SignTransactionResult :=
  signAndClassify signer.signAndSerialize

theorem signTransaction_binds_key {signer : LedgerSigner} :
    Binds (some signer.pubkey) signer.signTransaction := by
  refine binds_of_signAndSerialize fun transaction answers => ?_
  rw [signAndSerialize, meets_bind, meets_state]
  refine meets_bind_placeAndSerialize rfl rfl rfl (checked_keeps ?_)
    (checked_yields fun _ _ => verifyOrReject_eq_ok.mp)
  exact keeps_ask.bind fun _ => keeps_ofExcept

end

end LedgerSigner

/-! ## Opening a device -/

/-- A handle to an opened Ledger; `id` tells two handles apart. -/
structure LedgerWallet where
  id : ℕ
  /-- `hid_path`: the OS path of its device, when it can be read. -/
  hidPath : Option String
  deriving DecidableEq

inductive RemoteWalletType where
  | ledger (wallet : LedgerWallet)
  | other

/-- The status words `mapRwErr` tells apart. -/
inductive LedgerError where
  | userCancel
  | sdkNotSupported
  | other (status : ℕ)
  deriving DecidableEq

inductive RemoteWalletError where
  | userCancel
  | ledgerError (error : LedgerError)
  | noDeviceFound
  | hid (detail : String)
  | protocol (detail : String)
  | other (detail : String)
  deriving DecidableEq

/-- How the calls into the wallet crates go while the device thread makes one
call of its own. -/
structure Scene where
  /-- Whether `initialize_wallet_manager` succeeds. -/
  walletManager : Bool
  updateDevices : Except RemoteWalletError ℕ
  listDevices : List RemoteWalletType
  /-- The diagnosis of an attached device that was not enumerated. -/
  unenumerated : Option String
  getPubkey : Except RemoteWalletError Pubkey
  dashboard : DashboardScene

def noDeviceDetail : String :=
  "no Ledger device found (plug in, unlock, and open the Solana app)"

/-- Appended to HID-layer failures on Linux. -/
def linuxUdevHint : String :=
  " On Linux this is most often missing udev rules: without them the device node is not readable by your user. See the \"Linux: udev rules\" section of the Ledger backend documentation."

/-- `detail.contains(text)`. -/
def containsText (detail text : String) : Bool :=
  detail.toList.tails.any (text.toList.isPrefixOf ·)

/-- Map `solana-remote-wallet` errors onto `SignerError`. -/
def mapRwErr : RemoteWalletError → SignerError
  | .userCancel | .ledgerError .userCancel => .userRejected "request rejected on Ledger device"
  | .noDeviceFound => .notAvailable "no Ledger device found"
  | .hid _ => .notAvailable
    ("Ledger is not reachable. Either it was disconnected, or another application is holding the device — quit Ledger Live and any other wallet software, then retry." ++
      linuxUdevHint)
  | .protocol detail =>
    if containsText detail "Version packet" then
      .notAvailable "the Ledger's Solana app speaks a configuration format this build of solana-remote-wallet cannot parse, so it will not enumerate the device. The device is not at fault. This needs a newer solana-remote-wallet (or an older Solana app); see the backend README."
    else
      .notAvailable "Ledger did not answer. It is either locked — unlock it and open the Solana app — or another application is holding the device, so quit Ledger Live and any other wallet software. Then retry."
  | .ledgerError .sdkNotSupported => .signingFailed
    "the Ledger could not clear-sign this, and blind signing is disabled in the Solana app's settings. The device shows \"This transaction cannot be clear-signed\" with a \"Go to settings\" prompt, which has to be dismissed before it will answer anything else. Blind signing is required for off-chain messages that are not printable ASCII, and for transactions the app cannot decode."
  | .ledgerError (.other _) | .other _ => .signingFailed
    "the Ledger reported an error while signing. Nothing was signed. Run `just rust-ledger-diagnose` to capture what the device says about itself."

/-- The error for "no Ledger enumerated", enriched when one is in fact attached. -/
def noLedgerEnumeratedError (unenumerated : Option String) : SignerError :=
  .notAvailable (unenumerated.getD noDeviceDetail)

/-- The Ledgers among the listed devices. -/
def ledgerWallets (devices : List RemoteWalletType) : List LedgerWallet :=
  devices.filterMap fun
    | .ledger wallet => some wallet
    | .other => none

/-- The handle `establish_session` selects, on which it reads the pubkey. -/
def selectedLedger (hostDevicePath : Option String) (scene : Scene) :
    Except SignerError LedgerWallet := do
  require scene.walletManager (.notAvailable
    "the Ledger HID subsystem is unavailable. On Linux this is usually missing udev rules; otherwise no HID backend could be initialised.")
  let count ← scene.updateDevices.mapError mapRwErr
  require (count ≠ 0) (noLedgerEnumeratedError scene.unenumerated)
  let ledgers := ledgerWallets scene.listDevices
  match hostDevicePath with
  | some want =>
    okOr (ledgers.find? (·.hidPath = some want))
      (.notAvailable s!"no Ledger device at host path `{want}`")
  | none =>
    match ledgers with
    | [] => throw (noLedgerEnumeratedError scene.unenumerated)
    | [ledger] => pure ledger
    | _ => throw (multipleDevicesError ledgers.length)

/-- Establish a device session: enumerate, select, and read the pubkey. -/
def establishSession (hostDevicePath : Option String) (scene : Scene) :
    Except SignerError (LedgerWallet × Pubkey) := do
  let ledger ← selectedLedger hostDevicePath scene
  let pubkey ← scene.getPubkey.mapError mapRwErr
  pure (ledger, pubkey)

end Keychain.Rust.Ledger
