import Keychain.Rust.Error

/-!
`ledger/dashboard.rs`: finding a Ledger among the HID interfaces of the host and
launching the Solana app from the BOLOS dashboard.

What `hidapi` and the device do is an argument: `HidView` is what one enumeration
shows, `Apdu` how one exchange over the HID transport goes.
-/

namespace Keychain.Rust.Ledger

/-! ## The host's view of the device -/

structure DeviceInfo where
  vendorId : ℕ
  usagePage : ℕ
  interfaceNumber : Int
  /-- `path().to_string_lossy()` -/
  path : String
  serialNumber : Option String
  /-- Whether `open_device` succeeds on it. -/
  opens : Bool
  deriving DecidableEq

/-- One enumeration; `none` when `HidApi::new` fails. -/
abbrev HidView := Option (List DeviceInfo)

/-- One exchange with an opened device: how `write_apdu` and `read_apdu` end. -/
structure Apdu where
  write : Except SignerError Unit
  read : Except SignerError (Bytes × ℕ)

/-- What happens while the dashboard is asked to open the Solana app. -/
structure DashboardScene where
  hid : HidView
  getAppAndVersion : Apdu
  /-- The enumerations after an app was quit, one for each attempt to reopen. -/
  reenumerated : ℕ → HidView
  openApp : Apdu

/-! ## Selecting a device -/

def ledgerVid : ℕ := 0x2c97

def isApduInterface (device : DeviceInfo) : Bool :=
  device.usagePage = 0xFF00 || device.interfaceNumber = 0

/-- Length of the shared prefix, truncated back to the last delimiter. -/
def sharedPrefixLen (a b : String) : ℕ :=
  let common := (((utf8 a).zip (utf8 b)).takeWhile fun (x, y) => x = y).map Prod.fst
  let isDelim (byte : UInt8) : Bool := (utf8 "/:@\\").contains byte
  common.length - (common.reverse.takeWhile fun byte => !isDelim byte).length

/-- Is a shared prefix of `len` bytes enough to call two paths interfaces of one
device? -/
def meetsSiblingThreshold (len : ℕ) (path : String) : Bool :=
  (utf8 path).length * 4 ≤ len * 5

/-- Do two paths look like two interfaces of the same physical device? -/
def isSiblingInterface (a b : String) : Bool :=
  let shared := sharedPrefixLen a b
  meetsSiblingThreshold shared a && meetsSiblingThreshold shared b

/-- Pick the device matching `want`, or nothing. -/
def selectLedger (available : List String) (want : String) : Option ℕ :=
  match available.idxOf? want with
  | some exact => some exact
  | none =>
    let best := (available.map (sharedPrefixLen · want)).foldl max 0
    if meetsSiblingThreshold best want then
      match (available.zipIdx.filter fun (path, _) => sharedPrefixLen path want = best) with
      | [(_, idx)] => some idx
      -- ambiguous; never guess
      | _ => none
    else
      none

/-- One attached Ledger APDU interface, as `soleLedger` compares them. -/
structure Candidate where
  path : String
  serial : Option String
  deriving DecidableEq

/-- Do two candidates belong to one physical device? -/
def sameDevice (a b : Candidate) : Bool :=
  match a.serial, b.serial with
  | some x, some y =>
    if x ≠ "" ∧ y ≠ "" ∧ x ≠ y then false else isSiblingInterface a.path b.path
  | _, _ => isSiblingInterface a.path b.path

def multipleDevicesError (count : ℕ) : SignerError :=
  .notAvailable s!"{count} Ledger devices connected; pass host_device_path to select one. Run `just rust-ledger-diagnose` to list them."

/-- The candidates that start a device of their own, in order. -/
def distinctDevices (candidates : List Candidate) : List (Candidate × ℕ) :=
  candidates.zipIdx.foldl
    (fun devices c => if devices.any (sameDevice c.1 ·.1) then devices else devices ++ [c]) []

/-- Which device to use when the caller named none: exactly one, or an error. -/
def soleLedger (candidates : List Candidate) : Except SignerError ℕ :=
  if candidates = [] then
    .error (.notAvailable "no Ledger device found (plug in and unlock)")
  else
    match distinctDevices candidates with
    | [(_, idx)] => .ok idx
    | devices => .error (multipleDevicesError devices.length)

/-- Open the Ledger HID device, honoring an explicit host path or requiring a
single connected device. -/
def openLedger (attached : List DeviceInfo) (hostDevicePath : Option String) :
    Except SignerError DeviceInfo := do
  let ledgers := attached.filter fun d => d.vendorId = ledgerVid && isApduInterface d
  let paths := ledgers.map DeviceInfo.path
  let idx ←
    match hostDevicePath with
    | some want =>
      okOr (selectLedger paths want) (.notAvailable
        s!"no Ledger device at the requested host path; {paths.length} Ledger interface(s) attached. Run `just rust-ledger-diagnose` to list them.")
    | none => soleLedger (ledgers.map fun d => ⟨d.path, d.serialNumber⟩)
  okOr (ledgers[idx]?.filter DeviceInfo.opens) (.notAvailable
    "cannot open the Ledger. Another application may be holding it -- quit Ledger Live and any other wallet software, then retry.")

/-! ## Dashboard operations -/

def apduSuccess : ℕ := 0x9000

def apduDeviceLocked : ℕ := 0x5515

def solanaAppName : String := "Solana"

/-- `write_apdu`, then `read_apdu`. -/
def Apdu.exchange (apdu : Apdu) : Except SignerError (Bytes × ℕ) := do
  apdu.write
  apdu.read

/-- Map a non-success APDU status word onto a `SignerError`. -/
def statusToErr (status : ℕ) (what : String) : SignerError :=
  if status = 0x6985 then .userRejected s!"{what}: rejected on device"
  else if status = 0x6807 ∨ status = 0x6a83 then .notAvailable s!"{what}: app not installed"
  else
    let digits := String.ofList ((hexDigits (UInt8.ofNat (status / 256))) ++
      hexDigits (UInt8.ofNat (status % 256)))
    .other s!"{what}: device returned status 0x{digits}"

/-- `getAppAndVersion`: the bytes of the running app's name, or `none` if it
can't be determined. The names the caller knows are ASCII, and a lossy decoding
yields such a name from its own bytes only. -/
def currentApp (apdu : Apdu) : Except SignerError (Option Bytes) := do
  let (payload, status) ← apdu.exchange
  if status = apduDeviceLocked then
    throw (.notAvailable "the Ledger is locked. Enter your PIN on the device, then retry.")
  if status ≠ apduSuccess then
    return none
  match payload with
  | _ :: nameLen :: rest =>
    if nameLen.toNat ≤ rest.length then return some (rest.take nameLen.toNat) else return none
  | _ => return none

/-- `openApp`: launch a named app from the dashboard. A failed read means that the
app launched and the device re-enumerated. -/
def openApp (apdu : Apdu) : Except SignerError Unit := do
  apdu.write
  match apdu.read with
  | .ok (_, status) =>
    if status = apduSuccess then pure () else throw (statusToErr status "open Solana app")
  | .error _ => pure ()

/-- Re-enumerate and re-open after an app switch, in at most `attempts` tries. -/
def reopenAfterReenumerate (hostDevicePath : Option String) (reenumerated : ℕ → HidView) :
    ℕ → Except SignerError DeviceInfo
  | 0 => .error (.notAvailable "Ledger did not re-enumerate after app switch")
  | attempts + 1 =>
    match (reenumerated 0).map (openLedger · hostDevicePath) with
    | some (.ok device) => .ok device
    | _ => reopenAfterReenumerate hostDevicePath (fun i => reenumerated (i + 1)) attempts

/-- Ensure the Solana app is running on the connected Ledger, launching it from
the dashboard if needed. Returns whether it launched the app. -/
def ensureSolanaAppOpen (hostDevicePath : Option String) (scene : DashboardScene) :
    Except SignerError Bool := do
  let attached ← okOr scene.hid (.notAvailable
    "the Ledger HID subsystem is unavailable. On Linux this is usually missing udev rules; otherwise no HID backend could be initialised.")
  let _device ← openLedger attached hostDevicePath
  match ← currentApp scene.getAppAndVersion with
  | some app =>
    if app = utf8 solanaAppName then
      pure false
    else if app = utf8 "BOLOS" ∨ app = [] then
      openApp scene.openApp
      pure true
    else
      -- `quitApp` drops the connection, so the way its exchange ends is ignored.
      let _device ← reopenAfterReenumerate hostDevicePath scene.reenumerated 20
      openApp scene.openApp
      pure true
  | none =>
    openApp scene.openApp
    pure true

end Keychain.Rust.Ledger
