import Keychain.Assembly
import Keychain.Drivers
import Keychain.IdempotencyKeys
import Keychain.Preimage
import Keychain.Python.Send
import Keychain.Rejection
import Keychain.Rust.Atomicity
import Keychain.Rust.Binding
import Keychain.Rust.Crossmint.Target
import Keychain.Rust.Direct
import Keychain.Rust.Fordefi.NativeManual
import Keychain.Rust.Ledger.Abandoned
import Keychain.Rust.Ledger.Connect
import Keychain.Rust.LeftBehind
import Keychain.Rust.Polled
import Keychain.Rust.Send
import Keychain.Polling
import Keychain.PendingIds
import Keychain.Rust.Ledger.Selection
import Keychain.Rust.Ledger.Framing
import Keychain.Rust.Ledger.Envelope
import Keychain.PrivyPayload
import Keychain.Rust.Crossmint.SigningKey
import Keychain.Rust.Fireblocks
import Keychain.Rust.Ledger.Truncation
import Keychain.Rust.Memory
import Keychain.Rust.Para
import Keychain.TypeScript.Batch
import Keychain.TypeScript.CrossmintManaged
import Keychain.TypeScript.FordefiNative
import Keychain.TypeScript.Staggered
import Keychain.Go.Batch
import Keychain.Go.Sound
import Keychain.WalletUrls
import Keychain.Rust.InPlace
import Keychain.Rust.Authentic
import Keychain.Rust.UserAction
import Keychain.EntryPoints
import Keychain.CanonicalBodies
import Keychain.RemoteText
