import Keychain.Go.Send
import Keychain.Python.SignAndSend
import Keychain.TypeScript.Send

/-!
The entry points that get a transaction on chain, in Go, Python and TypeScript.

All three are the machine of `Keychain.Handover`. They differ in what they look at before
they go on, in which failures of a sender they catch, and in which method of a signer with
several they prefer; the promise to the caller is the same.
-/

namespace Keychain.Handover

end Keychain.Handover
