import Keychain.Lib.Tracker
import Keychain.Python.TransactionUtil
import Keychain.Rust.TransactionUtil

/-!
`PendingTransactionId` of the Rust and the Python signers as the slots they are for the
calls that share one.

Each call in flight puts the id its provider accepted into the slot and takes it out when
it returns; a cancelled call leaves it behind. Two calls may be given the same id, since a
provider deduplicates creates. The slot removes the oldest equal id, which is another
call's when an older call with the same id is still in flight.
-/

namespace Keychain

open Tracker Transition

def Rust.PendingTransactionId.slot : Slot String Rust.PendingTransactionId where
  ids := Rust.PendingTransactionId.ids
  set := Rust.PendingTransactionId.set
  clear := Rust.PendingTransactionId.clear

def Python.PendingTransactionId.slot : Slot Python.Str Python.PendingTransactionId where
  ids := Python.PendingTransactionId.providerTransactionIds
  set := Python.PendingTransactionId.set
  clear := Python.PendingTransactionId.clear

theorem Rust.PendingTransactionId.slot_byValue : Rust.PendingTransactionId.slot.ByValue where
  ids_set _ _ := rfl
  ids_clear _ _ := rfl

theorem Python.PendingTransactionId.slot_byValue : Python.PendingTransactionId.slot.ByValue where
  ids_set _ _ := rfl
  ids_clear _ _ := rfl

/-- In every run of any calls that share a slot, the slot lists the ids of the calls in
flight, oldest first, in every state exactly when no call clears while another id stands
between its own and an older equal one. -/
theorem pendingTransactionId_tracks_iff (C : Type) [DecidableEq C] :
    (∀ (events : List (Event C String)) (calls : Calls C String Rust.PendingTransactionId),
      run (step Rust.PendingTransactionId.slot) (Calls.start ⟨[]⟩) events = some calls →
      ((∀ before after reached, events = before ++ after →
          run (step Rust.PendingTransactionId.slot) (Calls.start ⟨[]⟩) before = some reached →
          reached.Faithful Rust.PendingTransactionId.slot) ↔
        ClearsUnmixed Rust.PendingTransactionId.slot (Calls.start ⟨[]⟩) events)) ∧
    (∀ (events : List (Event C Python.Str))
      (calls : Calls C Python.Str Python.PendingTransactionId),
      run (step Python.PendingTransactionId.slot) (Calls.start ⟨[]⟩) events = some calls →
      ((∀ before after reached, events = before ++ after →
          run (step Python.PendingTransactionId.slot) (Calls.start ⟨[]⟩) before = some reached →
          reached.Faithful Python.PendingTransactionId.slot) ↔
        ClearsUnmixed Python.PendingTransactionId.slot (Calls.start ⟨[]⟩) events)) := by
  refine ⟨?_, ?_⟩
  · intro events calls ran
    exact faithful_along_iff Rust.PendingTransactionId.slot_byValue rfl ran
  · intro events calls ran
    exact faithful_along_iff Python.PendingTransactionId.slot_byValue rfl ran

/-- Two calls with one id and a cancelled one between them; the older of the two
returns. -/
def olderReturns : List (Event ℕ String) :=
  [.set 0 "tx-a", .set 1 "tx-b", .set 2 "tx-a", .cancel 1, .clear 0]

theorem olderReturns_clearsUnmixed :
    ClearsUnmixed Rust.PendingTransactionId.slot (Calls.start ⟨[]⟩) olderReturns := by
  intro before call after reached split ran
  have last : before = olderReturns.take 4 ∧ call = 0 := by
    rcases before with _ | ⟨e0, _ | ⟨e1, _ | ⟨e2, _ | ⟨e3, _ | ⟨e4, before⟩⟩⟩⟩⟩ <;>
      simp [olderReturns] at split
    obtain ⟨rfl, rfl, rfl, rfl, rfl, -⟩ := split
    exact ⟨rfl, rfl⟩
  obtain ⟨rfl, rfl⟩ := last
  cases ran
  intro older other between id after' listed c member
  have unique := @split_unique _ _ [] [(1, "tx-b"), (2, "tx-a")]
    (older ++ (other, id) :: between) after' 0 "tx-a" id (by decide)
    (by simpa [Calls.start] using listed)
  simp at unique

theorem pendingTransactionId_tracks_olderReturns :
    ∃ calls, run (step Rust.PendingTransactionId.slot) (Calls.start ⟨[]⟩) olderReturns =
        some calls ∧
      calls.slot.ids = ["tx-b", "tx-a"] ∧ calls.Faithful Rust.PendingTransactionId.slot := by
  have ran : run (step Rust.PendingTransactionId.slot) (Calls.start ⟨[]⟩) olderReturns =
      some ⟨⟨["tx-b", "tx-a"]⟩, [(1, "tx-b"), (2, "tx-a")], [2, 1, 0], [1]⟩ := rfl
  have tracked := ((pendingTransactionId_tracks_iff ℕ).1 olderReturns _ ran).mpr
    olderReturns_clearsUnmixed
  exact ⟨_, ran, rfl, tracked olderReturns [] _ (by simp) ran⟩

/-- Two calls with one id and a third one between them; the later of the two returns. -/
def laterReturns : List (Event ℕ String) :=
  [.set 0 "tx-a", .set 1 "tx-b", .set 2 "tx-a", .clear 2]

/-- The id of the call that is still in flight has moved behind that of a later call. -/
theorem laterReturns_reorders :
    ∃ calls, run (step Rust.PendingTransactionId.slot) (Calls.start ⟨[]⟩) laterReturns =
        some calls ∧
      calls.inFlight = [(0, "tx-a"), (1, "tx-b")] ∧ calls.slot.ids = ["tx-b", "tx-a"] ∧
      ¬ ∀ (events : List (Event ℕ String)) (calls : Calls ℕ String Rust.PendingTransactionId),
        run (step Rust.PendingTransactionId.slot) (Calls.start ⟨[]⟩) events = some calls →
        calls.Faithful Rust.PendingTransactionId.slot := by
  have ran : run (step Rust.PendingTransactionId.slot) (Calls.start ⟨[]⟩) laterReturns =
      some ⟨⟨["tx-b", "tx-a"]⟩, [(0, "tx-a"), (1, "tx-b")], [2, 1, 0], []⟩ := by
    rfl
  refine ⟨_, ran, rfl, rfl, ?_⟩
  intro always
  have listed : ["tx-b", "tx-a"] = ["tx-a", "tx-b"] := always laterReturns _ ran
  exact absurd listed (by decide)

end Keychain
