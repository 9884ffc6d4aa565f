import Keychain.Go.TxUtil
import Keychain.Lib.Slots
import Keychain.Rust.TransactionUtil
import Mathlib.Tactic.Tauto

/-!
Assembling the signatures of a transaction that several keys have to sign.

Each signer places its own signature, in whatever order the transaction is passed
around and as often as it comes by. `assembled` is the transaction this leads to,
in closed form; Rust's `add_signature_to_transaction` and Go's `AddSignature` both
arrive there (`addSignatures_eq`), so the order is of no consequence.
-/

namespace Keychain

variable {E : Type}

/-! ## Placing one signature after the other -/

/-- Place the assigned signature of each key in turn. -/
def addSignatures (add : VersionedTransaction → Pubkey → Signature → Except E VersionedTransaction)
    (assigned : Pubkey → Signature) (transaction : VersionedTransaction) (keys : List Pubkey) :
    Except E VersionedTransaction :=
  keys.foldlM (fun transaction key => add transaction key (assigned key)) transaction

/-- What both implementations do with one signature. -/
structure Places (add : VersionedTransaction → Pubkey → Signature →
    Except E VersionedTransaction) : Prop where
  /-- The slots are extended to the required number, and the key's first required
  position is overwritten. -/
  placed : ∀ transaction key signature position,
    transaction.message.numRequired ≤ transaction.message.staticAccountKeys.length →
    transaction.message.requiredKeys.idxOf? key = some position →
    add transaction key signature = .ok { transaction with
      signatures := (Rust.resizedSignatures transaction).set position signature }
  /-- A message that lists too few keys is refused, whichever key signs. -/
  refused : ∃ e, ∀ transaction key signature,
    transaction.message.staticAccountKeys.length < transaction.message.numRequired →
    add transaction key signature = .error e

theorem Rust.addSignatureToTransaction_places [Rust.Crates] :
    Places Rust.addSignatureToTransaction where
  placed transaction key signature position enough found := by
    rw [Rust.addSignatureToTransaction_eq_ok]
    exact ⟨position, Rust.getSigningKeypairPosition_eq_ok.mpr ⟨enough, found⟩, rfl⟩
  refused := by
    refine ⟨.signingFailed "Invalid account index: not enough account keys", ?_⟩
    intro transaction key signature short
    have refused : Rust.getSigningKeypairPosition transaction key =
        .error (.signingFailed "Invalid account index: not enough account keys") := by
      rw [Rust.getSigningKeypairPosition, if_pos short]
    rw [Rust.addSignatureToTransaction, refused]
    rfl

theorem Go.addSignature_places [Go.Packages] : Places Go.addSignature where
  placed transaction key signature position enough found := by
    have located : Go.signingPosition transaction key = .ok position := by
      rw [Go.signingPosition, if_neg (Nat.not_lt.mpr enough), found]
    rw [Go.addSignature, located, Go.growSignatures_eq]
    rfl
  refused := by
    refine ⟨Go.newSignerError .signingFailed "invalid account index: not enough account keys", ?_⟩
    intro transaction key signature short
    have refused : Go.signingPosition transaction key = .error (Go.newSignerError .signingFailed
        "invalid account index: not enough account keys") := by
      rw [Go.signingPosition, if_pos short]
    rw [Go.addSignature, refused]
    rfl

/-! ## The closed form -/

/-- The signature assigned to the key of a required position. -/
def slotValue (assigned : Pubkey → Signature) (message : VersionedMessage) (i : ℕ) : Signature :=
  (message.requiredKeys[i]?.map assigned).getD Signature.default

/-- The first required position of each key. -/
def positionsOf (message : VersionedMessage) (keys : List Pubkey) : List ℕ :=
  keys.map message.requiredKeys.idxOf

/-- The slots before the first signature is written: they are extended as soon as
anybody signs. -/
def openSlots (transaction : VersionedTransaction) (keys : List Pubkey) : List Signature :=
  if keys.isEmpty then transaction.signatures else Rust.resizedSignatures transaction

/-- The transaction once every key of the list has signed. -/
def assembled (assigned : Pubkey → Signature) (transaction : VersionedTransaction)
    (keys : List Pubkey) : VersionedTransaction :=
  { transaction with
    signatures := fill (slotValue assigned transaction.message) (openSlots transaction keys)
      (positionsOf transaction.message keys) }

section

variable {add : VersionedTransaction → Pubkey → Signature → Except E VersionedTransaction}
  {assigned : Pubkey → Signature} {transaction : VersionedTransaction}
  {keys keys' : List Pubkey} {key : Pubkey} {i : ℕ}

theorem idxOf?_requiredKeys (required : key ∈ transaction.message.requiredKeys) :
    transaction.message.requiredKeys.idxOf? key =
      some (transaction.message.requiredKeys.idxOf key) := by
  cases found : transaction.message.requiredKeys.idxOf? key with
  | none => exact absurd required (List.idxOf?_eq_none_iff.mp found)
  | some position =>
    have first : transaction.message.requiredKeys.idxOf key = position := by
      rw [List.idxOf, List.findIdx_eq_getD_findIdx?]
      change (transaction.message.requiredKeys.idxOf? key).getD _ = position
      rw [found, Option.getD_some]
    rw [first]

theorem slotValue_idxOf (required : key ∈ transaction.message.requiredKeys) :
    slotValue assigned transaction.message (transaction.message.requiredKeys.idxOf key) =
      assigned key := by
  have found := List.getElem?_idxOf required
  rw [slotValue, found, Option.map_some, Option.getD_some]

/-- Slots that are long enough stay as they are. -/
theorem resizedSignatures_of_le
    (sized : transaction.message.numRequired ≤ transaction.signatures.length) :
    Rust.resizedSignatures transaction = transaction.signatures := by
  have missing : transaction.message.numRequired - transaction.signatures.length = 0 := by omega
  rw [Rust.resizedSignatures, missing, List.replicate_zero, List.append_nil]

theorem numRequired_le_length_resizedSignatures :
    transaction.message.numRequired ≤ (Rust.resizedSignatures transaction).length := by
  rw [Rust.resizedSignatures, List.length_append, List.length_replicate]
  omega

/-- One signature, on a key that the message requires. -/
theorem add_eq (assigned : Pubkey → Signature) (places : Places add)
    (enough : transaction.message.numRequired ≤ transaction.message.staticAccountKeys.length)
    (required : key ∈ transaction.message.requiredKeys) :
    add transaction key (assigned key) = .ok { transaction with
      signatures := fill (slotValue assigned transaction.message)
        (Rust.resizedSignatures transaction) (positionsOf transaction.message [key]) } := by
  rw [places.placed transaction key (assigned key) _ enough (idxOf?_requiredKeys required)]
  simp [positionsOf, fill, slotValue_idxOf required]

/-- From slots that are long enough each key only writes its own. -/
theorem addSignatures_of_sized (places : Places add)
    (enough : transaction.message.numRequired ≤ transaction.message.staticAccountKeys.length)
    (required : ∀ key ∈ keys, key ∈ transaction.message.requiredKeys)
    (sized : transaction.message.numRequired ≤ transaction.signatures.length) :
    addSignatures add assigned transaction keys = .ok { transaction with
      signatures := fill (slotValue assigned transaction.message) transaction.signatures
        (positionsOf transaction.message keys) } := by
  induction keys generalizing transaction with
  | nil => rfl
  | cons key keys ih =>
    have first := add_eq assigned places enough (required key List.mem_cons_self)
    rw [resizedSignatures_of_le sized] at first
    rw [addSignatures, List.foldlM_cons, first]
    refine ih enough (fun key member => required key (List.mem_cons_of_mem _ member)) ?_
    simpa [positionsOf, fill] using sized

/-- The first key extends the slots; after that they are long enough. -/
theorem addSignatures_eq (places : Places add)
    (enough : transaction.message.numRequired ≤ transaction.message.staticAccountKeys.length)
    (required : ∀ key ∈ keys, key ∈ transaction.message.requiredKeys) :
    addSignatures add assigned transaction keys = .ok (assembled assigned transaction keys) := by
  cases keys with
  | nil => rfl
  | cons key keys =>
    have first := add_eq assigned places enough (required key List.mem_cons_self)
    rw [addSignatures, List.foldlM_cons, first]
    have sized : transaction.message.numRequired ≤
        (fill (slotValue assigned transaction.message) (Rust.resizedSignatures transaction)
          (positionsOf transaction.message [key])).length := by
      have resized : transaction.message.numRequired ≤
          (Rust.resizedSignatures transaction).length := numRequired_le_length_resizedSignatures
      simpa [positionsOf, fill] using resized
    exact addSignatures_of_sized places enough
      (fun key member => required key (List.mem_cons_of_mem _ member)) sized

/-- A message that lists too few keys takes no signature at all. -/
theorem addSignatures_refused (assigned : Pubkey → Signature) (places : Places add)
    (short : transaction.message.staticAccountKeys.length < transaction.message.numRequired) :
    ∃ e, ∀ keys, keys ≠ [] → addSignatures add assigned transaction keys = .error e := by
  rcases places.refused with ⟨e, refused⟩
  refine ⟨e, ?_⟩
  intro keys signing
  cases keys with
  | nil => exact absurd rfl signing
  | cons key keys =>
    rw [addSignatures, List.foldlM_cons, refused transaction key _ short]
    rfl

/-! ## Reading the slots -/

/-- Position `i` was written exactly when its key is in the list. -/
theorem mem_positionsOf (distinct : transaction.message.requiredKeys.Nodup)
    (required : ∀ key ∈ keys, key ∈ transaction.message.requiredKeys) :
    i ∈ positionsOf transaction.message keys ↔
      ∃ key ∈ keys, transaction.message.requiredKeys[i]? = some key := by
  simp only [positionsOf, List.mem_map]
  constructor
  · intro written
    rcases written with ⟨key, member, rfl⟩
    exact ⟨key, member, List.getElem?_idxOf (required key member)⟩
  · intro written
    rcases written with ⟨key, member, found⟩
    rcases List.getElem?_eq_some_iff.mp found with ⟨bound, rfl⟩
    exact ⟨_, member, distinct.idxOf_getElem i bound⟩

/-- A required slot of somebody who signed is among the open slots. -/
theorem openSlots_of_mem (transaction : VersionedTransaction) (signing : key ∈ keys)
    (bound : i < transaction.message.numRequired) :
    ∃ slot, (openSlots transaction keys)[i]? = some slot := by
  have nonempty : keys.isEmpty = false := by
    cases keys with
    | nil => cases signing
    | cons _ _ => rfl
  have sized : transaction.message.numRequired ≤ (Rust.resizedSignatures transaction).length :=
    numRequired_le_length_resizedSignatures
  rw [openSlots, nonempty, if_neg Bool.false_ne_true]
  exact ⟨_, List.getElem?_eq_getElem (by omega)⟩

/-- The open slots are the caller's, with default signatures after them. -/
theorem getElem?_openSlots :
    (openSlots transaction keys)[i]? = transaction.signatures[i]? ∨
      transaction.signatures[i]? = none ∧
        (openSlots transaction keys)[i]? = some Signature.default := by
  unfold openSlots
  split
  · exact .inl rfl
  · rw [Rust.resizedSignatures]
    by_cases inside : i < transaction.signatures.length
    · exact .inl (List.getElem?_append_left inside)
    · rw [List.getElem?_append_right (Nat.not_lt.mp inside), List.getElem?_replicate]
      have absent : transaction.signatures[i]? = none :=
        List.getElem?_eq_none (Nat.not_lt.mp inside)
      split
      · exact .inr ⟨absent, rfl⟩
      · exact .inl absent.symm

end

/-! ## Any order -/

/-- The slot of a key in the list holds its signature. -/
def HoldsSigned (assigned : Pubkey → Signature) (keys : List Pubkey)
    (transaction after : VersionedTransaction) : Prop :=
  ∀ (i : ℕ), ∀ key ∈ keys, transaction.message.requiredKeys[i]? = some key →
    after.signatures[i]? = some (assigned key)

/-- Every other slot is as it was, or a default signature where there was none. -/
def KeepsOthers (keys : List Pubkey) (transaction after : VersionedTransaction) : Prop :=
  ∀ (i : ℕ), (∀ key ∈ keys, transaction.message.requiredKeys[i]? ≠ some key) →
    after.signatures[i]? = transaction.signatures[i]? ∨
      transaction.signatures[i]? = none ∧ after.signatures[i]? = some Signature.default

/-- What assembling a transaction comes to, for one way to place a signature and
one check for completeness. -/
structure AssemblesInAnyOrder
    (add : VersionedTransaction → Pubkey → Signature → Except E VersionedTransaction)
    (complete : VersionedTransaction → Bool) (assigned : Pubkey → Signature)
    (transaction : VersionedTransaction) : Prop where
  /-- Lists with the same keys lead to the same transaction. -/
  sameKeys : ∀ keys keys', (∀ key ∈ keys, key ∈ transaction.message.requiredKeys) →
    (∀ key, key ∈ keys ↔ key ∈ keys') →
    addSignatures add assigned transaction keys = addSignatures add assigned transaction keys'
  /-- Every required key can sign, as long as the message lists the keys it requires. -/
  succeeds : ∀ keys, (∀ key ∈ keys, key ∈ transaction.message.requiredKeys) →
    transaction.message.numRequired ≤ transaction.message.staticAccountKeys.length →
    ∃ after, addSignatures add assigned transaction keys = .ok after
  /-- The message and the slots of other keys are left alone. -/
  slots : ∀ keys after, (∀ key ∈ keys, key ∈ transaction.message.requiredKeys) →
    addSignatures add assigned transaction keys = .ok after →
    after.message = transaction.message ∧ HoldsSigned assigned keys transaction after ∧
      KeepsOthers keys transaction after
  /-- From default slots the transaction is complete exactly when every required
  position has a key, in the list, whose signature is not the default one. -/
  completes : ∀ keys after, (∀ key ∈ keys, key ∈ transaction.message.requiredKeys) →
    (∀ slot ∈ transaction.signatures, slot = Signature.default) →
    addSignatures add assigned transaction keys = .ok after →
    (complete after ↔ ∀ i < transaction.message.numRequired,
      ∃ key ∈ keys, transaction.message.requiredKeys[i]? = some key ∧
        assigned key ≠ Signature.default)

section

variable {add : VersionedTransaction → Pubkey → Signature → Except E VersionedTransaction}
  {complete : VersionedTransaction → Bool} {assigned : Pubkey → Signature}
  {transaction after : VersionedTransaction} {keys keys' : List Pubkey}

/-- An assembly that succeeds is the closed form: only a message that lists too few
keys is refused, and then nobody signs. -/
theorem eq_assembled (places : Places add)
    (required : ∀ key ∈ keys, key ∈ transaction.message.requiredKeys)
    (done : addSignatures add assigned transaction keys = .ok after) :
    after = assembled assigned transaction keys := by
  by_cases enough :
    transaction.message.numRequired ≤ transaction.message.staticAccountKeys.length
  · rw [addSignatures_eq places enough required] at done
    exact (Except.ok.inj done).symm
  · have refused := addSignatures_refused assigned places (Nat.not_le.mp enough)
    rcases refused with ⟨e, refused⟩
    by_cases nobody : keys = []
    · subst nobody
      exact (Except.ok.inj done).symm
    · rw [refused keys nobody] at done
      cases done

theorem holdsSigned_assembled (distinct : transaction.message.requiredKeys.Nodup)
    (required : ∀ key ∈ keys, key ∈ transaction.message.requiredKeys) :
    HoldsSigned assigned keys transaction (assembled assigned transaction keys) := by
  intro i key member here
  have written := (mem_positionsOf distinct required).mpr ⟨key, member, here⟩
  have bound : i < transaction.message.numRequired := by
    rcases List.getElem?_eq_some_iff.mp here with ⟨inside, -⟩
    rw [VersionedMessage.requiredKeys, List.length_take] at inside
    omega
  rcases openSlots_of_mem transaction member bound with ⟨slot, opened⟩
  rw [assembled, getElem?_fill, if_pos written, opened, slotValue, here]
  rfl

theorem keepsOthers_assembled (distinct : transaction.message.requiredKeys.Nodup)
    (required : ∀ key ∈ keys, key ∈ transaction.message.requiredKeys) :
    KeepsOthers keys transaction (assembled assigned transaction keys) := by
  intro i elsewhere
  have unwritten : i ∉ positionsOf transaction.message keys := by
    intro written
    rcases (mem_positionsOf distinct required).mp written with ⟨key, member, here⟩
    exact elsewhere key member here
  rw [assembled, getElem?_fill, if_neg unwritten]
  exact getElem?_openSlots

/-- Completeness is read off the slots, so it follows from what each slot holds. -/
theorem completes_of_slots
    (reads : ∀ t, complete t ↔ ∀ i < t.message.numRequired,
      ∃ slot, t.signatures[i]? = some slot ∧ slot ≠ Signature.default)
    (message : after.message = transaction.message)
    (empty : ∀ slot ∈ transaction.signatures, slot = Signature.default)
    (signed : HoldsSigned assigned keys transaction after)
    (kept : KeepsOthers keys transaction after) :
    complete after ↔ ∀ i < transaction.message.numRequired,
      ∃ key ∈ keys, transaction.message.requiredKeys[i]? = some key ∧
        assigned key ≠ Signature.default := by
  rw [reads, message]
  refine forall₂_congr fun i bound => ?_
  constructor
  · intro filled
    rcases filled with ⟨slot, found, nonDefault⟩
    by_cases named : ∃ key ∈ keys, transaction.message.requiredKeys[i]? = some key
    · rcases named with ⟨key, member, here⟩
      have slotted := signed i key member here
      rw [found, Option.some.injEq] at slotted
      exact ⟨key, member, here, slotted ▸ nonDefault⟩
    · have elsewhere : ∀ key ∈ keys, transaction.message.requiredKeys[i]? ≠ some key := by
        intro key member here
        exact named ⟨key, member, here⟩
      -- nobody in the list wrote this slot, so it is still a default signature
      rcases kept i elsewhere with same | ⟨-, padded⟩
      · rw [found] at same
        exact absurd (empty slot (List.mem_of_getElem? same.symm)) nonDefault
      · rw [found, Option.some.injEq] at padded
        exact absurd padded nonDefault
  · intro named
    rcases named with ⟨key, member, here, nonDefault⟩
    exact ⟨assigned key, signed i key member here, nonDefault⟩

theorem assembled_eq_of_mem_iff (distinct : transaction.message.requiredKeys.Nodup)
    (required : ∀ key ∈ keys, key ∈ transaction.message.requiredKeys)
    (same : ∀ key, key ∈ keys ↔ key ∈ keys') :
    assembled assigned transaction keys = assembled assigned transaction keys' := by
  have required' : ∀ key ∈ keys', key ∈ transaction.message.requiredKeys :=
    fun key member => required key ((same key).mpr member)
  have opened : openSlots transaction keys = openSlots transaction keys' := by
    simp only [openSlots, List.isEmpty_iff, List.eq_nil_iff_forall_not_mem, same]
  have filled : fill (slotValue assigned transaction.message) (openSlots transaction keys')
      (positionsOf transaction.message keys) =
      fill (slotValue assigned transaction.message) (openSlots transaction keys')
        (positionsOf transaction.message keys') := by
    apply fill_eq_of_mem_iff
    intro i
    simp only [mem_positionsOf distinct required, mem_positionsOf distinct required', same]
  rw [assembled, assembled, opened, filled]

/-- Whoever places signatures as `Places` says assembles in any order. -/
theorem Places.assemblesInAnyOrder (places : Places add)
    (reads : ∀ t, complete t ↔ ∀ i < t.message.numRequired,
      ∃ slot, t.signatures[i]? = some slot ∧ slot ≠ Signature.default)
    (distinct : transaction.message.requiredKeys.Nodup) :
    AssemblesInAnyOrder add complete assigned transaction := by
  refine {
    sameKeys := ?_
    succeeds := fun keys required enough => ⟨_, addSignatures_eq places enough required⟩
    slots := ?_
    completes := ?_ }
  · intro keys keys' required same
    by_cases enough :
      transaction.message.numRequired ≤ transaction.message.staticAccountKeys.length
    · have required' : ∀ key ∈ keys', key ∈ transaction.message.requiredKeys :=
        fun key member => required key ((same key).mpr member)
      rw [addSignatures_eq places enough required, addSignatures_eq places enough required',
        assembled_eq_of_mem_iff distinct required same]
    · rcases addSignatures_refused assigned places (Nat.not_le.mp enough)
        with ⟨e, refused⟩
      have nobody : keys = [] ↔ keys' = [] := by
        simp only [List.eq_nil_iff_forall_not_mem, same]
      by_cases empty : keys = []
      · rw [empty, nobody.mp empty]
      · rw [refused keys empty, refused keys' fun none => empty (nobody.mpr none)]
  · intro keys after required done
    rw [eq_assembled places required done]
    exact ⟨rfl, holdsSigned_assembled distinct required, keepsOthers_assembled distinct required⟩
  · intro keys after required empty done
    rw [eq_assembled places required done]
    exact completes_of_slots reads rfl empty (holdsSigned_assembled distinct required)
      (keepsOthers_assembled distinct required)

end

/-- Rust and Go assemble a transaction with distinct required keys in any order,
into the same slots and with the same verdict on completeness. -/
theorem signatures_assemble_in_any_order [Rust.Crates] [Go.Packages]
    (assigned : Pubkey → Signature) (transaction : VersionedTransaction)
    (distinct : transaction.message.requiredKeys.Nodup) :
    AssemblesInAnyOrder Rust.addSignatureToTransaction Rust.hasAllRequiredSignatures assigned
        transaction ∧
      AssemblesInAnyOrder Go.addSignature Go.hasAllRequiredSignatures assigned transaction ∧
      (∀ keys, (∀ key ∈ keys, key ∈ transaction.message.requiredKeys) → ∀ after,
        addSignatures Rust.addSignatureToTransaction assigned transaction keys = .ok after ↔
          addSignatures Go.addSignature assigned transaction keys = .ok after) ∧
      ∀ after, Rust.hasAllRequiredSignatures after = Go.hasAllRequiredSignatures after := by
  have rust := Rust.addSignatureToTransaction_places
  have go := Go.addSignature_places
  refine ⟨rust.assemblesInAnyOrder (fun _ => Rust.hasAllRequiredSignatures_iff) distinct,
    go.assemblesInAnyOrder (fun _ => Go.hasAllRequiredSignatures_iff) distinct, ?_, ?_⟩
  · intro keys required after
    by_cases enough :
      transaction.message.numRequired ≤ transaction.message.staticAccountKeys.length
    · rw [addSignatures_eq rust enough required, addSignatures_eq go enough required]
      simp only [Except.ok.injEq]
    · rcases addSignatures_refused assigned rust (Nat.not_le.mp enough)
        with ⟨rustError, rustRefused⟩
      rcases addSignatures_refused assigned go (Nat.not_le.mp enough)
        with ⟨goError, goRefused⟩
      by_cases nobody : keys = []
      · subst nobody
        exact ⟨fun done => Except.ok.inj done ▸ rfl, fun done => Except.ok.inj done ▸ rfl⟩
      · rw [rustRefused keys nobody, goRefused keys nobody]
        simp only [reduceCtorEq]
  · intro after
    rw [Bool.eq_iff_iff, Rust.hasAllRequiredSignatures_iff, Go.hasAllRequiredSignatures_iff]

/-! ## Two signers -/

section

local instance assemblyCrates : Rust.Crates :=
  .linked emptyDigest (fun _ => .error "expected value") fun _ => "null"

local instance assemblyPackages : Go.Packages := .linked emptyDigest "null"

/-- The second signer of `pairTransaction`. -/
def secondPayer : Pubkey := ⟨2 :: List.replicate 31 0, rfl⟩

/-- A transaction that two keys have to sign, without any slots yet. -/
def pairTransaction : VersionedTransaction where
  signatures := []
  message := { emptyTransaction.message with
    header := ⟨2, 0, 0⟩
    staticAccountKeys := [emptyPayer, secondPayer] }

/-- The two signers may sign in either order, and again. -/
theorem pairTransaction_assembles :
    pairTransaction.message.requiredKeys.Nodup ∧
      addSignatures Rust.addSignatureToTransaction (fun _ => filledSignature) pairTransaction
          [emptyPayer, secondPayer] =
        addSignatures Rust.addSignatureToTransaction (fun _ => filledSignature) pairTransaction
          [secondPayer, emptyPayer, secondPayer] ∧
      Go.hasAllRequiredSignatures { pairTransaction with
        signatures := [filledSignature, filledSignature] } := by
  have distinct : pairTransaction.message.requiredKeys.Nodup := by decide +kernel
  have assembles :=
    signatures_assemble_in_any_order (fun _ => filledSignature) pairTransaction distinct
  refine ⟨distinct, ?_, by decide +kernel⟩
  refine assembles.1.sameKeys _ _ (by decide +kernel) ?_
  intro key
  simp only [List.mem_cons, List.not_mem_nil, or_false]
  tauto

end

end Keychain
