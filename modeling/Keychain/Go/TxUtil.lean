import Keychain.Go.Remote

/-!
`core/txutil.go`: placing a signature into a transaction and telling whether a
transaction is completely signed.

The two loops of the source keep their shape; `growSignatures_eq` and
`hasAllRequiredSignatures_iff` say what they compute.
-/

namespace Keychain.Go

/-- The loop of `AddSignature` that appends zero signatures. -/
def growSignatures (numRequired : ℕ) (signatures : List Signature) : List Signature :=
  if signatures.length < numRequired then
    growSignatures numRequired (signatures ++ [Signature.default])
  else
    signatures
termination_by numRequired - signatures.length

/-- Places the signature at the key's required-signer position, growing the
signatures to the required number first. -/
def addSignature [Packages] (tx : VersionedTransaction) (pubkey : Pubkey)
    (signature : Signature) : Except Error VersionedTransaction := do
  let pos ← signingPosition tx pubkey
  pure { tx with
    signatures := (growSignatures tx.message.numRequired tx.signatures).set pos signature }

/-- `Signature.IsZero`. -/
def isZero (signature : Signature) : Bool := signature == Signature.default

/-- The loop of `HasAllRequiredSignatures` from slot `i` on. -/
def filledFrom (signatures : List Signature) (numRequired i : ℕ) : Bool :=
  if i < numRequired then
    if isZero (signatures.getD i Signature.default) then
      false
    else
      filledFrom signatures numRequired (i + 1)
  else
    true
termination_by numRequired - i

/-- Every required signature slot is filled with a non-zero signature. -/
def hasAllRequiredSignatures (tx : VersionedTransaction) : Bool :=
  if tx.signatures.length < tx.message.numRequired then
    false
  else
    filledFrom tx.signatures tx.message.numRequired 0

/-! ## What they compute -/

theorem growSignatures_eq {numRequired : ℕ} {signatures : List Signature} :
    growSignatures numRequired signatures =
      signatures ++ List.replicate (numRequired - signatures.length) Signature.default := by
  fun_induction growSignatures numRequired signatures with
  | case1 signatures short ih =>
    have missing : numRequired - signatures.length =
        numRequired - (signatures ++ [Signature.default]).length + 1 := by
      rw [List.length_append, List.length_singleton]
      omega
    rw [ih, missing, List.replicate_succ, List.append_assoc, List.singleton_append]
  | case2 signatures enough =>
    have missing : numRequired - signatures.length = 0 := by omega
    rw [missing, List.replicate_zero, List.append_nil]

theorem filledFrom_iff {signatures : List Signature} {numRequired i : ℕ} :
    filledFrom signatures numRequired i ↔
      ∀ j, i ≤ j → j < numRequired → signatures.getD j Signature.default ≠ Signature.default := by
  fun_induction filledFrom signatures numRequired i with
  | case1 i inside zero =>
    simp only [Bool.false_eq_true, false_iff, not_forall]
    have empty : signatures.getD i Signature.default = Signature.default := by
      simpa [isZero] using zero
    exact ⟨i, Nat.le_refl i, inside, fun filled => filled empty⟩
  | case2 i inside filled ih =>
    rw [ih]
    constructor
    · intro later j from_i below
      rcases Nat.eq_or_lt_of_le from_i with here | after
      · subst here
        simpa [isZero] using filled
      · exact later j after below
    · intro all j after below
      exact all j (Nat.le_of_succ_le after) below
  | case3 i outside =>
    simp only [true_iff]
    intro j from_i below
    omega

/-- Completeness reads every required slot. -/
theorem hasAllRequiredSignatures_iff {tx : VersionedTransaction} :
    hasAllRequiredSignatures tx ↔
      ∀ i < tx.message.numRequired,
        ∃ slot, tx.signatures[i]? = some slot ∧ slot ≠ Signature.default := by
  unfold hasAllRequiredSignatures
  split
  · next short =>
    simp only [Bool.false_eq_true, false_iff, not_forall]
    refine ⟨tx.signatures.length, short, ?_⟩
    intro given
    rcases given with ⟨slot, found, -⟩
    simp at found
  · next enough =>
    rw [filledFrom_iff]
    constructor
    · intro filled i required
      have bound : i < tx.signatures.length := by omega
      have found := List.getElem?_eq_getElem bound
      have nonDefault := filled i (Nat.zero_le i) required
      rw [List.getD_eq_getElem?_getD, found, Option.getD_some] at nonDefault
      exact ⟨tx.signatures[i], found, nonDefault⟩
    · intro filled i _ required
      rcases filled i required with ⟨slot, found, nonDefault⟩
      rw [List.getD_eq_getElem?_getD, found, Option.getD_some]
      exact nonDefault

end Keychain.Go
