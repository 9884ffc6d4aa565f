import Mathlib.Data.List.Lex

/-!
The order of encoded words.

Words over an alphabet are compared by the codes of their letters, one code after the
other. Where codes are ordered as a rank orders the letters (`Ordered`), words compare as
the lists of their ranks do (`Ordered.flatMap_le`). Two ranks compare two words alike
exactly when they agree on the first letters in which the words differ (`map_le_alike`).
-/

namespace Keychain.CodeOrder

variable {α : Type}

/-- The codes are in the order of the ranks, whatever follows them. -/
structure Ordered (code : α → List ℕ) (rank : α → ℕ) : Prop where
  separates : Function.Injective rank
  nonempty : ∀ a, code a ≠ []
  before : ∀ a b, rank a < rank b → ∀ s t, code a ++ s < code b ++ t

theorem append_lt_append_iff {p s t : List ℕ} : p ++ s < p ++ t ↔ s < t := by
  induction p with
  | nil => exact Iff.rfl
  | cons n p ih => simp [ih]

section

variable {code : α → List ℕ} {rank : α → ℕ}

theorem Ordered.flatMap_lt (ordered : Ordered code rank) {as bs : List α} :
    as.flatMap code < bs.flatMap code ↔ as.map rank < bs.map rank := by
  induction as generalizing bs with
  | nil =>
    cases bs with
    | nil => exact Iff.rfl
    | cons b bs =>
      obtain ⟨n, rest, written⟩ := List.exists_cons_of_ne_nil (ordered.nonempty b)
      simp [written]
  | cons a as ih =>
    cases bs with
    | nil => simp
    | cons b bs =>
      rw [List.flatMap_cons, List.flatMap_cons, List.map_cons, List.map_cons,
        List.cons_lt_cons_iff]
      rcases lt_trichotomy (rank a) (rank b) with less | same | more
      · exact ⟨fun _ => .inl less, fun _ => ordered.before a b less _ _⟩
      · rw [ordered.separates same, append_lt_append_iff, ih]
        simp
      · have behind := ordered.before b a more (bs.flatMap code) (as.flatMap code)
        refine ⟨fun less => absurd less (lt_asymm behind), fun less => ?_⟩
        omega

theorem Ordered.flatMap_le (ordered : Ordered code rank) {as bs : List α} :
    as.flatMap code ≤ bs.flatMap code ↔ as.map rank ≤ bs.map rank := by
  rw [← not_lt, ← not_lt, ordered.flatMap_lt]

theorem Ordered.flatMap_injective (ordered : Ordered code rank) :
    Function.Injective fun as : List α => as.flatMap code := by
  intro as bs same
  have le := ordered.flatMap_le.mp (le_of_eq same)
  have ge := ordered.flatMap_le.mp (ge_of_eq same)
  exact List.map_injective_iff.mpr ordered.separates (le_antisymm le ge)

end

/-! ## Two ranks -/

/-- The first letters in which two words differ, unless one word begins the other. -/
def firstDifference [DecidableEq α] : List α → List α → Option (α × α)
  | a :: as, b :: bs => if a = b then firstDifference as bs else some (a, b)
  | _, _ => none

section

variable [DecidableEq α] {rank rank' : α → ℕ}

theorem firstDifference_ne {as bs : List α} {pair : α × α}
    (differ : firstDifference as bs = some pair) : pair.1 ≠ pair.2 := by
  induction as generalizing bs with
  | nil => cases differ
  | cons a as ih =>
    cases bs with
    | nil => cases differ
    | cons b bs =>
      rw [firstDifference] at differ
      split at differ
      · exact ih differ
      · rename_i apart
        cases differ
        exact apart

theorem firstDifference_swap {as bs : List α} :
    firstDifference bs as = (firstDifference as bs).map Prod.swap := by
  induction as generalizing bs with
  | nil =>
    cases bs with
    | nil => rfl
    | cons b bs => rfl
  | cons a as ih =>
    cases bs with
    | nil => rfl
    | cons b bs =>
      rw [firstDifference, firstDifference]
      by_cases same : a = b
      · rw [if_pos same, if_pos same.symm, ih]
      · rw [if_neg same, if_neg (Ne.symm same)]
        rfl

/-- Words compare as the first letters in which they differ. -/
theorem map_le_of_firstDifference (separates : Function.Injective rank) {as bs : List α}
    {pair : α × α} (differ : firstDifference as bs = some pair) :
    as.map rank ≤ bs.map rank ↔ rank pair.1 < rank pair.2 := by
  induction as generalizing bs with
  | nil => cases differ
  | cons a as ih =>
    cases bs with
    | nil => cases differ
    | cons b bs =>
      rw [firstDifference] at differ
      rw [List.map_cons, List.map_cons, ← not_lt, List.cons_lt_cons_iff]
      split at differ
      · rename_i same
        rw [← ih differ, same]
        simp
      · rename_i apart
        cases differ
        have apart' : rank a ≠ rank b := fun same => apart (separates same)
        simp only [apart'.symm, false_and, or_false, not_lt]
        exact ⟨fun le => lt_of_le_of_ne le apart', le_of_lt⟩

/-- A word that begins another one comes first in either order. -/
theorem map_le_of_none {as bs : List α} (begins : firstDifference as bs = none) :
    as.map rank ≤ bs.map rank ↔ as.map rank' ≤ bs.map rank' := by
  induction as generalizing bs with
  | nil => simp [← not_lt]
  | cons a as ih =>
    cases bs with
    | nil => simp [← not_lt]
    | cons b bs =>
      rw [firstDifference] at begins
      split at begins
      · rename_i same
        have others := ih begins
        simp only [← not_lt] at others ⊢
        simp [same, not_iff_not.mp others]
      · cases begins

/-- Two ranks compare two words alike just when they agree where the words first differ. -/
theorem map_le_alike (separates : Function.Injective rank)
    (separates' : Function.Injective rank') {as bs : List α} :
    (as.map rank ≤ bs.map rank ↔ as.map rank' ≤ bs.map rank') ↔
      ∀ pair, firstDifference as bs = some pair →
        (rank pair.1 < rank pair.2 ↔ rank' pair.1 < rank' pair.2) := by
  cases differ : firstDifference as bs with
  | none =>
    refine ⟨fun _ pair found => ?_, fun _ => map_le_of_none differ⟩
    cases found
  | some pair =>
    rw [map_le_of_firstDifference separates differ, map_le_of_firstDifference separates' differ]
    refine ⟨fun alike other found => ?_, fun alike => alike pair rfl⟩
    cases found
    exact alike

end

end Keychain.CodeOrder
