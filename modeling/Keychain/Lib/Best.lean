import Mathlib.Data.List.Perm.Basic
import Mathlib.Data.List.Sigma

/-!
The one best entry of a list, by a score.

An entry is best when it beats every other one, so two entries of the highest score
leave no best one. `filter_eq_singleton_iff_isBest` finds it in passes: the highest
score, then the entries that reach it. `exists_isBest_iff_perm` says which value is
best without saying where it stands.
-/

namespace Keychain

variable {α : Type} {score : α → ℕ} {entries permuted : List α}

/-- Entry `i` is `a`, and it beats every other entry. -/
def IsBest (score : α → ℕ) (entries : List α) (i : ℕ) (a : α) : Prop :=
  entries[i]? = some a ∧ ∀ j b, entries[j]? = some b → j ≠ i → score b < score a

/-! ## The highest score -/

theorem foldl_max_le_iff {scores : List ℕ} {start bound : ℕ} :
    scores.foldl max start ≤ bound ↔ start ≤ bound ∧ ∀ n ∈ scores, n ≤ bound := by
  induction scores generalizing start with
  | nil => simp
  | cons n scores ih => rw [List.foldl_cons, ih, Nat.max_le, List.forall_mem_cons, and_assoc]

theorem score_le_foldl_max {a : α} (member : a ∈ entries) :
    score a ≤ (entries.map score).foldl max 0 := by
  have bounded := (foldl_max_le_iff.mp (Nat.le_refl ((entries.map score).foldl max 0))).2
  exact bounded (score a) (List.mem_map_of_mem member)

/-- The entries of the highest score are those no entry beats. -/
theorem score_eq_foldl_max_iff {a : α} (member : a ∈ entries) :
    score a = (entries.map score).foldl max 0 ↔ ∀ b ∈ entries, score b ≤ score a := by
  constructor
  · intro highest b other
    rw [highest]
    exact score_le_foldl_max other
  · intro bounded
    apply Nat.le_antisymm (score_le_foldl_max member)
    apply foldl_max_le_iff.mpr
    refine ⟨Nat.zero_le _, ?_⟩
    intro n scored
    rcases List.mem_map.mp scored with ⟨b, other, rfl⟩
    exact bounded b other

/-! ## The best entry -/

/-- Exactly one entry passes a test when it passes it and no other does. -/
theorem zipIdx_filter_eq_singleton_iff {p : α → Bool} {i : ℕ} {a : α} :
    (entries.zipIdx.filter fun entry => p entry.1) = [(a, i)] ↔
      entries[i]? = some a ∧ p a = true ∧
        ∀ j b, entries[j]? = some b → p b = true → j = i := by
  have distinct : (entries.zipIdx.filter fun entry => p entry.1).Nodup := by
    apply List.Nodup.filter
    exact List.Nodup.of_map Prod.snd (List.nodup_zipIdx_map_snd entries)
  have passes : ∀ j b, (b, j) ∈ (entries.zipIdx.filter fun entry => p entry.1) ↔
      entries[j]? = some b ∧ p b = true := by
    intro j b
    rw [List.mem_filter, List.mk_mem_zipIdx_iff_getElem?]
  constructor
  · intro only
    have here := (passes i a).mp (only ▸ List.mem_singleton_self _)
    refine ⟨here.1, here.2, ?_⟩
    intro j b found passed
    have there : (b, j) ∈ [(a, i)] := only ▸ (passes j b).mpr ⟨found, passed⟩
    cases List.mem_singleton.mp there
    rfl
  · intro given
    rcases given with ⟨found, passed, alone⟩
    apply List.perm_singleton.mp
    apply (List.perm_ext_iff_of_nodup distinct (List.nodup_singleton _)).mpr
    intro entry
    rcases entry with ⟨b, j⟩
    rw [passes, List.mem_singleton, Prod.mk.injEq]
    constructor
    · intro there
      have same := alone j b there.1 there.2
      subst same
      cases found.symm.trans there.1
      exact ⟨rfl, rfl⟩
    · intro same
      rcases same with ⟨rfl, rfl⟩
      exact ⟨found, passed⟩

/-- The best entry is the only one of the highest score. -/
theorem filter_eq_singleton_iff_isBest {i : ℕ} {a : α} :
    (entries.zipIdx.filter fun entry =>
      decide (score entry.1 = (entries.map score).foldl max 0)) = [(a, i)] ↔
      IsBest score entries i a := by
  have highest : ∀ j b, entries[j]? = some b →
      (score b = (entries.map score).foldl max 0 ↔ ∀ c ∈ entries, score c ≤ score b) :=
    fun j b found => score_eq_foldl_max_iff (List.mem_of_getElem? found)
  rw [zipIdx_filter_eq_singleton_iff (p := fun b =>
    decide (score b = (entries.map score).foldl max 0)), IsBest]
  simp only [decide_eq_true_eq]
  constructor
  · intro given
    rcases given with ⟨found, top, alone⟩
    refine ⟨found, ?_⟩
    intro j b other distinct
    have least := (highest i a found).mp top b (List.mem_of_getElem? other)
    have unequal : score b ≠ score a := fun equal => distinct (alone j b other (equal.trans top))
    omega
  · intro given
    rcases given with ⟨found, beats⟩
    have bounded : ∀ b ∈ entries, score b ≤ score a := by
      intro b member
      rcases List.mem_iff_getElem?.mp member with ⟨j, other⟩
      by_cases same : j = i
      · subst same
        cases found.symm.trans other
        exact Nat.le_refl _
      · exact Nat.le_of_lt (beats j b other same)
    refine ⟨found, (highest i a found).mpr bounded, ?_⟩
    intro j b other top
    by_contra distinct
    have above := (highest j b other).mp top a (List.mem_of_getElem? found)
    have below := beats j b other distinct
    omega

/-- What is best in a list, wherever it stands. -/
theorem exists_isBest_iff_perm {a : α} :
    (∃ i, IsBest score entries i a) ↔
      ∃ others, entries.Perm (a :: others) ∧ ∀ b ∈ others, score b < score a := by
  constructor
  · intro given
    rcases given with ⟨i, found, beats⟩
    rcases List.getElem?_eq_some_iff.mp found with ⟨inside, rfl⟩
    refine ⟨entries.eraseIdx i, (List.getElem_cons_eraseIdx_perm inside).symm, ?_⟩
    intro b member
    rcases List.mem_eraseIdx_iff_getElem?.mp member with ⟨j, distinct, other⟩
    exact beats j b other distinct
  · intro given
    rcases given with ⟨others, same, beats⟩
    have member : a ∈ entries := same.mem_iff.mpr List.mem_cons_self
    rcases List.mem_iff_getElem?.mp member with ⟨i, found⟩
    rcases List.getElem?_eq_some_iff.mp found with ⟨inside, rfl⟩
    have rest : (entries.eraseIdx i).Perm others :=
      ((List.getElem_cons_eraseIdx_perm inside).trans same).cons_inv
    refine ⟨i, found, ?_⟩
    intro j b other distinct
    apply beats b
    exact rest.mem_iff.mp (List.mem_eraseIdx_iff_getElem?.mpr ⟨j, distinct, other⟩)

/-- Reordering the entries does not change which value is best. -/
theorem exists_isBest_congr_perm {a : α} (same : permuted.Perm entries) :
    (∃ i, IsBest score permuted i a) ↔ ∃ i, IsBest score entries i a := by
  simp only [exists_isBest_iff_perm]
  constructor
  · intro given
    rcases given with ⟨others, listed, beats⟩
    exact ⟨others, same.symm.trans listed, beats⟩
  · intro given
    rcases given with ⟨others, listed, beats⟩
    exact ⟨others, same.trans listed, beats⟩

end Keychain
