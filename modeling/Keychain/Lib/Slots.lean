import Mathlib.Data.List.Basic

/-!
Filling numbered slots in some order.

`fill` writes one value after the other. What a slot ends up with is read off by
`getElem?_fill`: it depends on whether the slot was written, not on when or how
often, so the order of the writes cannot matter (`fill_eq_of_mem_iff`).
-/

namespace Keychain

variable {α : Type} {value : ℕ → α} {slots : List α} {positions positions' : List ℕ}

/-- Write `value i` into slot `i`, for each position in turn. -/
def fill (value : ℕ → α) (slots : List α) (positions : List ℕ) : List α :=
  positions.foldl (fun slots i => slots.set i (value i)) slots

theorem fill_cons {i : ℕ} :
    fill value slots (i :: positions) = fill value (slots.set i (value i)) positions := rfl

/-- A slot holds its value once it was written, and what it held before otherwise. -/
theorem getElem?_fill {i : ℕ} :
    (fill value slots positions)[i]? =
      if i ∈ positions then slots[i]?.map fun _ => value i else slots[i]? := by
  induction positions generalizing slots with
  | nil => simp [fill]
  | cons j positions ih =>
    rw [fill_cons, ih]
    by_cases here : j = i
    · subst here
      have written : (slots.set j (value j))[j]? = slots[j]?.map fun _ => value j := by
        rw [List.getElem?_set_self']
        cases slots[j]? <;> rfl
      rw [written, if_pos List.mem_cons_self]
      split
      · rw [Option.map_map]
        rfl
      · rfl
    · rw [List.getElem?_set_ne here]
      have elsewhere : i ∈ j :: positions ↔ i ∈ positions := by
        simp [List.mem_cons, Ne.symm here]
      simp only [elsewhere]

/-- The same positions, in any order and any number of times, leave the same slots. -/
theorem fill_eq_of_mem_iff (same : ∀ i, i ∈ positions ↔ i ∈ positions') :
    fill value slots positions = fill value slots positions' := by
  apply List.ext_getElem?
  intro i
  simp only [getElem?_fill, same i]

end Keychain
