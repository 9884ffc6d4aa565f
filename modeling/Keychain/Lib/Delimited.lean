import Mathlib.Data.List.Infix

/-!
Reading back concatenations: when the parts of `code x ++ rest` are determined by
the whole.

A family of codes is `Uncut` when none of them is the beginning of another; such
a code can be split off the front of any list. Parts that may be cut anywhere
collide exactly when one is a beginning of the other.
-/

namespace Keychain.Delimited

variable {α ι : Type} {a b : List α}

/-- Two lists of which one begins with the other. -/
def Comparable (a b : List α) : Prop := a <+: b ∨ b <+: a

/-- Two lists have a common continuation exactly when they are comparable. -/
theorem exists_append_eq_append_iff :
    (∃ s t, a ++ s = b ++ t) ↔ Comparable a b := by
  refine ⟨fun common => ?_, fun comparable => ?_⟩
  · rcases common with ⟨s, t, same⟩
    have left : a <+: a ++ s := List.prefix_append a s
    have right : b <+: a ++ s := same ▸ List.prefix_append b t
    exact List.prefix_or_prefix_of_prefix left right
  · rcases comparable with ⟨s, rfl⟩ | ⟨t, rfl⟩
    · exact ⟨s, [], by simp⟩
    · exact ⟨[], t, by simp⟩

/-- No code of the family is the beginning of another. -/
def Uncut (code : ι → List α) : Prop := ∀ i j, code i <+: code j → i = j

/-- An uncut code can be split off the front. -/
theorem Uncut.append_inj {code : ι → List α} (uncut : Uncut code) {i j : ι} {s t : List α}
    (same : code i ++ s = code j ++ t) : i = j ∧ s = t := by
  have comparable := exists_append_eq_append_iff.mp ⟨s, t, same⟩
  have index : i = j := by
    rcases comparable with first | second
    · exact uncut i j first
    · exact (uncut j i second).symm
  subst index
  exact ⟨rfl, List.append_cancel_left same⟩

/-- A text of uncut codes can be read back code by code. -/
theorem Uncut.flatMap_injective {code : ι → List α} (uncut : Uncut code)
    (nonempty : ∀ i, code i ≠ []) : Function.Injective fun is : List ι => is.flatMap code := by
  intro is js same
  induction is generalizing js with
  | nil =>
    cases js with
    | nil => rfl
    | cons j js => simp [nonempty] at same
  | cons i is ih =>
    cases js with
    | nil => simp [nonempty] at same
    | cons j js =>
      rcases uncut.append_inj same with ⟨rfl, rest⟩
      rw [ih rest]

/-- Words closed by a symbol that occurs in none of them. -/
theorem uncut_append_stop {word : ι → List α} {stop : α} (injective : Function.Injective word)
    (absent : ∀ i, stop ∉ word i) : Uncut fun i => word i ++ [stop] := by
  intro i j cut
  rcases cut with ⟨rest, same⟩
  rcases List.eq_nil_or_concat rest with rfl | ⟨init, last, rfl⟩
  · have words : word i ++ [stop] = word j ++ [stop] := by simpa using same
    exact injective (List.append_cancel_right words)
  · have words : word i ++ [stop] ++ init ++ [last] = word j ++ [stop] := by simpa using same
    have longer : word i ++ [stop] ++ init = word j := (List.append_inj' words rfl).1
    exact absurd (longer ▸ by simp) (absent j)

end Keychain.Delimited
