import Mathlib.Data.List.Basic

/-!
Cutting a list into pieces of a fixed length, the last one possibly shorter.

The pieces are numbered from 0. `lt_pieceCount_iff` says which numbers there are and
`take_succ_eq_append_piece` puts a piece behind those before it, which is the step of
every induction over the pieces.
-/

namespace Keychain

variable {α : Type} {size : ℕ} {whole : List α} {i : ℕ}

/-- The number of pieces of a list of this length. -/
def pieceCount (size length : ℕ) : ℕ := (length + (size - 1)) / size

/-- The piece with this number. -/
def piece (size : ℕ) (whole : List α) (i : ℕ) : List α := (whole.drop (size * i)).take size

theorem lt_pieceCount_iff {length : ℕ} (positive : 0 < size) :
    i < pieceCount size length ↔ size * i < length := by
  have counted : i + 1 ≤ pieceCount size length ↔ (i + 1) * size ≤ length + (size - 1) :=
    Nat.le_div_iff_mul_le positive
  have product : (i + 1) * size = size * i + size := by
    rw [Nat.add_mul, Nat.one_mul, Nat.mul_comm]
  rw [product] at counted
  rw [← Nat.succ_le_iff, counted]
  omega

theorem length_piece : (piece size whole i).length = min size (whole.length - size * i) := by
  rw [piece, List.length_take, List.length_drop]

/-- The pieces up to `i` are those before it, and it. -/
theorem take_succ_eq_append_piece :
    whole.take (size * (i + 1)) = whole.take (size * i) ++ piece size whole i := by
  rw [Nat.mul_succ, List.take_add, piece]

/-- A piece of a list that goes on is filled up by what follows. -/
theorem piece_append {rest : List α} (started : size * i ≤ whole.length) :
    piece size (whole ++ rest) i =
      piece size whole i ++ rest.take (size - (piece size whole i).length) := by
  rw [length_piece, piece, piece, List.drop_append_of_le_length started, List.take_append,
    List.length_drop]
  have remaining : size - (whole.length - size * i) =
      size - min size (whole.length - size * i) := by omega
  rw [remaining]

end Keychain
