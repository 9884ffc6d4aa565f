import Keychain.Lib.CodeOrder
import Keychain.TypeScript.Runtime

/-!
How the ports order strings.

Rust and Go compare strings byte by byte, TypeScript compares UTF-16 code units, and
Python code points. Bytes are in the order of code points (`utf8Code_ordered`). Code units
are in the order of `utf16Rank`, which puts U+E000..U+FFFF above the characters that take
a surrogate pair (`utf16Code_ordered`), so that the orders part exactly on strings that
first differ in one character of either kind (`utf16_le_alike`).
-/

namespace Keychain

open CodeOrder (Ordered firstDifference)

/-! ## UTF-8 -/

def utf8Code (c : Char) : List ℕ := (String.utf8EncodeChar c).map UInt8.toNat

theorem utf8Code_eq (c : Char) : utf8Code c =
    if c.toNat ≤ 0x7f then [c.toNat]
    else if c.toNat ≤ 0x7ff then [c.toNat / 64 + 0xc0, c.toNat % 64 + 0x80]
    else if c.toNat ≤ 0xffff then
      [c.toNat / 4096 + 0xe0, c.toNat / 64 % 64 + 0x80, c.toNat % 64 + 0x80]
    else
      [c.toNat / 262144 + 0xf0, c.toNat / 4096 % 64 + 0x80, c.toNat / 64 % 64 + 0x80,
        c.toNat % 64 + 0x80] := by
  have small := TypeScript.not_surrogate c
  simp only [utf8Code, String.utf8EncodeChar, Char.toNat_val]
  split
  · simp only [List.map_cons, List.map_nil, UInt8.toNat_ofNat']
    congr 1
    omega
  · split
    · simp only [List.map_cons, List.map_nil, UInt8.toNat_ofNat']
      congr 1
      · omega
      · congr 1
        omega
    · split
      · simp only [List.map_cons, List.map_nil, UInt8.toNat_ofNat', List.cons.injEq, and_true]
        omega
      · simp only [List.map_cons, List.map_nil, UInt8.toNat_ofNat', List.cons.injEq, and_true]
        omega

/-- The bytes of characters are in the order of code points. -/
theorem utf8Code_ordered : Ordered utf8Code Char.toNat where
  separates _ _ same := Char.toNat_inj.mp same
  nonempty c := by
    rw [utf8Code, ne_eq, List.map_eq_nil_iff]
    exact String.utf8EncodeChar_ne_nil
  before c d less s t := by
    rw [utf8Code_eq, utf8Code_eq]
    have small := TypeScript.not_surrogate d
    -- the length of either code, and then the bytes from the left
    split_ifs <;> simp only [List.cons_append, List.nil_append, List.cons_lt_cons_iff] <;> omega

/-! ## UTF-16 -/

def utf16Code (c : Char) : List ℕ := (TypeScript.codeUnitsOf c).map UInt16.toNat

/-- The place of a character among the code units: U+E000..U+FFFF come last. -/
def utf16Rank (c : Char) : ℕ :=
  if 0xE000 ≤ c.toNat ∧ c.toNat < 0x10000 then c.toNat + 0x110000 else c.toNat

theorem utf16Code_eq (c : Char) : utf16Code c =
    if c.toNat < 0x10000 then [c.toNat]
    else [0xD800 + (c.toNat - 0x10000) / 0x400, 0xDC00 + (c.toNat - 0x10000) % 0x400] := by
  have small := TypeScript.not_surrogate c
  simp only [utf16Code, TypeScript.codeUnitsOf]
  split
  · simp only [List.map_cons, List.map_nil, UInt16.toNat_ofNat', List.cons.injEq, and_true]
    omega
  · simp only [List.map_cons, List.map_nil, UInt16.toNat_ofNat', List.cons.injEq, and_true]
    omega

theorem utf16Code_ordered : Ordered utf16Code utf16Rank where
  separates c d same := by
    have small := TypeScript.not_surrogate c
    have small' := TypeScript.not_surrogate d
    apply Char.toNat_inj.mp
    simp only [utf16Rank] at same
    split_ifs at same <;> omega
  nonempty c := by
    rw [utf16Code_eq]
    split_ifs <;> exact List.cons_ne_nil _ _
  before c d less s t := by
    have small := TypeScript.not_surrogate c
    have small' := TypeScript.not_surrogate d
    rw [utf16Code_eq, utf16Code_eq]
    simp only [utf16Rank] at less
    split_ifs at less ⊢ <;>
      simp only [List.cons_append, List.nil_append, List.cons_lt_cons_iff] <;> omega

/-- The characters that code units order the other way. -/
def straddles (c d : Char) : Bool :=
  decide (0xE000 ≤ c.toNat) && decide (c.toNat < 0x10000) && decide (0x10000 ≤ d.toNat)

theorem utf16Rank_lt_iff {c d : Char} (apart : c ≠ d) :
    (c.toNat < d.toNat ↔ utf16Rank c < utf16Rank d) ↔
      straddles c d = false ∧ straddles d c = false := by
  have small := TypeScript.not_surrogate c
  have small' := TypeScript.not_surrogate d
  have apart' : c.toNat ≠ d.toNat := fun same => apart (Char.toNat_inj.mp same)
  simp only [utf16Rank, straddles, Bool.and_eq_false_iff, decide_eq_false_iff_not]
  split_ifs <;> omega

/-- The first characters in which the words differ are ordered the other way. -/
def crosses (a b : List Char) : Bool :=
  (firstDifference a b).any fun pair => straddles pair.1 pair.2

/-- Code points and code units compare two texts alike, unless they part where the texts
first differ. -/
theorem utf16_le_alike {a b : List Char} :
    (a.map Char.toNat ≤ b.map Char.toNat ↔ a.flatMap utf16Code ≤ b.flatMap utf16Code) ↔
      crosses a b = false ∧ crosses b a = false := by
  have swapped : firstDifference b a = (firstDifference a b).map Prod.swap :=
    CodeOrder.firstDifference_swap
  rw [utf16Code_ordered.flatMap_le,
    CodeOrder.map_le_alike utf8Code_ordered.separates utf16Code_ordered.separates, crosses,
    crosses, swapped]
  cases differ : firstDifference a b with
  | none => simp
  | some pair =>
    have parted := utf16Rank_lt_iff (CodeOrder.firstDifference_ne differ)
    simpa using parted

end Keychain
