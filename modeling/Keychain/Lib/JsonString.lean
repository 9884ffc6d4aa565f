import Keychain.Lib.JsonText

/-!
JSON string literals that escape no more than the grammar asks for: the quote, the
backslash and the control characters, by a letter where there is one.

A literal ends where its text does (`quoted_append_inj`). Texts may also be made of other
units than characters, UTF-16 code units for one: `escapeUnit` writes those, and agrees
with `escapeChar` where a unit stands for a character (`escapeUnit_eq`).
-/

namespace Keychain.Json

/-- The characters that are escaped by a letter. -/
def letterEscapes : List (Char × Char) :=
  [('"', '"'), ('\\', '\\'), (Char.ofNat 8, 'b'), (Char.ofNat 12, 'f'), ('\n', 'n'),
    ('\r', 'r'), ('\t', 't')]

/-- A character inside a string literal. -/
def escapeChar (c : Char) : List Char :=
  match letterEscapes.lookup c with
  | some letter => ['\\', letter]
  | none =>
    if c.toNat < 0x20 then
      ['\\', 'u', '0', '0', Nat.digitChar (c.toNat / 16), Nat.digitChar (c.toNat % 16)]
    else
      [c]

theorem mem_of_lookup {c letter : Char} (found : letterEscapes.lookup c = some letter) :
    (c, letter) ∈ letterEscapes := by
  obtain ⟨before, after, split, -⟩ := List.lookup_eq_some_iff.mp found
  rw [split]
  exact List.mem_append_right before List.mem_cons_self

/-- The literal of a text. -/
def quoted (text : List Char) : List Char := '"' :: (text.flatMap escapeChar ++ ['"'])

/-! ## Reading back -/

def hexValue (c : Char) : ℕ := if c.isDigit then c.toNat - 48 else c.toNat - 87

/-- The next character of a literal, unless the literal ends. -/
def readChar : List Char → Option (Char × List Char)
  | '\\' :: 'u' :: '0' :: '0' :: high :: low :: rest =>
    some (Char.ofNat (16 * hexValue high + hexValue low), rest)
  | '\\' :: letter :: rest =>
    (letterEscapes.find? fun escape => escape.2 = letter).map fun escape => (escape.1, rest)
  | '"' :: _ => none
  | c :: rest => some (c, rest)
  | [] => none

theorem hexValue_digits :
    ∀ n < 0x20, 16 * hexValue (Nat.digitChar (n / 16)) + hexValue (Nat.digitChar (n % 16)) = n := by
  decide

theorem readChar_escapeChar (c : Char) (rest : List Char) :
    readChar (escapeChar c ++ rest) = some (c, rest) := by
  unfold escapeChar
  split
  · rename_i letter found
    have member := mem_of_lookup found
    simp only [letterEscapes, List.mem_cons, Prod.mk.injEq, List.not_mem_nil, or_false] at member
    rcases member with ⟨rfl, rfl⟩ | ⟨rfl, rfl⟩ | ⟨rfl, rfl⟩ | ⟨rfl, rfl⟩ | ⟨rfl, rfl⟩ |
      ⟨rfl, rfl⟩ | ⟨rfl, rfl⟩ <;> rfl
  · rename_i absent
    split
    · rename_i control
      have value := hexValue_digits c.toNat control
      simp only [List.cons_append, List.nil_append, readChar, value, Char.ofNat_toNat]
    · have backslash : c ≠ '\\' := by
        intro same
        rw [same] at absent
        cases absent
      have quote : c ≠ '"' := by
        intro same
        rw [same] at absent
        cases absent
      rw [List.singleton_append, readChar]
      · intro _ _ _ same
        exact absurd same backslash
      · intro _ _ same
        exact absurd same backslash
      · exact quote

/-- A literal can be split off the front of a text. -/
theorem quoted_append_inj {a b s t : List Char} (same : quoted a ++ s = quoted b ++ t) :
    a = b ∧ s = t := by
  have characters : ∀ {a b s t : List Char},
      a.flatMap escapeChar ++ '"' :: s = b.flatMap escapeChar ++ '"' :: t → a = b ∧ s = t := by
    intro a
    induction a with
    | nil =>
      intro b s t same
      cases b with
      | nil => exact ⟨rfl, (List.cons.inj same).2⟩
      | cons d b =>
        have read := congrArg readChar same
        rw [List.flatMap_cons, List.append_assoc, readChar_escapeChar] at read
        cases read
    | cons c a ih =>
      intro b s t same
      have read := congrArg readChar same
      rw [List.flatMap_cons, List.append_assoc, readChar_escapeChar] at read
      cases b with
      | nil => cases read
      | cons d b =>
        rw [List.flatMap_cons, List.append_assoc, readChar_escapeChar] at read
        obtain ⟨first, others⟩ := Prod.mk.inj (Option.some.inj read)
        obtain ⟨rfl, rest⟩ := ih others
        exact ⟨congrArg (· :: a) first, rest⟩
  simp only [quoted, List.cons_append, List.append_assoc, List.nil_append, List.cons.injEq,
    true_and] at same
  exact characters same

/-- A character of a literal is the one that is escaped, or one of the escape. -/
theorem mem_escapeChar {c d : Char} (member : d ∈ escapeChar c) : d = c ∨ d.toNat < 0x80 := by
  have hexadecimal : ∀ n < 0x10, (Nat.digitChar n).toNat < 0x80 := by decide
  unfold escapeChar at member
  split at member
  · rename_i letter found
    have letters : ∀ escape ∈ letterEscapes, escape.2.toNat < 0x80 := by decide
    have small := letters _ (mem_of_lookup found)
    simp only [List.mem_cons, List.not_mem_nil, or_false] at member
    rcases member with rfl | rfl
    · exact .inr (by decide)
    · exact .inr small
  · split at member
    · simp only [List.mem_cons, List.not_mem_nil, or_false] at member
      rcases member with rfl | rfl | rfl | rfl | rfl | rfl
      · exact .inr (by decide)
      · exact .inr (by decide)
      · exact .inr (by decide)
      · exact .inr (by decide)
      · exact .inr (hexadecimal _ (by omega))
      · exact .inr (hexadecimal _ (by omega))
    · exact .inl (List.mem_singleton.mp member)

/-- No control character is left in a literal. -/
theorem printed_of_mem_escapeChar {c d : Char} (member : d ∈ escapeChar c) : 0x20 ≤ d.toNat := by
  have hexadecimal : ∀ n < 0x10, 0x20 ≤ (Nat.digitChar n).toNat := by decide
  unfold escapeChar at member
  split at member
  · rename_i letter found
    have letters : ∀ escape ∈ letterEscapes, 0x20 ≤ escape.2.toNat := by decide
    have printed := letters _ (mem_of_lookup found)
    simp only [List.mem_cons, List.not_mem_nil, or_false] at member
    rcases member with rfl | rfl
    · decide
    · exact printed
  · split at member
    · simp only [List.mem_cons, List.not_mem_nil, or_false] at member
      rcases member with rfl | rfl | rfl | rfl | rfl | rfl
      · decide
      · decide
      · decide
      · decide
      · exact hexadecimal _ (by omega)
      · exact hexadecimal _ (by omega)
    · rename_i printed
      rw [List.mem_singleton] at member
      subst member
      omega

/-- Characters beyond ASCII are not escaped. -/
theorem escapeChar_of_large {c : Char} (large : 0x80 ≤ c.toNat) : escapeChar c = [c] := by
  have absent : letterEscapes.lookup c = none := by
    have keys : ∀ escape ∈ letterEscapes, escape.1.toNat < 0x80 := by decide
    rw [List.lookup_eq_none_iff]
    intro escape member
    rw [bne_iff_ne]
    intro same
    have small := keys escape member
    rw [← same] at small
    omega
  rw [escapeChar, absent]
  exact if_neg (by omega)

/-! ## Tokens -/

/-- Strings and whole numbers as every port writes them. -/
def plainTokens : Tokens String Int where
  string s := quoted s.toList
  number := decimal

/-- The literal of a string can be split off the front of a text. -/
theorem quoted_toList_inj {a b : String} {s t : List Char}
    (same : quoted a.toList ++ s = quoted b.toList ++ t) : a = b ∧ s = t := by
  obtain ⟨word, rest⟩ := quoted_append_inj same
  exact ⟨String.toList_injective word, rest⟩

theorem plainTokens_readable {valid : Int → Prop} : plainTokens.Readable valid where
  string_inj same := quoted_toList_inj same
  string_head _ := ⟨_, rfl⟩
  number_inj _ _ same := decimal_injective same
  number_ne _ := decimal_ne_nil
  number_chars _ := decimal_chars

/-! ## Other units -/

section

variable {α : Type} [DecidableEq α]

/-- A unit inside a string literal, by the units that stand for characters, the number of
a unit, and the units that need no escape. -/
def escapeUnit (unit : Char → α) (value : α → ℕ) (plain : α → Bool) (a : α) : List α :=
  match letterEscapes.find? fun escape => unit escape.1 = a with
  | some escape => ['\\', escape.2].map unit
  | none =>
    if plain a then
      [a]
    else
      ['\\', 'u', Nat.digitChar (value a / 0x1000), Nat.digitChar (value a / 0x100 % 0x10),
        Nat.digitChar (value a / 0x10 % 0x10), Nat.digitChar (value a % 0x10)].map unit

variable {unit : Char → α} {value : α → ℕ} {plain : α → Bool}

/-- A unit that stands for a character is escaped as the character is. -/
theorem escapeUnit_eq {c : Char}
    (apart : ∀ escape ∈ letterEscapes, unit escape.1 = unit c → escape.1 = c)
    (number : value (unit c) = c.toNat) (printed : plain (unit c) = decide (0x20 ≤ c.toNat)) :
    escapeUnit unit value plain (unit c) = (escapeChar c).map unit := by
  unfold escapeUnit escapeChar
  cases found : letterEscapes.find? fun escape => unit escape.1 = unit c with
  | some escape =>
    have member := List.mem_of_find?_eq_some found
    have same : escape.1 = c := apart escape member (by simpa using List.find?_some found)
    simp only [letterEscapes, List.mem_cons, List.not_mem_nil, or_false] at member
    rcases member with rfl | rfl | rfl | rfl | rfl | rfl | rfl <;> cases same <;> rfl
  | none =>
    have absent : letterEscapes.lookup c = none := by
      rw [List.lookup_eq_none_iff]
      intro escape member
      rw [List.find?_eq_none] at found
      have other := found escape member
      rw [bne_iff_ne]
      intro same
      rw [same] at other
      exact other (decide_eq_true rfl)
    rw [absent]
    simp only [printed, number, decide_eq_true_eq]
    split
    · rename_i high
      rw [if_neg (by omega)]
      rfl
    · rename_i low
      have high : c.toNat / 0x1000 = 0 ∧ c.toNat / 0x100 % 0x10 = 0 ∧
          c.toNat / 0x10 % 0x10 = c.toNat / 0x10 := by omega
      rw [if_pos (by omega), high.1, high.2.1, high.2.2]
      rfl

end

end Keychain.Json
