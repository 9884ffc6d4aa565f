import Mathlib.Data.List.Forall2
import Mathlib.Data.List.TakeWhile
import Keychain.Wire

/-!
What the Rust signers use of the standard library to take texts apart: ASCII tests, the
integer parser and UTF-8.

The library works on bytes. A byte below 0x80 is a character of its own and occurs in no
other character, so that tests of bytes are tests of characters
(`utf8_of_ascii`, `utf8_removeChar`).
-/

namespace Keychain.Rust

/-! ## ASCII -/

/-- The byte of an ASCII character. -/
def byteOf (c : Char) : UInt8 := c.toNat.toUInt8

section

variable {c d : Char} {byte : UInt8} {text : String}

theorem toNat_byteOf (ascii : c.toNat ≤ 0x7f) : (byteOf c).toNat = c.toNat := by
  rw [byteOf, Nat.toUInt8_eq, UInt8.toNat_ofNat']
  exact Nat.mod_eq_of_lt (by omega)

theorem byteOf_inj (ascii : c.toNat ≤ 0x7f) (ascii' : d.toNat ≤ 0x7f) :
    byteOf c = byteOf d ↔ c = d := by
  refine ⟨fun same => ?_, fun same => same ▸ rfl⟩
  have values := congrArg UInt8.toNat same
  rw [toNat_byteOf ascii, toNat_byteOf ascii'] at values
  exact Char.toNat_inj.mp values

/-- The bytes of any other character are not ASCII. -/
theorem le_toNat_of_mem_utf8EncodeChar (wide : 0x7f < c.toNat)
    (member : byte ∈ String.utf8EncodeChar c) : 0x80 ≤ byte.toNat := by
  have bounded : c.toNat < 0x110000 := by
    have valid := c.valid
    simp only [UInt32.isValidChar, Nat.isValidChar, Char.toNat_val] at valid
    omega
  simp only [String.utf8EncodeChar, Char.toNat_val, if_neg (Nat.not_le.mpr wide)] at member
  -- two, three or four bytes
  split at member
  · simp only [List.mem_cons, List.not_mem_nil, or_false] at member
    rcases member with rfl | rfl <;> (rw [UInt8.toNat_ofNat']; omega)
  · split at member
    · simp only [List.mem_cons, List.not_mem_nil, or_false] at member
      rcases member with rfl | rfl | rfl <;> (rw [UInt8.toNat_ofNat']; omega)
    · simp only [List.mem_cons, List.not_mem_nil, or_false] at member
      rcases member with rfl | rfl | rfl | rfl <;> (rw [UInt8.toNat_ofNat']; omega)

/-- A text of ASCII characters has one byte for each of them. -/
theorem utf8_of_ascii (narrow : ∀ c ∈ text.toList, c.toNat ≤ 0x7f) :
    utf8 text = text.toList.map byteOf := by
  rw [utf8_eq_flatMap, ← List.flatMap_singleton' (text.toList.map byteOf), List.flatMap_map]
  exact List.flatMap_congr fun c member => utf8EncodeChar_of_ascii (narrow c member)

/-- Only ASCII characters are made of ASCII bytes. -/
theorem ascii_of_utf8 (ascii : ∀ byte ∈ utf8 text, byte.toNat ≤ 0x7f) :
    ∀ c ∈ text.toList, c.toNat ≤ 0x7f := by
  intro c member
  by_contra wide
  obtain ⟨byte, first⟩ := List.exists_mem_of_ne_nil _ (String.utf8EncodeChar_ne_nil (c := c))
  rw [utf8_eq_flatMap] at ascii
  have low := ascii byte (List.mem_flatMap.mpr ⟨c, member, first⟩)
  have high := le_toNat_of_mem_utf8EncodeChar (by omega) first
  omega

/-- ASCII bytes make up a text. -/
theorem exists_text_of_ascii {bytes : Bytes} (ascii : ∀ byte ∈ bytes, byte.toNat ≤ 0x7f) :
    ∃ text, utf8 text = bytes := by
  refine ⟨String.ofList (bytes.map fun byte => Char.ofNat byte.toNat), ?_⟩
  rw [utf8_eq_flatMap, String.toList_ofList, List.flatMap_map]
  calc (bytes.flatMap fun byte => String.utf8EncodeChar (Char.ofNat byte.toNat))
      = bytes.flatMap fun byte => [byte] := by
        apply List.flatMap_congr
        intro byte member
        have value := toNat_ofNat_byte byte
        have narrow := ascii byte member
        rw [utf8EncodeChar_of_ascii (by omega), value, Nat.toUInt8_eq, UInt8.ofNat_toNat]
    _ = bytes := List.flatMap_singleton' bytes

/-- `text.replace(c, "")`. -/
def removeChar (c : Char) (text : String) : String := String.ofList (text.toList.filter (· ≠ c))

/-- The byte of an ASCII character occurs in no other character. -/
theorem filter_utf8EncodeChar (ascii : c.toNat ≤ 0x7f) :
    (String.utf8EncodeChar d).filter (· ≠ byteOf c) =
      if d ≠ c then String.utf8EncodeChar d else [] := by
  by_cases same : d = c
  · subst same
    have removed : (byteOf d ≠ byteOf d) = False := by simp
    rw [if_neg (not_not.mpr rfl), utf8EncodeChar_of_ascii ascii]
    change [byteOf d].filter (· ≠ byteOf d) = []
    simp
  · rw [if_pos same, List.filter_eq_self]
    intro byte member
    rw [decide_eq_true_eq]
    intro equal
    subst equal
    have value := toNat_byteOf ascii
    by_cases narrow : d.toNat ≤ 0x7f
    · rw [utf8EncodeChar_of_ascii narrow, List.mem_singleton] at member
      exact same ((byteOf_inj ascii narrow).mp member).symm
    · have high := le_toNat_of_mem_utf8EncodeChar (by omega) member
      omega

/-- Removing an ASCII character is removing its byte. -/
theorem utf8_removeChar (ascii : c.toNat ≤ 0x7f) :
    utf8 (removeChar c text) = (utf8 text).filter (· ≠ byteOf c) := by
  rw [utf8_eq_flatMap, utf8_eq_flatMap, removeChar, String.toList_ofList, List.filter_flatMap]
  induction text.toList with
  | nil => rfl
  | cons d rest ih =>
    rw [List.flatMap_cons, filter_utf8EncodeChar ascii, ← ih]
    by_cases same : d = c
    · simp [same]
    · simp [same]

end

/-! ## Integers -/

/-- `u8::is_ascii_hexdigit`. -/
def isAsciiHexdigit (byte : UInt8) : Bool :=
  (0x30 ≤ byte && byte ≤ 0x39) || (0x41 ≤ byte && byte ≤ 0x46) || (0x61 ≤ byte && byte ≤ 0x66)

/-- `(byte as char).to_digit(radix)`. -/
def toDigit (radix : ℕ) (byte : UInt8) : Option ℕ :=
  let n := byte.toNat
  let digit :=
    if 0x30 ≤ n ∧ n ≤ 0x39 then some (n - 0x30)
    else if 0x41 ≤ n ∧ n ≤ 0x5a then some (n - 0x41 + 10)
    else if 0x61 ≤ n ∧ n ≤ 0x7a then some (n - 0x61 + 10)
    else none
  digit.filter (· < radix)

/-- The digits behind a number that is read so far, as long as it fits into a byte. -/
def digitsFrom (radix : ℕ) : ℕ → Bytes → Option ℕ
  | number, [] => some number
  | number, byte :: rest =>
    (toDigit radix byte).bind fun digit =>
      let next := number * radix + digit
      if next ≤ 0xff then digitsFrom radix next rest else none

/-- `u8::from_ascii_radix`. One plus sign may stand before the digits. -/
def u8FromAsciiRadix (radix : ℕ) : Bytes → Option UInt8
  | [] => none
  | [0x2b] => none
  | 0x2b :: digits => (digitsFrom radix 0 digits).map UInt8.ofNat
  | digits => (digitsFrom radix 0 digits).map UInt8.ofNat

/-- `u8::from_str_radix`. -/
def u8FromStrRadix (radix : ℕ) (text : String) : Option UInt8 := u8FromAsciiRadix radix (utf8 text)

/-- `std::str::from_utf8`. -/
def strFromUtf8 (bytes : Bytes) : Option String := String.fromUTF8? ⟨bytes.toArray⟩

theorem strFromUtf8_eq_some {bytes : Bytes} {text : String} :
    strFromUtf8 bytes = some text ↔ utf8 text = bytes := by
  rw [strFromUtf8, String.fromUTF8?]
  constructor
  · intro read
    split at read
    · cases read
      change bytes.toArray.toList = bytes
      exact List.toList_toArray
    · cases read
  · intro same
    subst same
    have whole : ByteArray.mk (utf8 text).toArray = text.toByteArray := by simp [utf8]
    have valid : (ByteArray.mk (utf8 text).toArray).IsValidUTF8 := by
      rw [whole]
      exact text.isValidUTF8
    rw [dif_pos valid, Option.some.injEq, ← String.toByteArray_inj]
    exact whole

theorem toDigit_lt {radix n : ℕ} {byte : UInt8} (read : toDigit radix byte = some n) :
    n < radix := by
  rw [toDigit, Option.filter_eq_some_iff] at read
  simpa using read.2

/-! ## Cutting -/

/-- `text.strip_prefix(start)`. -/
def stripPrefix (start text : String) : Option String :=
  if start.toList.isPrefixOf text.toList then
    some (String.ofList (text.toList.drop start.toList.length))
  else
    none

/-- `text.splitn(parts, separator)`. -/
def splitn (separator : Char) : ℕ → List Char → List (List Char)
  | 0, _ => []
  | 1, text => [text]
  | parts + 2, text =>
    match text.dropWhile (· ≠ separator) with
    | [] => [text]
    | _ :: rest => text.takeWhile (· ≠ separator) :: splitn separator (parts + 1) rest

/-- `as_chunks::<2>().0`. -/
def pairs {α : Type} : List α → List (α × α)
  | [] => []
  | [_] => []
  | a :: b :: rest => (a, b) :: pairs rest

section

variable {α β : Type} {f : α → Option β} {l : List α} {values : List β}

/-- What is collected is read from the items one by one. -/
theorem mapM_eq_some_iff :
    l.mapM f = some values ↔ List.Forall₂ (fun x y => f x = some y) l values := by
  induction l generalizing values with
  | nil =>
    rw [List.mapM_nil, List.forall₂_nil_left_iff]
    exact Option.some_inj.trans eq_comm
  | cons x l ih =>
    rw [List.mapM_cons, List.forall₂_cons_left_iff, Option.bind_eq_bind,
      Option.bind_eq_some_iff]
    simp only [Option.bind_eq_bind, Option.bind_eq_some_iff, ih, Option.pure_def,
      Option.some.injEq, eq_comm (b := values), exists_and_left]

theorem exists_of_mapM_eq_some (all : l.mapM f = some values) : ∀ x ∈ l, ∃ y, f x = some y := by
  rw [mapM_eq_some_iff] at all
  induction all with
  | nil => exact List.forall_mem_nil _
  | cons first _ ih => exact List.forall_mem_cons.mpr ⟨⟨_, first⟩, ih⟩

end

/-- Trimming takes the whitespace around a core that neither begins nor ends with any. -/
theorem trimSpace_surrounded {before core after : List Char}
    (blank : ∀ c ∈ before, isWhitespace c = true) (blank' : ∀ c ∈ after, isWhitespace c = true)
    (first : ∀ c, core.head? = some c → isWhitespace c = false)
    (last : ∀ c, core.getLast? = some c → isWhitespace c = false) :
    trimSpace (String.ofList (before ++ core ++ after)) = String.ofList core := by
  rw [trimSpace, String.toList_ofList, List.append_assoc, List.dropWhile_append_of_pos blank]
  cases core with
  | nil =>
    rw [List.nil_append, List.dropWhile_eq_nil_iff.mpr blank']
    rfl
  | cons c rest =>
    have solid : ¬ isWhitespace c = true := by
      rw [first c rfl]
      exact Bool.false_ne_true
    have blankEnd : ∀ c ∈ after.reverse, isWhitespace c = true :=
      fun c member => blank' c (List.mem_reverse.mp member)
    rw [List.cons_append, List.dropWhile_cons_of_neg solid, ← List.cons_append,
      List.reverse_append, List.dropWhile_append_of_pos blankEnd]
    -- the last character of the core comes first now
    obtain ⟨d, front, ends⟩ := List.exists_cons_of_ne_nil
      (List.reverse_ne_nil_iff.mpr (List.cons_ne_nil c rest))
    have solidEnd : ¬ isWhitespace d = true := by
      rw [last d (by rw [← List.head?_reverse, ends, List.head?_cons])]
      exact Bool.false_ne_true
    rw [ends, List.dropWhile_cons_of_neg solidEnd, ← ends, List.reverse_reverse]

/-! ## Hexadecimal digits -/

def hexDigitChars : List Char := "0123456789abcdefABCDEF".toList

/-- A hexadecimal digit, in either case. -/
def isHexDigit (c : Char) : Bool := hexDigitChars.contains c

/-- The number a hexadecimal digit stands for. -/
def hexValue (c : Char) : ℕ := "0123456789abcdef".toList.idxOf c.toLower

section

variable {c d : Char} {byte : UInt8}

theorem ascii_of_isHexDigit (hex : isHexDigit c = true) : c.toNat ≤ 0x7f := by
  have all : (hexDigitChars.all fun c => c.toNat ≤ 0x7f) = true := by decide
  exact of_decide_eq_true (List.all_eq_true.mp all c (List.contains_iff_mem.mp hex))

/-- A property of the ASCII characters and their bytes, checked for their values. -/
theorem forall_ascii {P : Char → UInt8 → Prop} (all : ∀ n < 0x80, P (Char.ofNat n) n.toUInt8)
    (ascii : c.toNat ≤ 0x7f) : P c (byteOf c) := by
  have here := all c.toNat (by omega)
  rwa [Char.ofNat_toNat] at here

theorem isAsciiHexdigit_byteOf (ascii : c.toNat ≤ 0x7f) :
    isAsciiHexdigit (byteOf c) = isHexDigit c := by
  refine forall_ascii (P := fun c byte => isAsciiHexdigit byte = isHexDigit c) ?_ ascii
  decide +kernel

theorem toDigit_byteOf (ascii : c.toNat ≤ 0x7f) :
    toDigit 16 (byteOf c) = if isHexDigit c then some (hexValue c) else none := by
  refine forall_ascii
    (P := fun c byte => toDigit 16 byte = if isHexDigit c then some (hexValue c) else none) ?_ ascii
  decide +kernel

theorem hexValue_lt (hex : isHexDigit c = true) : hexValue c < 16 := by
  have all : (hexDigitChars.all fun c => hexValue c < 16) = true := by decide
  exact of_decide_eq_true (List.all_eq_true.mp all c (List.contains_iff_mem.mp hex))

/-- Digits of one value differ in their case at most. -/
theorem toLower_eq_of_hexValue_eq (hex : isHexDigit c = true) (hex' : isHexDigit d = true)
    (same : hexValue c = hexValue d) : c.toLower = d.toLower := by
  have all : (hexDigitChars.all fun c => hexDigitChars.all fun d =>
      hexValue c = hexValue d → c.toLower = d.toLower) = true := by decide
  have row := List.all_eq_true.mp all c (List.contains_iff_mem.mp hex)
  exact of_decide_eq_true (List.all_eq_true.mp row d (List.contains_iff_mem.mp hex')) same

end

end Keychain.Rust
