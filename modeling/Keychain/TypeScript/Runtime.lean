import Keychain.Wire

/-!
What the TypeScript port uses of its runtime: strings of UTF-16 code units,
`TextEncoder` and `Uint8Array.set`.

A string need not be well formed: a surrogate without its partner is a code unit
like any other, and becomes U+FFFD when the string is encoded.
-/

namespace Keychain.TypeScript

/-! ## Strings -/

/-- A string: its UTF-16 code units. -/
structure JsString where
  codeUnits : List UInt16
  deriving DecidableEq

def isLeadSurrogate (unit : UInt16) : Bool := 0xD800 ≤ unit.toNat && unit.toNat ≤ 0xDBFF

def isTrailSurrogate (unit : UInt16) : Bool := 0xDC00 ≤ unit.toNat && unit.toNat ≤ 0xDFFF

/-- The code units of a character. -/
def codeUnitsOf (c : Char) : List UInt16 :=
  if c.toNat < 0x10000 then
    [UInt16.ofNat c.toNat]
  else
    [UInt16.ofNat (0xD800 + (c.toNat - 0x10000) / 0x400),
      UInt16.ofNat (0xDC00 + (c.toNat - 0x10000) % 0x400)]

/-- The string of a text made of Unicode scalar values. -/
def JsString.ofString (text : String) : JsString := ⟨text.toList.flatMap codeUnitsOf⟩

/-- The character of a code unit that is not part of a pair. -/
def unpaired (unit : UInt16) : Char :=
  if isLeadSurrogate unit || isTrailSurrogate unit then Char.ofNat 0xFFFD else Char.ofNat unit.toNat

/-- The scalar values of a string, lone surrogates replaced. -/
def scalarValues : List UInt16 → List Char
  | [] => []
  | [unit] => [unpaired unit]
  | lead :: trail :: rest =>
    if isLeadSurrogate lead && isTrailSurrogate trail then
      Char.ofNat (0x10000 + (lead.toNat - 0xD800) * 0x400 + (trail.toNat - 0xDC00)) ::
        scalarValues rest
    else
      unpaired lead :: scalarValues (trail :: rest)

def JsString.toWellFormed (text : JsString) : String := String.ofList (scalarValues text.codeUnits)

/-- An optional string as a condition: absent and empty strings are falsy. -/
def truthy (text : Option JsString) : Bool := text.any fun text => !text.codeUnits.isEmpty

/-- A scalar value is no surrogate. -/
theorem not_surrogate (c : Char) : c.toNat < 0xD800 ∨ 0xDFFF < c.toNat ∧ c.toNat < 0x110000 := by
  have valid := c.valid
  simp only [UInt32.isValidChar, Nat.isValidChar, Char.toNat_val] at valid
  omega

theorem toNat_ofNat {n : ℕ} (small : n < 0x10000) : (UInt16.ofNat n).toNat = n := by
  rw [UInt16.toNat_ofNat']
  exact Nat.mod_eq_of_lt (by omega)

/-- The code unit of a character of the basic plane is no surrogate. -/
theorem codeUnitsOf_small {c : Char} (small : c.toNat < 0x10000) :
    isLeadSurrogate (UInt16.ofNat c.toNat) = false ∧
      isTrailSurrogate (UInt16.ofNat c.toNat) = false := by
  have valid := not_surrogate c
  simp only [isLeadSurrogate, isTrailSurrogate, toNat_ofNat small, Bool.and_eq_false_iff,
    decide_eq_false_iff_not]
  omega

/-- The other characters are surrogate pairs. -/
theorem codeUnitsOf_pair {c : Char} (large : ¬ c.toNat < 0x10000) :
    ∃ lead trail, codeUnitsOf c = [lead, trail] ∧
      isLeadSurrogate lead ∧ isTrailSurrogate trail ∧
      lead.toNat = 0xD800 + (c.toNat - 0x10000) / 0x400 ∧
      trail.toNat = 0xDC00 + (c.toNat - 0x10000) % 0x400 := by
  have valid := not_surrogate c
  have high : (UInt16.ofNat (0xD800 + (c.toNat - 0x10000) / 0x400)).toNat =
      0xD800 + (c.toNat - 0x10000) / 0x400 := toNat_ofNat (by omega)
  have low : (UInt16.ofNat (0xDC00 + (c.toNat - 0x10000) % 0x400)).toNat =
      0xDC00 + (c.toNat - 0x10000) % 0x400 := toNat_ofNat (by omega)
  refine ⟨_, _, if_neg large, ?_, ?_, high, low⟩
  · simp only [isLeadSurrogate, high, Bool.and_eq_true, decide_eq_true_eq]
    omega
  · simp only [isTrailSurrogate, low, Bool.and_eq_true, decide_eq_true_eq]
    omega

/-- The code units of a character are read back, whatever follows them. -/
theorem scalarValues_codeUnitsOf (c : Char) (rest : List UInt16) :
    scalarValues (codeUnitsOf c ++ rest) = c :: scalarValues rest := by
  by_cases small : c.toNat < 0x10000
  · rcases codeUnitsOf_small small with ⟨lead, trail⟩
    have read : unpaired (UInt16.ofNat c.toNat) = c := by
      simp [unpaired, lead, trail, toNat_ofNat small]
    rw [codeUnitsOf, if_pos small]
    cases rest with
    | nil => simp [scalarValues, read]
    | cons next rest => simp [scalarValues, read, lead]
  · have valid := not_surrogate c
    rcases codeUnitsOf_pair small with ⟨lead, trail, units, isLead, isTrail, high, low⟩
    have value : 0x10000 + (0xD800 + (c.toNat - 0x10000) / 0x400 - 0xD800) * 0x400 +
        (0xDC00 + (c.toNat - 0x10000) % 0x400 - 0xDC00) = c.toNat := by omega
    rw [units]
    simp only [List.cons_append, List.nil_append, scalarValues, isLead, isTrail, Bool.and_self,
      if_true, high, low, value, Char.ofNat_toNat]

/-- A text of scalar values survives the detour through code units. -/
theorem JsString.toWellFormed_ofString (text : String) :
    (JsString.ofString text).toWellFormed = text := by
  have read : ∀ characters : List Char,
      scalarValues (characters.flatMap codeUnitsOf) = characters := by
    intro characters
    induction characters with
    | nil => rfl
    | cons c characters hypothesis =>
      rw [List.flatMap_cons, scalarValues_codeUnitsOf, hypothesis]
  rw [toWellFormed, ofString, read, String.ofList_toList]

theorem JsString.ofString_injective : Function.Injective JsString.ofString :=
  Function.LeftInverse.injective toWellFormed_ofString

/-! ## Bytes -/

/-- `new TextEncoder().encode(text)`. -/
def textEncode (text : JsString) : Bytes := utf8 text.toWellFormed

theorem textEncode_ofString (text : String) : textEncode (.ofString text) = utf8 text := by
  rw [textEncode, JsString.toWellFormed_ofString]

/-- `new Uint8Array(length)`. -/
def newUint8Array (length : ℕ) : Bytes := List.replicate length 0

/-- `target.set(source, offset)`; `none` is the `RangeError`. -/
def setBytes (target source : Bytes) (offset : ℕ) : Option Bytes :=
  if offset + source.length ≤ target.length then
    some (target.take offset ++ source ++ target.drop (offset + source.length))
  else
    none

/-- Writing the next part of an array whose remaining bytes are still zero. -/
theorem setBytes_newUint8Array (written source : Bytes) (room : ℕ) :
    setBytes (written ++ newUint8Array (source.length + room)) source written.length =
      some (written ++ source ++ newUint8Array room) := by
  have fits : written.length + source.length ≤
      (written ++ newUint8Array (source.length + room)).length := by
    rw [List.length_append, newUint8Array, List.length_replicate]
    omega
  rw [setBytes, if_pos fits, List.take_left, List.drop_append, List.drop_of_length_le (by omega)]
  simp [newUint8Array]

end Keychain.TypeScript
