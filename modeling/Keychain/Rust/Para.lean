import Keychain.Rust.Direct
import Keychain.Rust.Std

/-!
The configuration of the Para signer, whose wallet id becomes a segment of every URL.

`is_valid_uuid` looks at the length, at four positions and at the text without its dashes.
`UuidTests` is what these tests say of the characters (`isValidUuid_iff`); a dash may
still stand in the place of a digit.
-/

namespace Keychain.Rust

structure ParaSignerConfig where
  apiKey : String
  walletId : String
  apiBaseUrl : Option String

namespace ParaSigner

def defaultBaseUrl : String := "https://api.getpara.com"

/-- Validate UUID format. -/
def isValidUuid (s : String) : Bool :=
  let bytes := utf8 s
  if bytes.length ≠ 36 then
    false
  else
    bytes[8]? == some 0x2d && bytes[13]? == some 0x2d && bytes[18]? == some 0x2d &&
      bytes[23]? == some 0x2d && (utf8 (removeChar '-' s)).all isAsciiHexdigit

/-- `buildClient` is the outcome of building the HTTP client. -/
def fromConfig [Crates] (buildClient : Except SignerError Unit) (config : ParaSignerConfig) :
    Except SignerError ParaSigner := do
  require (config.apiKey ≠ "" ∧ config.walletId ≠ "")
    (.configError "apiKey and walletId must not be empty")
  require ("sk_".toList.isPrefixOf config.apiKey.toList = true)
    (.configError "apiKey must be a Para secret key (starts with sk_)")
  require (isValidUuid config.walletId = true) (.configError "walletId must be a valid UUID")
  config.apiBaseUrl.forM validateHttpsUrl
  buildClient
  pure {
    apiKey := config.apiKey
    walletId := config.walletId
    apiBaseUrl := normalizeBaseUrl (config.apiBaseUrl.getD defaultBaseUrl)
    publicKey := none }

/-! ## The grammar -/

/-- Hexadecimal digits, as many. -/
def HexGroup (size : ℕ) (digits : List Char) : Prop :=
  digits.length = size ∧ ∀ c ∈ digits, isHexDigit c = true

/-- 8, 4, 4, 4 and 12 hexadecimal digits, separated by single dashes. -/
def IsUuid (s : String) : Prop :=
  ∃ a b c d e, s.toList = a ++ '-' :: (b ++ '-' :: (c ++ '-' :: (d ++ '-' :: e))) ∧
    HexGroup 8 a ∧ HexGroup 4 b ∧ HexGroup 4 c ∧ HexGroup 4 d ∧ HexGroup 12 e

/-- The positions of the dashes. -/
def dashes : List ℕ := [8, 13, 18, 23]

/-- What `is_valid_uuid` tests. -/
structure UuidTests (cs : List Char) : Prop where
  length : cs.length = 36
  dash : ∀ p ∈ dashes, cs[p]? = some '-'
  digits : ∀ c ∈ cs, isHexDigit c = true ∨ c = '-'

/-- The tests pass, with a further dash in the place of a digit. -/
def StrayDash (s : String) : Prop :=
  UuidTests s.toList ∧ ∃ p ∉ dashes, s.toList[p]? = some '-'

section

variable {s : String} {cs digits rest : List Char} {n p : ℕ}

theorem UuidTests.ascii (tests : UuidTests cs) : ∀ c ∈ cs, c.toNat ≤ 0x7f := by
  intro c member
  rcases tests.digits c member with hex | rfl
  · exact ascii_of_isHexDigit hex
  · decide

/-- The tests of bytes. -/
theorem isValidUuid_eq_true :
    isValidUuid s = true ↔ (utf8 s).length = 36 ∧ (∀ p ∈ dashes, (utf8 s)[p]? = some 0x2d) ∧
      ∀ byte ∈ utf8 s, isAsciiHexdigit byte = true ∨ byte = 0x2d := by
  have plain : (utf8 (removeChar '-' s)).all isAsciiHexdigit = true ↔
      ∀ byte ∈ utf8 s, isAsciiHexdigit byte = true ∨ byte = 0x2d := by
    have dash : byteOf '-' = 0x2d := rfl
    rw [utf8_removeChar (by decide), dash, List.all_filter, List.all_eq_true]
    refine forall₂_congr fun byte _ => ?_
    by_cases same : byte = 0x2d
    · simp [same]
    · simp [same]
  have four : (∀ p ∈ dashes, (utf8 s)[p]? = some 0x2d) ↔
      (utf8 s)[8]? = some 0x2d ∧ (utf8 s)[13]? = some 0x2d ∧ (utf8 s)[18]? = some 0x2d ∧
        (utf8 s)[23]? = some 0x2d := by
    simp only [dashes, List.forall_mem_cons, List.not_mem_nil, false_implies, implies_true,
      and_true]
  rw [isValidUuid, four, ← plain]
  by_cases length : (utf8 s).length = 36
  · rw [if_neg (not_not.mpr length)]
    simp only [Bool.and_eq_true, beq_iff_eq, length, true_and, and_assoc]
  · rw [if_pos length]
    simp [length]

/-- Of ASCII texts, the tests of bytes are tests of characters. -/
theorem isValidUuid_iff_of_ascii (ascii : ∀ c ∈ s.toList, c.toNat ≤ 0x7f) :
    isValidUuid s = true ↔ UuidTests s.toList := by
  have dash : (0x2d : UInt8) = byteOf '-' := rfl
  have same : ∀ c, c.toNat ≤ 0x7f → (byteOf c = byteOf '-' ↔ c = '-') :=
    fun c narrow => byteOf_inj narrow (by decide)
  have positions : (∀ p ∈ dashes, (s.toList.map byteOf)[p]? = some (byteOf '-')) ↔
      ∀ p ∈ dashes, s.toList[p]? = some '-' := by
    refine forall₂_congr fun p _ => ?_
    rw [List.getElem?_map, Option.map_eq_some_iff]
    constructor
    · intro found
      obtain ⟨c, found, equal⟩ := found
      rw [found, (same c (ascii c (List.mem_of_getElem? found))).mp equal]
    · intro found
      exact ⟨'-', found, rfl⟩
  have digits : (∀ byte ∈ s.toList.map byteOf, isAsciiHexdigit byte = true ∨ byte = byteOf '-') ↔
      ∀ c ∈ s.toList, isHexDigit c = true ∨ c = '-' := by
    rw [List.forall_mem_map]
    refine forall₂_congr fun c member => ?_
    rw [isAsciiHexdigit_byteOf (ascii c member), same c (ascii c member)]
  rw [isValidUuid_eq_true, utf8_of_ascii ascii, dash, positions, digits, List.length_map]
  exact ⟨fun h => ⟨h.1, h.2.1, h.2.2⟩, fun h => ⟨h.length, h.dash, h.digits⟩⟩

theorem ascii_of_isValidUuid (valid : isValidUuid s = true) :
    ∀ c ∈ s.toList, c.toNat ≤ 0x7f := by
  apply ascii_of_utf8
  intro byte member
  have low : ∀ byte : UInt8, isAsciiHexdigit byte = true → byte.toNat ≤ 0x7f := by
    intro byte hex
    simp only [isAsciiHexdigit, Bool.or_eq_true, Bool.and_eq_true, decide_eq_true_eq,
      UInt8.le_iff_toNat_le] at hex
    have bounds : (0x39 : UInt8).toNat = 57 ∧ (0x46 : UInt8).toNat = 70 ∧
        (0x66 : UInt8).toNat = 102 := by decide
    omega
  rcases (isValidUuid_eq_true.mp valid).2.2 byte member with hex | rfl
  · exact low byte hex
  · decide

theorem isValidUuid_iff : isValidUuid s = true ↔ UuidTests s.toList :=
  ⟨fun valid => (isValidUuid_iff_of_ascii (ascii_of_isValidUuid valid)).mp valid,
    fun tests => (isValidUuid_iff_of_ascii tests.ascii).mpr tests⟩

theorem no_dash_of_hex (hex : ∀ c ∈ digits, isHexDigit c = true) : digits[p]? ≠ some '-' := by
  intro found
  have dash := hex '-' (List.mem_of_getElem? found)
  exact absurd dash (by decide)

/-- Where the dashes are in a group of digits and what follows it. -/
theorem dash_iff_of_hex (hex : ∀ c ∈ digits, isHexDigit c = true) :
    (digits ++ '-' :: rest)[p]? = some '-' ↔
      p = digits.length ∨ digits.length < p ∧ rest[p - (digits.length + 1)]? = some '-' := by
  by_cases inside : p < digits.length
  · rw [List.getElem?_append_left inside]
    have none : ¬ digits[p]? = some '-' := no_dash_of_hex hex
    simp only [none, false_iff]
    omega
  · rw [List.getElem?_append_right (by omega)]
    by_cases first : p = digits.length
    · subst first
      simp
    · have behind : p - digits.length = p - (digits.length + 1) + 1 := by omega
      rw [behind, List.getElem?_cons_succ]
      constructor
      · intro found
        exact .inr ⟨by omega, found⟩
      · intro given
        rcases given with same | ⟨-, found⟩
        · exact absurd same first
        · exact found

/-- The text after `p` up to the dash that follows `size` characters, and the rest. -/
theorem drop_eq_of_dash (dash : cs[p + n]? = some '-') :
    cs.drop p = (cs.drop p).take n ++ '-' :: cs.drop (p + n + 1) := by
  have found : (cs.drop p)[n]? = some '-' := by rwa [List.getElem?_drop]
  obtain ⟨inside, value⟩ := List.getElem?_eq_some_iff.mp found
  conv_lhs => rw [← List.take_append_drop n (cs.drop p), List.drop_eq_getElem_cons inside, value,
    List.drop_drop, ← Nat.add_assoc]

/-- Between the dashes there are digits. -/
theorem UuidTests.group (tests : UuidTests cs) (only : ∀ p, cs[p]? = some '-' → p ∈ dashes)
    (fits : p + n ≤ 36) (between : ∀ q ∈ dashes, q < p ∨ p + n ≤ q) :
    HexGroup n ((cs.drop p).take n) := by
  have length := tests.length
  constructor
  · rw [List.length_take, List.length_drop]
    omega
  · intro c member
    obtain ⟨i, inside, rfl⟩ := List.mem_iff_getElem.mp member
    rw [List.length_take, List.length_drop] at inside
    rw [List.getElem_take, List.getElem_drop]
    have bounded : p + i < cs.length := by omega
    rcases tests.digits cs[p + i] (List.getElem_mem bounded) with hex | dash
    · exact hex
    · have listed := only (p + i) (List.getElem?_eq_some_iff.mpr ⟨bounded, dash⟩)
      have apart := between (p + i) listed
      omega

/-- The grammar is the tests without a further dash. -/
theorem isUuid_iff : IsUuid s ↔ UuidTests s.toList ∧ ∀ p, s.toList[p]? = some '-' → p ∈ dashes := by
  constructor
  · intro uuid
    obtain ⟨a, b, c, d, e, listed, ⟨sizeA, hexA⟩, ⟨sizeB, hexB⟩, ⟨sizeC, hexC⟩, ⟨sizeD, hexD⟩,
      ⟨sizeE, hexE⟩⟩ := uuid
    rw [listed]
    have positions : ∀ p, (a ++ '-' :: (b ++ '-' :: (c ++ '-' :: (d ++ '-' :: e))))[p]? = some '-' ↔
        p ∈ dashes := by
      intro p
      have none : ∀ q, ¬ e[q]? = some '-' := fun q => no_dash_of_hex hexE
      rw [dash_iff_of_hex hexA, dash_iff_of_hex hexB, dash_iff_of_hex hexC, dash_iff_of_hex hexD]
      simp only [sizeA, sizeB, sizeC, sizeD, none, and_false, or_false, dashes, List.mem_cons,
        List.not_mem_nil]
      omega
    refine ⟨⟨?_, fun p => (positions p).mpr, ?_⟩, fun p => (positions p).mp⟩
    · simp only [List.length_append, List.length_cons, sizeA, sizeB, sizeC, sizeD, sizeE]
    · intro x member
      simp only [List.mem_append, List.mem_cons] at member
      grind
  · intro given
    obtain ⟨tests, only⟩ := given
    have dash := tests.dash
    simp only [dashes, List.forall_mem_cons, List.not_mem_nil, false_implies, implies_true,
      and_true] at dash
    obtain ⟨first, second, third, fourth⟩ := dash
    have last : (s.toList.drop 24).take 12 = s.toList.drop 24 := by
      have size := tests.length
      apply List.take_of_length_le
      rw [List.length_drop]
      omega
    refine ⟨_, _, _, _, _, ?_, tests.group (p := 0) only (by omega) (by decide),
      tests.group (p := 9) only (by omega) (by decide),
      tests.group (p := 14) only (by omega) (by decide),
      tests.group (p := 19) only (by omega) (by decide),
      tests.group (p := 24) only (by omega) (by decide)⟩
    have one : s.toList = (s.toList.drop 0).take 8 ++ '-' :: s.toList.drop 9 :=
      drop_eq_of_dash (p := 0) first
    have two : s.toList.drop 9 = (s.toList.drop 9).take 4 ++ '-' :: s.toList.drop 14 :=
      drop_eq_of_dash (p := 9) second
    have three : s.toList.drop 14 = (s.toList.drop 14).take 4 ++ '-' :: s.toList.drop 19 :=
      drop_eq_of_dash (p := 14) third
    have four : s.toList.drop 19 = (s.toList.drop 19).take 4 ++ '-' :: s.toList.drop 24 :=
      drop_eq_of_dash (p := 19) fourth
    rw [last, ← four, ← three, ← two]
    exact one

theorem fromConfig_eq_ok [Crates] {buildClient : Except SignerError Unit}
    {config : ParaSignerConfig} {signer : ParaSigner}
    (made : fromConfig buildClient config = .ok signer) :
    isValidUuid signer.walletId = true := by
  obtain ⟨-, -, made⟩ := bind_eq_ok.mp made
  obtain ⟨-, -, made⟩ := bind_eq_ok.mp made
  obtain ⟨_, valid, made⟩ := bind_eq_ok.mp made
  obtain ⟨-, -, made⟩ := bind_eq_ok.mp made
  obtain ⟨-, -, made⟩ := bind_eq_ok.mp made
  cases made
  exact require_eq_ok.mp valid

/-- The check of wallet ids is the grammar, and so no signer is made with any other
wallet id than a UUID. -/
def ChecksUuid (s : String) : Prop :=
  (isValidUuid s = true ↔ IsUuid s) ∧
    ∀ (_ : Crates) (buildClient : Except SignerError Unit) (config : ParaSignerConfig)
      (signer : ParaSigner), fromConfig buildClient config = .ok signer → signer.walletId = s →
        IsUuid s

/-- `is_valid_uuid` decides the grammar, except for a dash in the place of a digit. -/
theorem isValidUuid_checks_iff (s : String) : ChecksUuid s ↔ ¬ StrayDash s := by
  constructor
  · intro checks stray
    obtain ⟨tests, p, further, found⟩ := stray
    have uuid := checks.1.mp (isValidUuid_iff.mpr tests)
    exact further ((isUuid_iff.mp uuid).2 p found)
  · intro clean
    have grammar : UuidTests s.toList → IsUuid s := by
      intro tests
      refine isUuid_iff.mpr ⟨tests, fun p found => ?_⟩
      by_contra further
      exact clean ⟨tests, p, further, found⟩
    refine ⟨⟨fun valid => grammar (isValidUuid_iff.mp valid),
      fun uuid => isValidUuid_iff.mpr (isUuid_iff.mp uuid).1⟩, ?_⟩
    intro _ buildClient config signer made same
    subst same
    exact grammar (isValidUuid_iff.mp (fromConfig_eq_ok made))

/-- 36 dashes. -/
def dashedId : String := "------------------------------------"

/-- A text of dashes alone passes for a wallet id. -/
theorem isValidUuid_accepts_dashes :
    isValidUuid dashedId = true ∧ ¬ IsUuid dashedId ∧ ¬ ChecksUuid dashedId := by
  have valid : isValidUuid dashedId = true := by decide +kernel
  have other : ¬ IsUuid dashedId := by
    intro uuid
    have first : (0 : ℕ) ∈ dashes := (isUuid_iff.mp uuid).2 0 (by decide +kernel)
    exact absurd first (by decide)
  exact ⟨valid, other, fun checks => other (checks.1.mp valid)⟩

end

end ParaSigner

end Keychain.Rust
