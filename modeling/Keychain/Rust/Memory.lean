import Mathlib.Data.List.Forall2
import Keychain.Rust.Error
import Keychain.Rust.Std

/-!
The private keys of the memory signer: `memory/keypair_util.rs`.

A key is a base58 text, an array of numbers in a text, or the content of a keypair file,
which is JSON. `JsonByteArray` is the JSON grammar of such a file. Its whitespace and its
numerals are read alike by the parser of array texts (`parseArrayItem_of_json`).
-/

namespace Keychain.Rust.Memory

/-- The crates of the key parsers, with the type of a key pair. -/
class KeypairCrates (Keypair : Type) where
  /-- `bs58::decode` -/
  bs58Decode : String → Except String Bytes
  /-- `serde_json::from_str::<Vec<u8>>` -/
  vecFromJson : String → Except String Bytes
  /-- `keypair_from_bytes` -/
  keypairFromBytes : Bytes → Except String Keypair

def privateKeyLength : ℕ := 64

section

variable {Keypair : Type} [KeypairCrates Keypair]

/-- The key pair of so many bytes, or the error for another number of them. -/
def keypairOfBytes (lengthError : ℕ → String) (bytes : Bytes) : Except SignerError Keypair := do
  require (bytes.length = privateKeyLength) (.invalidPrivateKey (lengthError bytes.length))
  (KeypairCrates.keypairFromBytes bytes).mapError fun _ =>
    .invalidPrivateKey "Invalid private key bytes"

/-- A key pair from a base58-encoded private key. -/
def fromBase58Safe (privateKey : String) : Except SignerError Keypair := do
  let decoded ← (KeypairCrates.bs58Decode Keypair privateKey).mapError fun _ =>
    .invalidPrivateKey "Invalid private key format"
  keypairOfBytes
    (fun got => s!"Invalid private key length: expected {privateKeyLength} bytes, got {got}")
    decoded

/-- `text.starts_with('[') && text.ends_with(']')`. -/
def isBracketed (text : String) : Bool :=
  text.toList.head? == some '[' && text.toList.getLast? == some ']'

/-- `s.trim().parse::<u8>()`. -/
def parseArrayItem (item : List Char) : Option UInt8 :=
  u8FromStrRadix 10 (trimSpace (String.ofList item))

/-- A key pair from a text like `[0, 1, 2, ...]`. -/
def fromU8ArrayString (arrayStr : String) : Except SignerError Keypair := do
  let trimmed := trimSpace arrayStr
  require (isBracketed trimmed = true)
    (.invalidPrivateKey "U8Array string must start with '[' and end with ']'")
  let inner := (trimmed.toList.drop 1).dropLast
  require (inner.all isWhitespace = false)
    (.invalidPrivateKey "U8Array string cannot be empty")
  let byteArray ← okOr ((inner.splitOn ',').mapM parseArrayItem)
    (.invalidPrivateKey "Invalid U8Array private key format")
  keypairOfBytes
    (fun got => s!"Private key must be exactly {privateKeyLength} bytes, got {got}") byteArray

/-- A key pair from a private key text in either format. -/
def fromPrivateKeyString (privateKey : String) : Except SignerError Keypair :=
  if isBracketed (trimSpace privateKey) then fromU8ArrayString privateKey
  else fromBase58Safe privateKey

/-- A key pair from the content of a keypair file. -/
def fromJsonKeypair (jsonContent : String) : Except SignerError Keypair := do
  let byteArray ← (KeypairCrates.vecFromJson Keypair jsonContent).mapError fun _ =>
    .invalidPrivateKey "Invalid JSON keypair format. Expected a JSON array of 64 bytes"
  keypairOfBytes
    (fun got => s!"JSON keypair must be exactly {privateKeyLength} bytes, got {got}") byteArray

/-- `readToString` is `fs::read_to_string`. -/
def fromPrivateKeyFile (readToString : String → Except String String) (path : String) :
    Except SignerError Keypair := do
  let fileContent ← (readToString path).mapError fun _ =>
    .ioError "Failed to read private key file"
  fromJsonKeypair fileContent

end

/-! ## The grammar of a keypair file -/

/-- The whitespace of JSON. -/
def isJsonWhitespace (c : Char) : Bool := c == ' ' || c == '\t' || c == '\n' || c == '\r'

/-- A JSON integer literal without a sign. Zero alone begins with a zero. -/
structure JsonNatural (digits : List Char) (n : ℕ) : Prop where
  nonempty : digits ≠ []
  decimal : ∀ c ∈ digits, c.isDigit = true
  leading : digits.head? = some '0' → digits = ['0']
  value : Nat.ofDigitChars 10 digits 0 = n

/-- The literal of a byte between whitespace. -/
def JsonByteItem (item : List Char) (byte : UInt8) : Prop :=
  ∃ before digits after, item = before ++ digits ++ after ∧
    before.all isJsonWhitespace = true ∧ after.all isJsonWhitespace = true ∧
    JsonNatural digits byte.toNat

/-- What stands between the brackets of an array of bytes. -/
inductive JsonByteItems : List Char → Bytes → Prop where
  | none {inner : List Char} (blank : inner.all isJsonWhitespace = true) : JsonByteItems inner []
  | some {items : List (List Char)} {bytes : Bytes} (nonempty : items ≠ [])
      (each : List.Forall₂ JsonByteItem items bytes) :
      JsonByteItems ([','].intercalate items) bytes

/-- A JSON array of integer literals from 0 to 255. -/
def JsonByteArray (text : String) (bytes : Bytes) : Prop :=
  ∃ before inner after, text.toList = before ++ ('[' :: inner ++ [']']) ++ after ∧
    before.all isJsonWhitespace = true ∧ after.all isJsonWhitespace = true ∧
    JsonByteItems inner bytes

section

variable {c : Char} {digits item inner : List Char} {n : ℕ} {byte : UInt8} {bytes : Bytes}

theorem isWhitespace_of_json (blank : isJsonWhitespace c = true) : isWhitespace c = true := by
  simp only [isJsonWhitespace, Bool.or_eq_true, beq_iff_eq] at blank
  rcases blank with ((rfl | rfl) | rfl) | rfl <;> rfl

theorem all_isWhitespace_of_json (blank : item.all isJsonWhitespace = true) :
    ∀ c ∈ item, isWhitespace c = true :=
  fun c member => isWhitespace_of_json (List.all_eq_true.mp blank c member)

theorem toNat_of_isDigit (digit : c.isDigit = true) : 48 ≤ c.toNat ∧ c.toNat ≤ 57 := by
  simp only [Char.isDigit, Bool.and_eq_true, decide_eq_true_eq, UInt32.le_iff_toNat_le] at digit
  exact digit

theorem not_isWhitespace_of_isDigit (digit : c.isDigit = true) : isWhitespace c = false := by
  have range := toNat_of_isDigit digit
  simp only [isWhitespace, Bool.or_eq_false_iff, Bool.and_eq_false_iff, decide_eq_false_iff_not]
  omega

theorem toDigit_of_isDigit (digit : c.isDigit = true) :
    toDigit 10 (byteOf c) = some (c.toNat - 48) := by
  have range := toNat_of_isDigit digit
  have value : (byteOf c).toNat = c.toNat := toNat_byteOf (by omega)
  simp only [toDigit, value]
  rw [if_pos (by omega), Option.filter_some, if_pos (by simp; omega)]

/-- A numeral only grows with more digits. -/
theorem le_ofDigitChars : n ≤ Nat.ofDigitChars 10 digits n := by
  induction digits generalizing n with
  | nil => exact Nat.le_of_eq Nat.ofDigitChars_nil.symm
  | cons c rest ih =>
    rw [Nat.ofDigitChars_cons]
    have grown : n ≤ 10 * n + (c.toNat - '0'.toNat) := by omega
    exact Nat.le_trans grown ih

/-- The integer parser reads the numeral of a byte. -/
theorem digitsFrom_of_json (decimal : ∀ c ∈ digits, c.isDigit = true)
    (fits : Nat.ofDigitChars 10 digits n ≤ 0xff) :
    digitsFrom 10 n (digits.map byteOf) = some (Nat.ofDigitChars 10 digits n) := by
  induction digits generalizing n with
  | nil => rw [List.map_nil, digitsFrom, Nat.ofDigitChars_nil]
  | cons c rest ih =>
    rw [List.forall_mem_cons] at decimal
    rw [Nat.ofDigitChars_cons] at fits
    -- the number read so far fits, as the whole numeral does
    have within := Nat.le_trans le_ofDigitChars fits
    have same : n * 10 + (c.toNat - 48) = 10 * n + (c.toNat - '0'.toNat) := by
      rw [Nat.mul_comm]
      rfl
    rw [List.map_cons, digitsFrom, toDigit_of_isDigit decimal.1, Option.bind_some, same,
      if_pos within, ih decimal.2 fits, Nat.ofDigitChars_cons]

theorem u8FromStrRadix_of_json (literal : JsonNatural digits byte.toNat) :
    u8FromStrRadix 10 (String.ofList digits) = some byte := by
  have ascii : ∀ c ∈ (String.ofList digits).toList, c.toNat ≤ 0x7f := by
    intro c member
    rw [String.toList_ofList] at member
    have range := toNat_of_isDigit (literal.decimal c member)
    omega
  have read := digitsFrom_of_json (n := 0) literal.decimal
    (by rw [literal.value]; exact Nat.le_of_lt_succ byte.toNat_lt)
  rw [literal.value] at read
  rw [u8FromStrRadix, utf8_of_ascii ascii, String.toList_ofList]
  obtain ⟨c, rest, rfl⟩ := List.exists_cons_of_ne_nil literal.nonempty
  have range := toNat_of_isDigit (literal.decimal c List.mem_cons_self)
  have unsigned : byteOf c ≠ 0x2b := by
    intro plus
    have value := toNat_byteOf (c := c) (by omega)
    rw [plus] at value
    have code : (0x2b : UInt8).toNat = 43 := rfl
    omega
  rw [List.map_cons] at read ⊢
  rw [u8FromAsciiRadix, read, Option.map_some, UInt8.ofNat_toNat]
  · intro none
    exact absurd none (List.cons_ne_nil _ _)
  · intro plus
    exact unsigned (List.cons_eq_cons.mp plus).1
  · intro _ plus
    exact unsigned (List.cons_eq_cons.mp plus).1

/-- The parser of array texts reads every item of a JSON array. -/
theorem parseArrayItem_of_json (literal : JsonByteItem item byte) :
    parseArrayItem item = some byte := by
  obtain ⟨before, digits, after, rfl, blank, blank', literal⟩ := literal
  have solid : ∀ c ∈ digits, isWhitespace c = false :=
    fun c member => not_isWhitespace_of_isDigit (literal.decimal c member)
  rw [parseArrayItem, trimSpace_surrounded (all_isWhitespace_of_json blank)
    (all_isWhitespace_of_json blank') (fun c front => solid c (List.mem_of_head? front))
    (fun c back => solid c (List.mem_of_getLast? back))]
  exact u8FromStrRadix_of_json literal

theorem comma_not_mem_of_json (literal : JsonByteItem item byte) : ',' ∉ item := by
  obtain ⟨before, digits, after, rfl, blank, blank', literal⟩ := literal
  rw [List.all_eq_true] at blank blank'
  intro member
  rw [List.mem_append, List.mem_append] at member
  rcases member with (member | member) | member
  · exact absurd (blank _ member) (by decide)
  · exact absurd (literal.decimal _ member) (by decide)
  · exact absurd (blank' _ member) (by decide)

theorem comma_not_mem_items {items : List (List Char)}
    (each : List.Forall₂ JsonByteItem items bytes) : ∀ item ∈ items, ',' ∉ item := by
  induction each with
  | nil => exact List.forall_mem_nil _
  | cons literal _ ih => exact List.forall_mem_cons.mpr ⟨comma_not_mem_of_json literal, ih⟩

theorem not_all_isWhitespace_of_json (literal : JsonByteItem item byte) :
    ∃ c ∈ item, isWhitespace c = false := by
  obtain ⟨before, digits, after, rfl, -, -, literal⟩ := literal
  obtain ⟨c, member⟩ := List.exists_mem_of_ne_nil digits literal.nonempty
  refine ⟨c, ?_, not_isWhitespace_of_isDigit (literal.decimal c member)⟩
  exact List.mem_append_left _ (List.mem_append_right _ member)

/-- What stands between the brackets of a filled array, as the parser of array texts takes
it apart. -/
theorem splitOn_of_json (filled : bytes ≠ []) (elements : JsonByteItems inner bytes) :
    inner.all isWhitespace = false ∧ (inner.splitOn ',').mapM parseArrayItem = some bytes := by
  cases elements with
  | none => exact absurd rfl filled
  | @some items _ nonempty each =>
    constructor
    · cases each with
      | nil => exact absurd rfl nonempty
      | @cons item _ rest _ literal _ =>
        -- the first item has a digit
        obtain ⟨c, member, solid⟩ := not_all_isWhitespace_of_json literal
        rw [List.all_eq_false]
        refine ⟨c, ?_, by rw [solid]; exact Bool.false_ne_true⟩
        cases rest with
        | nil => rwa [List.intercalate_singleton]
        | cons =>
          rw [List.intercalate_cons_cons, List.append_assoc]
          exact List.mem_append_left _ member
    · rw [List.splitOn_intercalate ',' (comma_not_mem_items each) nonempty]
      exact mapM_eq_some_iff.mpr (each.imp fun _ _ => parseArrayItem_of_json)

/-- Trimmed, the text of a JSON array begins and ends with its brackets. -/
theorem trimSpace_of_json {text : String} (read : JsonByteArray text bytes) :
    ∃ inner, JsonByteItems inner bytes ∧
      trimSpace text = String.ofList ('[' :: inner ++ [']']) := by
  obtain ⟨before, inner, after, whole, blank, blank', elements⟩ := read
  refine ⟨inner, elements, ?_⟩
  have same : text = String.ofList (before ++ ('[' :: inner ++ [']']) ++ after) := by
    rw [← whole, String.ofList_toList]
  rw [same]
  apply trimSpace_surrounded (all_isWhitespace_of_json blank) (all_isWhitespace_of_json blank')
  · intro c front
    rw [List.cons_append, List.head?_cons, Option.some.injEq] at front
    subst front
    rfl
  · intro c back
    rw [List.getLast?_concat, Option.some.injEq] at back
    subst back
    rfl

end

/-! ## Both parsers on one text -/

section

variable {Keypair : Type} [KeypairCrates Keypair] {text : String} {bytes : Bytes}
  {keypair : Keypair}

theorem keypairOfBytes_eq_ok {lengthError : ℕ → String} :
    keypairOfBytes lengthError bytes = .ok keypair ↔
      bytes.length = privateKeyLength ∧ KeypairCrates.keypairFromBytes bytes = .ok keypair := by
  rw [keypairOfBytes, bind_eq_ok]
  simp only [require_eq_ok, exists_and_left, exists_const]
  cases (KeypairCrates.keypairFromBytes bytes : Except String Keypair) <;> simp [Except.mapError]

theorem fromJsonKeypair_eq_ok :
    fromJsonKeypair text = .ok keypair ↔
      ∃ bytes, KeypairCrates.vecFromJson Keypair text = .ok bytes ∧
        bytes.length = privateKeyLength ∧ KeypairCrates.keypairFromBytes bytes = .ok keypair := by
  rw [fromJsonKeypair, bind_eq_ok]
  simp only [keypairOfBytes_eq_ok]
  cases KeypairCrates.vecFromJson Keypair text <;> simp [Except.mapError]

/-- A text of a JSON array is a text of a filled array, whatever its whitespace. -/
theorem fromPrivateKeyString_of_json (read : JsonByteArray text bytes)
    (whole : bytes.length = privateKeyLength)
    (paired : KeypairCrates.keypairFromBytes bytes = .ok keypair) :
    fromPrivateKeyString text = .ok keypair := by
  obtain ⟨inner, elements, trimmed⟩ := trimSpace_of_json read
  have bracketed : isBracketed (trimSpace text) = true := by
    rw [trimmed, isBracketed, String.toList_ofList, List.getLast?_concat]
    rfl
  have between : ((trimSpace text).toList.drop 1).dropLast = inner := by
    rw [trimmed, String.toList_ofList]
    exact List.dropLast_concat
  have filled : bytes ≠ [] := by
    intro none
    rw [none] at whole
    cases whole
  have split := splitOn_of_json filled elements
  rw [fromPrivateKeyString, if_pos bracketed, fromU8ArrayString]
  simp only [between, bind_eq_ok, require_eq_ok, bracketed, split.1, split.2, okOr,
    keypairOfBytes_eq_ok]
  exact ⟨(), trivial, (), trivial, bytes, rfl, whole, paired⟩

/-- A keypair content that loads from a file loads as a text. Of the JSON crate it is used that
what it reads is a JSON array of bytes. -/
theorem fromPrivateKeyString_of_fromJsonKeypair
    (grammar : ∀ text bytes, KeypairCrates.vecFromJson Keypair text = .ok bytes →
      JsonByteArray text bytes)
    (text : String) (keypair : Keypair) (loaded : fromJsonKeypair text = .ok keypair) :
    fromPrivateKeyString text = .ok keypair := by
  obtain ⟨bytes, read, whole, paired⟩ := fromJsonKeypair_eq_ok.mp loaded
  exact fromPrivateKeyString_of_json (grammar text bytes read) whole paired

/-- A file that loads can be given by its content. -/
theorem fromPrivateKeyString_of_fromPrivateKeyFile
    (grammar : ∀ text bytes, KeypairCrates.vecFromJson Keypair text = .ok bytes →
      JsonByteArray text bytes)
    {readToString : String → Except String String} {path : String}
    (loaded : fromPrivateKeyFile readToString path = .ok keypair) :
    ∃ content, readToString path = .ok content ∧ fromPrivateKeyString content = .ok keypair := by
  rw [fromPrivateKeyFile, bind_eq_ok] at loaded
  obtain ⟨content, opened, loaded⟩ := loaded
  refine ⟨content, ?_, ?_⟩
  · cases file : readToString path with
    | error failure =>
      rw [file] at opened
      cases opened
    | ok found =>
      rw [file] at opened
      cases opened
      rfl
  · obtain ⟨bytes, read, whole, paired⟩ := fromJsonKeypair_eq_ok.mp loaded
    exact fromPrivateKeyString_of_json (grammar content bytes read) whole paired

end

/-! ## A keypair file with whitespace -/

section

/-- The text without the JSON whitespace at its two ends. -/
def trimJson (text : List Char) : List Char :=
  (((text.dropWhile isJsonWhitespace).reverse).dropWhile isJsonWhitespace).reverse

/-- Read a byte of a JSON array. -/
def readJsonByte (item : List Char) : Option UInt8 :=
  let digits := trimJson item
  let value := Nat.ofDigitChars 10 digits 0
  if digits ≠ [] ∧ digits.all Char.isDigit = true ∧ (digits.head? = some '0' → digits = ['0']) ∧
      value < 0x100 then
    some (UInt8.ofNat value)
  else
    none

/-- Read a JSON array of bytes. -/
def readJsonBytes (text : List Char) : Option Bytes := do
  let core := trimJson text
  let inner := (core.drop 1).dropLast
  if core ≠ '[' :: inner ++ [']'] then none
  else if inner.all isJsonWhitespace = true then some []
  else (inner.splitOn ',').mapM readJsonByte

theorem exists_trimJson (text : List Char) :
    ∃ before after, text = before ++ trimJson text ++ after ∧
      before.all isJsonWhitespace = true ∧ after.all isJsonWhitespace = true := by
  have back := List.takeWhile_append_dropWhile (p := isJsonWhitespace)
    (l := (text.dropWhile isJsonWhitespace).reverse)
  refine ⟨text.takeWhile isJsonWhitespace,
    ((text.dropWhile isJsonWhitespace).reverse.takeWhile isJsonWhitespace).reverse,
    ?_, List.all_takeWhile, ?_⟩
  · rw [trimJson, List.append_assoc, ← List.reverse_append, back, List.reverse_reverse,
      List.takeWhile_append_dropWhile]
  · rw [List.all_reverse]
    exact List.all_takeWhile

theorem jsonByteItem_of_read {item : List Char} {byte : UInt8}
    (read : readJsonByte item = some byte) : JsonByteItem item byte := by
  rw [readJsonByte] at read
  split_ifs at read with literal
  obtain ⟨nonempty, decimal, leading, fits⟩ := literal
  obtain ⟨before, after, whole, blank, blank'⟩ := exists_trimJson item
  refine ⟨before, trimJson item, after, whole, blank, blank', nonempty,
    List.all_eq_true.mp decimal, leading, ?_⟩
  rw [← Option.some.inj read, UInt8.toNat_ofNat_of_lt' fits]

theorem jsonByteArray_of_read {text : String} {bytes : Bytes}
    (read : readJsonBytes text.toList = some bytes) : JsonByteArray text bytes := by
  rw [readJsonBytes] at read
  obtain ⟨before, after, whole, blank, blank'⟩ := exists_trimJson text.toList
  have enclosed (bracketed : ¬ trimJson text.toList ≠
      '[' :: ((trimJson text.toList).drop 1).dropLast ++ [']']) :=
    whole.trans (congrArg (fun core => before ++ core ++ after) (not_not.mp bracketed))
  split_ifs at read with bracketed empty
  · cases read
    exact ⟨before, _, after, enclosed bracketed, blank, blank', .none empty⟩
  · refine ⟨before, _, after, enclosed bracketed, blank, blank', ?_⟩
    have joined : [','].intercalate ((((trimJson text.toList).drop 1).dropLast).splitOn ',') =
        ((trimJson text.toList).drop 1).dropLast := List.intercalate_splitOn ','
    rw [← joined]
    exact .some (List.splitOnP_ne_nil _ _)
      ((mapM_eq_some_iff.mp read).imp fun _ _ => jsonByteItem_of_read)

/-- The bytes of a key pair: the seed, then the public key of it. -/
def knownKeypair : Bytes :=
  [41, 99, 180, 88, 51, 57, 48, 80, 61, 63, 219, 75, 176, 49, 116, 254,
    227, 176, 196, 204, 122, 47, 166, 133, 155, 252, 217, 0, 253, 17, 49, 143,
    47, 94, 121, 167, 195, 136, 72, 22, 157, 48, 77, 88, 63, 96, 57, 122,
    181, 243, 236, 188, 241, 134, 174, 224, 100, 246, 17, 170, 104, 17, 151, 48]

/-- Of the texts of 64 bytes, only the known key pair is taken for one. -/
local instance knownCrates : KeypairCrates Bytes where
  bs58Decode _ := .error "provided string contained invalid character"
  vecFromJson text := okOr (readJsonBytes text.toList) "expected an array of bytes"
  keypairFromBytes bytes :=
    if bytes = knownKeypair then .ok bytes else .error "keypair bytes do not specify same pubkey"

/-- An array of the key pair, with whitespace around it and its items. -/
def spacedArray : List Char :=
  "\r\n [".toList ++
    " ,\n\t".toList.intercalate (knownKeypair.map fun byte => Nat.toDigits 10 byte.toNat) ++
    " ] \n".toList

def spacedKeyFile : String := String.ofList spacedArray

theorem readJsonBytes_spacedKeyFile :
    readJsonBytes spacedKeyFile.toList = some knownKeypair := by
  have characters : spacedKeyFile.toList = spacedArray := String.toList_ofList
  exact (congrArg readJsonBytes characters).trans (by decide +kernel)

theorem spacedKeyFile_loads_as_text : fromPrivateKeyString spacedKeyFile = .ok knownKeypair := by
  refine fromPrivateKeyString_of_fromJsonKeypair (fun text bytes read => ?_) spacedKeyFile
    knownKeypair ?_
  · exact jsonByteArray_of_read (okOr_eq_ok.mp read)
  · exact fromJsonKeypair_eq_ok.mpr
      ⟨knownKeypair, okOr_eq_ok.mpr readJsonBytes_spacedKeyFile, rfl, rfl⟩

end

end Keychain.Rust.Memory
