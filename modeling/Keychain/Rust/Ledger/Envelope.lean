import Keychain.Rust.Error

/-!
`ledger_offchain_envelope` of `ledger/mod.rs`: the bytes a Ledger signs for an off-chain
message, and a reader of the layout the device parses.

The reader is written from the layout in the function's documentation and accepts any
number of signers. The envelope has to be rebuilt to verify a signature over it, so what
matters is that the two agree on every payload: `parseOffchain_ledgerOffchainEnvelope`.
-/

namespace Keychain.Rust.Ledger

/-! ## The envelope -/

/-- `solana_offchain_message::OffchainMessage::SIGNING_DOMAIN`. -/
def signingDomain : Bytes := 0xff :: utf8 "solana offchain"

def offchainHeaderLenOneSigner : ℕ := 16 + 1 + 32 + 1 + 1 + 32 + 2

def maxOffchainPayloadLen : ℕ := 1215 - offchainHeaderLenOneSigner

/-- `std::str::from_utf8(bytes).is_ok()`. -/
def isUtf8 (bytes : Bytes) : Bool := (ByteArray.mk bytes.toArray).validateUTF8

/-- `(0x20..=0x7e).contains(&byte)`. -/
def isPrintable (byte : UInt8) : Bool := 0x20 ≤ byte && byte ≤ 0x7e

/-- 0 for RestrictedAscii, 1 for LimitedUtf8. -/
def offchainFormat (payload : Bytes) : Except SignerError UInt8 :=
  if payload.all isPrintable then
    .ok 0
  else if isUtf8 payload then
    .ok 1
  else
    .error (.configError
      "off-chain message payload is not valid UTF-8; a Ledger will not sign it")

/-- `(n as u16).to_le_bytes()`. -/
def u16LittleEndian (n : ℕ) : Bytes :=
  [UInt8.ofNat (n % 65536 % 256), UInt8.ofNat (n % 65536 / 256)]

def envelopeBytes (signer : Pubkey) (format : UInt8) (payload : Bytes) : Bytes :=
  signingDomain ++ [0] ++ List.replicate 32 0 ++ [format] ++ [1] ++ signer.bytes ++
    u16LittleEndian payload.length ++ payload

def ledgerOffchainEnvelope (signer : Pubkey) (payload : Bytes) : Except SignerError Bytes := do
  if payload = [] then
    throw (.configError "off-chain message payload is empty; a Ledger will not sign it")
  if maxOffchainPayloadLen < payload.length then
    throw (.configError
      s!"off-chain message payload is {payload.length} bytes; a Ledger accepts at most {maxOffchainPayloadLen}")
  let format ← offchainFormat payload
  return envelopeBytes signer format payload

/-! ## The documented layout -/

structure OffchainMessage where
  version : UInt8
  applicationDomain : Bytes
  format : UInt8
  signers : List Pubkey
  length : ℕ
  message : Bytes
  /-- What follows the message. -/
  trailing : Bytes
  deriving DecidableEq

/-- The next field of this many bytes, and what follows it. -/
def readField (n : ℕ) (bytes : Bytes) : Option (Bytes × Bytes) :=
  if n ≤ bytes.length then some (bytes.take n, bytes.drop n) else none

def readByte : Bytes → Option (UInt8 × Bytes)
  | [] => none
  | byte :: rest => some (byte, rest)

def readSigners : ℕ → Bytes → Option (List Pubkey × Bytes)
  | 0, bytes => some ([], bytes)
  | count + 1, bytes => do
    let (signer, rest) ← readField 32 bytes
    let (signers, rest) ← readSigners count rest
    if size : signer.length = 32 then some (⟨signer, size⟩ :: signers, rest) else none

/-- Read the v0 layout: signing domain (16), version (1), application domain (32),
format (1), signer count (1), signers (32 each), length (2, little-endian), message. -/
def parseOffchain (bytes : Bytes) : Option OffchainMessage := do
  let (domain, rest) ← readField 16 bytes
  let (version, rest) ← readByte rest
  if domain = signingDomain ∧ version = 0 then
    let (applicationDomain, rest) ← readField 32 rest
    let (format, rest) ← readByte rest
    let (count, rest) ← readByte rest
    let (signers, rest) ← readSigners count.toNat rest
    let (low, rest) ← readByte rest
    let (high, rest) ← readByte rest
    let length := low.toNat + high.toNat * 256
    let (message, trailing) ← readField length rest
    some { version, applicationDomain, format, signers, length, message, trailing }
  else
    none

section

variable {signer : Pubkey} {payload : Bytes} {format : UInt8}

@[simp] theorem readField_append {n : ℕ} {field rest : Bytes} (size : field.length = n) :
    readField n (field ++ rest) = some (field, rest) := by
  subst size
  simp [readField]

@[simp] theorem readByte_cons {byte : UInt8} {rest : Bytes} :
    readByte (byte :: rest) = some (byte, rest) := rfl

theorem readSigners_one {rest : Bytes} :
    readSigners 1 (signer.bytes ++ rest) = some ([signer], rest) := by
  simp [readSigners, readField_append signer.size, signer.size]

theorem u16LittleEndian_toNat {n : ℕ} (small : n < 65536) :
    (UInt8.ofNat (n % 65536 % 256)).toNat + (UInt8.ofNat (n % 65536 / 256)).toNat * 256 = n := by
  have low : (UInt8.ofNat (n % 65536 % 256)).toNat = n % 256 := by
    rw [UInt8.toNat_ofNat', Nat.mod_eq_of_lt (by omega)]
    omega
  have high : (UInt8.ofNat (n % 65536 / 256)).toNat = n / 256 := by
    rw [UInt8.toNat_ofNat', Nat.mod_eq_of_lt (by omega), Nat.mod_eq_of_lt small]
  rw [low, high]
  omega

/-- The reader recovers what the envelope was built from. -/
theorem parseOffchain_envelopeBytes (short : payload.length < 65536) :
    parseOffchain (envelopeBytes signer format payload) =
      some {
        version := 0
        applicationDomain := List.replicate 32 0
        format
        signers := [signer]
        length := payload.length
        message := payload
        trailing := [] } := by
  have domain : signingDomain.length = 16 := by decide
  have zeros : (List.replicate 32 (0 : UInt8)).length = 32 := List.length_replicate
  have whole : readField payload.length payload = some (payload, []) := by
    simp [readField]
  simp only [parseOffchain, envelopeBytes, List.append_assoc, List.cons_append, List.nil_append,
    readField_append domain, readField_append zeros, readByte_cons, Option.bind_eq_bind,
    Option.bind_some, and_self, if_true, u16LittleEndian]
  rw [show (1 : UInt8).toNat = 1 from rfl, readSigners_one]
  simp only [Option.bind_some, readByte_cons, u16LittleEndian_toNat short, whole]

theorem length_envelopeBytes :
    (envelopeBytes signer format payload).length =
      offchainHeaderLenOneSigner + payload.length := by
  have domain : signingDomain.length = 16 := by decide
  simp only [envelopeBytes, u16LittleEndian, List.length_append, List.length_cons,
    List.length_nil, List.length_replicate, domain, signer.size, offchainHeaderLenOneSigner]

/-! ## Which payloads are taken -/

theorem isUtf8_iff : isUtf8 payload = true ↔ ∃ text, utf8 text = payload := by
  rw [isUtf8, ByteArray.validateUTF8_eq_true_iff]
  constructor
  · intro valid
    exact ⟨String.ofByteArray _ valid, by simp [utf8]⟩
  · intro given
    obtain ⟨text, rfl⟩ := given
    have same : ByteArray.mk (utf8 text).toArray = text.toByteArray := by
      simp [utf8]
    rw [same]
    exact text.isValidUTF8

/-- A printable byte is a character of its own. -/
theorem utf8EncodeChar_of_isPrintable {byte : UInt8} (printable : isPrintable byte = true) :
    String.utf8EncodeChar (Char.ofNat byte.toNat) = [byte] := by
  simp only [isPrintable, Bool.and_eq_true, decide_eq_true_eq] at printable
  have ascii : byte.toNat ≤ 0x7e := UInt8.le_iff_toNat_le.mp printable.2
  have value := toNat_ofNat_byte byte
  rw [utf8EncodeChar_of_ascii (by omega), value, Nat.toUInt8_eq, UInt8.ofNat_toNat]

theorem exists_text_of_isPrintable (printable : payload.all isPrintable = true) :
    ∃ text, utf8 text = payload := by
  refine ⟨String.ofList (payload.map fun byte => Char.ofNat byte.toNat), ?_⟩
  rw [utf8_eq_flatMap, String.toList_ofList]
  induction payload with
  | nil => rfl
  | cons byte rest ih =>
    rw [List.all_cons, Bool.and_eq_true] at printable
    rw [List.map_cons, List.flatMap_cons, utf8EncodeChar_of_isPrintable printable.1,
      ih printable.2]
    rfl

/-- The format is 0 for printable text and 1 for any other text. -/
theorem offchainFormat_eq_ok :
    offchainFormat payload = .ok format ↔ (∃ text, utf8 text = payload) ∧
      format = if payload.all isPrintable then 0 else 1 := by
  unfold offchainFormat
  by_cases printable : payload.all isPrintable = true
  · rw [if_pos printable, if_pos printable, Except.ok.injEq, eq_comm]
    exact (and_iff_right (exists_text_of_isPrintable printable)).symm
  · rw [if_neg printable, if_neg printable, ← isUtf8_iff]
    cases isUtf8 payload <;> simp [eq_comm]

theorem all_isPrintable_iff :
    payload.all isPrintable = true ↔ ∀ byte ∈ payload, 0x20 ≤ byte ∧ byte ≤ 0x7e := by
  simp [isPrintable]

theorem ledgerOffchainEnvelope_eq_ok {envelope : Bytes} :
    ledgerOffchainEnvelope signer payload = .ok envelope ↔
      (payload ≠ [] ∧ payload.length ≤ 1130 ∧ ∃ text, utf8 text = payload) ∧
      envelope =
        envelopeBytes signer (if payload.all isPrintable then 0 else 1) payload := by
  have limit : maxOffchainPayloadLen = 1130 := rfl
  unfold ledgerOffchainEnvelope
  by_cases empty : payload = []
  · simp [empty, throw, throwThe, MonadExceptOf.throw, bind, Except.bind]
  · by_cases long : maxOffchainPayloadLen < payload.length
    · have not_short : ¬ payload.length ≤ 1130 := by omega
      simp [empty, long, not_short, throw, throwThe, MonadExceptOf.throw, bind, Except.bind]
    · have short : payload.length ≤ 1130 := by omega
      rw [if_neg empty, if_neg long]
      constructor
      · intro built
        cases formatted : offchainFormat payload with
        | error e =>
          rw [formatted] at built
          cases built
        | ok format =>
          obtain ⟨text, rfl⟩ := offchainFormat_eq_ok.mp formatted
          rw [formatted] at built
          cases built
          exact ⟨⟨empty, short, text⟩, rfl⟩
      · intro given
        obtain ⟨⟨-, -, text⟩, rfl⟩ := given
        rw [offchainFormat_eq_ok.mpr ⟨text, rfl⟩]
        rfl

end

/-- An envelope exists for the nonempty texts of at most 1130 bytes; the reader recovers
from it everything that went in, so that it determines signer and payload. -/
theorem offchain_envelope_round_trip :
    (∀ signer payload, (∃ envelope, ledgerOffchainEnvelope signer payload = .ok envelope) ↔
      payload ≠ [] ∧ payload.length ≤ 1130 ∧ ∃ text, utf8 text = payload) ∧
    (∀ signer payload envelope, ledgerOffchainEnvelope signer payload = .ok envelope →
      envelope.length ≤ 1215 ∧
      ∃ format, (format = 0 ↔ ∀ byte ∈ payload, 0x20 ≤ byte ∧ byte ≤ 0x7e) ∧
        parseOffchain envelope = some {
          version := 0
          applicationDomain := List.replicate 32 0
          format
          signers := [signer]
          length := payload.length
          message := payload
          trailing := [] }) ∧
    (∀ signer payload signer' payload' envelope,
      ledgerOffchainEnvelope signer payload = .ok envelope →
      ledgerOffchainEnvelope signer' payload' = .ok envelope →
      signer = signer' ∧ payload = payload') := by
  refine ⟨?_, ?_, ?_⟩
  · intro signer payload
    simp only [ledgerOffchainEnvelope_eq_ok, exists_and_left, exists_eq, and_true]
  · intro signer payload envelope built
    obtain ⟨⟨-, short, -⟩, rfl⟩ := ledgerOffchainEnvelope_eq_ok.mp built
    refine ⟨?_, _, ?_, parseOffchain_envelopeBytes (by omega)⟩
    · rw [length_envelopeBytes, offchainHeaderLenOneSigner]
      omega
    · rw [← all_isPrintable_iff]
      cases payload.all isPrintable <;> decide
  · intro signer payload signer' payload' envelope built built'
    obtain ⟨⟨-, short, -⟩, rfl⟩ := ledgerOffchainEnvelope_eq_ok.mp built
    obtain ⟨⟨-, short', -⟩, same⟩ := ledgerOffchainEnvelope_eq_ok.mp built'
    have parsed := congrArg parseOffchain same
    rw [parseOffchain_envelopeBytes (by omega), parseOffchain_envelopeBytes (by omega)] at parsed
    simp only [Option.some.injEq, OffchainMessage.mk.injEq, List.cons.injEq, and_true,
      true_and] at parsed
    exact ⟨parsed.2.1, parsed.2.2.2⟩

/-- A text that is not printable ASCII. -/
theorem offchain_envelope_round_trip_cafe :
    let signer : Pubkey := ⟨List.replicate 32 7, by decide⟩
    let payload := utf8 "café"
    ∃ envelope, ledgerOffchainEnvelope signer payload = .ok envelope ∧
      envelope.length ≤ 1215 ∧
      (∃ format, format ≠ 0 ∧ (parseOffchain envelope).map (·.format) = some format ∧
        (parseOffchain envelope).map (·.message) = some payload) ∧
      ∀ signer' payload', ledgerOffchainEnvelope signer' payload' = .ok envelope →
        signer' = signer ∧ payload' = payload := by
  intro signer payload
  have taken : payload ≠ [] ∧ payload.length ≤ 1130 ∧ ∃ text, utf8 text = payload :=
    ⟨by decide +kernel, by decide +kernel, _, rfl⟩
  obtain ⟨envelope, built⟩ := (offchain_envelope_round_trip.1 signer payload).mpr taken
  obtain ⟨short, format, printable, parsed⟩ :=
    offchain_envelope_round_trip.2.1 signer payload envelope built
  refine ⟨envelope, built, short, ⟨format, ?_, by rw [parsed]; rfl, by rw [parsed]; rfl⟩, ?_⟩
  · intro zero
    exact absurd (printable.mp zero) (by decide +kernel)
  · intro signer' payload' built'
    exact offchain_envelope_round_trip.2.2 signer' payload' signer payload envelope built' built

end Keychain.Rust.Ledger
