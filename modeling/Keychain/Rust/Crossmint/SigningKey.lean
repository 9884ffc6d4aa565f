import Keychain.Rust.Crossmint.Signer
import Keychain.Rust.Std

/-!
The key a Crossmint signer approves with: `derive_signing_key` and `new`.

The secret is cut into pairs of bytes, and each pair goes to `u8::from_str_radix`, which
takes a plus sign before a digit (`hexPair_byteOf`). So the secrets that are accepted are
the hexadecimal ones and those with such pairs (`keyingMaterial_isOk_iff`).
-/

namespace Keychain.Rust.Crossmint

/-- The crates of the derivation. -/
class KeyCrates where
  /-- `Hkdf::<Sha256>::new(salt, ikm)` expanded to 32 bytes for an `info` -/
  hkdfSha256 : Bytes → Bytes → Bytes → Except String Bytes
  /-- the text of a `Utf8Error` -/
  utf8Error : Bytes → String
  /-- `SigningKey::verifying_key`, by the seed of the key -/
  verifyingKey : Bytes → Bytes

structure CrossmintSignerConfig where
  apiKey : String
  walletLocator : String
  /-- `xmsk1_<64hex>` -/
  signerSecret : Option String
  signer : Option String
  apiBaseUrl : Option String
  pollIntervalMs : Option ℕ
  maxPollAttempts : Option ℕ

namespace CrossmintSigner

/-- The project id and the environment in `{ck|sk}_{environment}_{base58data}`, where the
data decodes to `projectId:nacl_signature`. -/
def parseApiKey [Crates] [KeyCrates] (apiKey : String) : Except SignerError (String × String) := do
  let parts := splitn '_' 3 apiKey.toList
  let environment ← okOr parts[1]? (.configError "Invalid API key format")
  let base58Data ← okOr parts[2]? (.configError "Invalid API key format")
  let decoded ← (Crates.bs58Decode (String.ofList base58Data)).mapError fun e =>
    .configError s!"Failed to decode API key data: {e}"
  let decodedStr ← okOr (strFromUtf8 decoded)
    (.configError s!"API key data is not valid UTF-8: {KeyCrates.utf8Error decoded}")
  -- the text before the first colon, which is all of it when there is none
  let projectId := decodedStr.toList.takeWhile (· ≠ ':')
  pure (String.ofList projectId, String.ofList environment)

def rawSecret (secret : String) : String := (stripPrefix "xmsk1_" secret).getD secret

/-- The byte of a pair, when the pair is a text that parses. -/
def hexPair (pair : UInt8 × UInt8) : Option UInt8 :=
  (strFromUtf8 [pair.1, pair.2]).bind (u8FromStrRadix 16)

/-- The HKDF input keying material of a secret. -/
def keyingMaterial (secret : String) : Except SignerError Bytes := do
  let raw := utf8 (rawSecret secret)
  require (raw.length = 64)
    (.configError s!"signer_secret must be a 64-char hex string (got {raw.length})")
  okOr ((pairs raw).mapM hexPair) (.configError "signer_secret is not valid hex")

/-- The seed of the signing key. -/
def deriveSigningKey [Crates] [KeyCrates] (secret apiKey : String) : Except SignerError Bytes := do
  let (projectId, environment) ← parseApiKey apiKey
  let ikm ← keyingMaterial secret
  let info := s!"{projectId}:{environment}:solana-ed25519"
  (KeyCrates.hkdfSha256 (utf8 "crossmint") ikm (utf8 info)).mapError fun e =>
    .configError s!"HKDF expand failed: {e}"

/-! ## Construction -/

def defaultBaseUrl : String := "https://www.crossmint.com/api"

def defaultPollIntervalMs : ℕ := 1000

def defaultMaxPollAttempts : ℕ := 60

/-- The signing key of a configuration and the locator it approves under. -/
def approvalKey [Crates] [KeyCrates] (config : CrossmintSignerConfig) :
    Except SignerError (Option Bytes × Option String) :=
  match config.signerSecret with
  | some secret => do
    let key ← deriveSigningKey secret config.apiKey
    let pubkeyB58 := Crates.bs58Encode (KeyCrates.verifyingKey key)
    pure (some key, some (config.signer.getD s!"server:{pubkeyB58}"))
  | none => pure (none, config.signer)

/-- `buildClient` is the outcome of building the HTTP client. -/
def new [Crates] [KeyCrates] (buildClient : Except SignerError Unit)
    (config : CrossmintSignerConfig) : Except SignerError CrossmintSigner := do
  require (config.apiKey ≠ "") (.configError "api_key must not be empty")
  require (config.walletLocator ≠ "") (.configError "wallet_locator must not be empty")
  let apiBaseUrl := normalizeBaseUrl (config.apiBaseUrl.getD defaultBaseUrl)
  validateHttpsUrl apiBaseUrl
  require (config.pollIntervalMs.getD defaultPollIntervalMs ≠ 0)
    (.configError "poll_interval_ms must be greater than 0")
  if positive : 0 < config.maxPollAttempts.getD defaultMaxPollAttempts then
    buildClient
    let key ← approvalKey config
    pure {
      apiKey := config.apiKey
      walletLocator := config.walletLocator
      signer := key.2
      apiBaseUrl
      publicKey := none
      maxPollAttempts := config.maxPollAttempts.getD defaultMaxPollAttempts
      signingKey := key.1
      pendingTransactionId := false
      maxPollAttempts_pos := positive }
  else
    .error (.configError "max_poll_attempts must be greater than 0")

section

variable [Crates] [KeyCrates] {buildClient : Except SignerError Unit}
  {config : CrossmintSignerConfig} {signer : CrossmintSigner}

/-- A signer that is made has an HTTPS base URL, and approves with the derived key of its
secret and with no other. -/
theorem new_eq_ok (made : new buildClient config = .ok signer) :
    (∃ parsed, Crates.urlParse signer.apiBaseUrl = .ok parsed ∧ parsed.scheme = "https") ∧
      signer.walletLocator ≠ "" ∧ signer.apiKey = config.apiKey ∧
      approvalKey config = .ok (signer.signingKey, signer.signer) := by
  obtain ⟨_, -, made⟩ := bind_eq_ok.mp made
  obtain ⟨_, located, made⟩ := bind_eq_ok.mp made
  obtain ⟨_, secure, made⟩ := bind_eq_ok.mp made
  obtain ⟨_, -, made⟩ := bind_eq_ok.mp made
  split at made
  · obtain ⟨_, -, made⟩ := bind_eq_ok.mp made
    obtain ⟨key, derived, made⟩ := bind_eq_ok.mp made
    cases made
    exact ⟨validateHttpsUrl_eq_ok.mp secure, require_eq_ok.mp located, rfl, derived⟩
  · cases made

end

/-! ## Pairs -/

section

variable {α β : Type} {f : α → Option β} {l : List α}

theorem mapM_congr_of_mem {g : α → Option β} (alike : ∀ x ∈ l, f x = g x) :
    l.mapM f = l.mapM g := by
  induction l with
  | nil => rfl
  | cons x l ih =>
    rw [List.forall_mem_cons] at alike
    rw [List.mapM_cons, List.mapM_cons, alike.1, ih alike.2]

theorem pairs_map {g : α → β} : pairs (l.map g) = (pairs l).map (Prod.map g g) := by
  induction l using pairs.induct with
  | case1 => rfl
  | case2 _ => rfl
  | case3 a b rest ih =>
    rw [List.map_cons, List.map_cons, pairs, pairs, ih]
    rfl

/-- Every member of a list of even length is in a pair. -/
theorem forall_mem_of_pairs (P : α → Prop) (even : l.length % 2 = 0)
    (both : ∀ pair ∈ pairs l, P pair.1 ∧ P pair.2) : ∀ x ∈ l, P x := by
  induction l using pairs.induct with
  | case1 => simp
  | case2 _ => simp at even
  | case3 a b rest ih =>
    rw [pairs, List.forall_mem_cons] at both
    rw [List.forall_mem_cons, List.forall_mem_cons]
    rw [List.length_cons, List.length_cons] at even
    exact ⟨both.1.1, both.1.2, ih (by omega) both.2⟩

theorem mem_of_mem_pairs {pair : α × α} (member : pair ∈ pairs l) : pair.1 ∈ l ∧ pair.2 ∈ l := by
  induction l using pairs.induct with
  | case1 => simp [pairs] at member
  | case2 _ => simp [pairs] at member
  | case3 a b rest ih =>
    rw [pairs, List.mem_cons] at member
    rcases member with rfl | later
    · simp
    · have inside := ih later
      simp [inside]

end

/-! ## What a pair denotes -/

section

variable {a b : UInt8} {c d : Char}

theorem u8FromAsciiRadix_pair : u8FromAsciiRadix 16 [a, b] =
    if a = 0x2b then (digitsFrom 16 0 [b]).map UInt8.ofNat
    else (digitsFrom 16 0 [a, b]).map UInt8.ofNat := by
  by_cases plus : a = 0x2b
  · subst plus
    rfl
  · rw [if_neg plus, u8FromAsciiRadix]
    · simp
    · simp
    · intro digits same
      exact plus (List.cons.inj same).1

theorem digitsFrom_one : digitsFrom 16 0 [b] = toDigit 16 b := by
  cases read : toDigit 16 b with
  | none => simp [digitsFrom, read]
  | some n =>
    have small := toDigit_lt read
    simp only [digitsFrom, read, Option.bind_some, Nat.zero_mul, Nat.zero_add]
    rw [if_pos (by omega)]

theorem digitsFrom_two : digitsFrom 16 0 [a, b] =
    (toDigit 16 a).bind fun high => (toDigit 16 b).map fun low => high * 16 + low := by
  cases readA : toDigit 16 a with
  | none => simp [digitsFrom, readA]
  | some high =>
    have smallA := toDigit_lt readA
    cases readB : toDigit 16 b with
    | none => simp [digitsFrom, readA, readB]
    | some low =>
      have smallB := toDigit_lt readB
      simp only [digitsFrom, readA, readB, Option.bind_some, Nat.zero_mul, Nat.zero_add,
        Option.map_some]
      rw [if_pos (by omega), if_pos (by omega)]

/-- The byte of a pair of characters. -/
def pairValue (pair : Char × Char) : Option UInt8 :=
  if !isHexDigit pair.2 then none
  else if isHexDigit pair.1 then some (UInt8.ofNat (hexValue pair.1 * 16 + hexValue pair.2))
  else if pair.1 = '+' then some (UInt8.ofNat (hexValue pair.2))
  else none

theorem hexPair_eq (ascii : a.toNat ≤ 0x7f) (ascii' : b.toNat ≤ 0x7f) :
    hexPair (a, b) = u8FromAsciiRadix 16 [a, b] := by
  obtain ⟨text, bytes⟩ := @exists_text_of_ascii [a, b] (by simp [ascii, ascii'])
  rw [hexPair, strFromUtf8_eq_some.mpr bytes, Option.bind_some, u8FromStrRadix, bytes]

theorem hexPair_byteOf (ascii : c.toNat ≤ 0x7f) (ascii' : d.toNat ≤ 0x7f) :
    hexPair (byteOf c, byteOf d) = pairValue (c, d) := by
  have plus : byteOf c = 0x2b ↔ c = '+' := byteOf_inj (d := '+') ascii (by decide)
  have signed : isHexDigit '+' = false := by decide
  have narrow := toNat_byteOf ascii
  have narrow' := toNat_byteOf ascii'
  rw [hexPair_eq (by omega) (by omega), u8FromAsciiRadix_pair, digitsFrom_one, digitsFrom_two,
    toDigit_byteOf ascii, toDigit_byteOf ascii', pairValue]
  by_cases sign : c = '+'
  · subst sign
    rw [if_pos (plus.mpr rfl), signed]
    cases isHexDigit d <;> simp
  · rw [if_neg (mt plus.mp sign)]
    cases isHexDigit c <;> cases isHexDigit d <;> simp [sign]

/-- Only ASCII bytes are digits. -/
theorem ascii_of_toDigit {n : ℕ} (read : toDigit 16 a = some n) : a.toNat ≤ 0x7f := by
  rw [toDigit, Option.filter_eq_some_iff] at read
  have found := read.1
  split_ifs at found <;> omega

theorem ascii_of_hexPair {value : UInt8} (read : hexPair (a, b) = some value) :
    a.toNat ≤ 0x7f ∧ b.toNat ≤ 0x7f := by
  rw [hexPair, Option.bind_eq_some_iff] at read
  obtain ⟨text, decoded, parsed⟩ := read
  rw [u8FromStrRadix, strFromUtf8_eq_some.mp decoded, u8FromAsciiRadix_pair, digitsFrom_one,
    digitsFrom_two] at parsed
  by_cases plus : a = 0x2b
  · rw [if_pos plus, Option.map_eq_some_iff] at parsed
    obtain ⟨n, low, -⟩ := parsed
    subst plus
    exact ⟨by decide, ascii_of_toDigit low⟩
  · rw [if_neg plus, Option.map_eq_some_iff] at parsed
    obtain ⟨n, both, -⟩ := parsed
    rw [Option.bind_eq_some_iff] at both
    obtain ⟨high, first, rest⟩ := both
    obtain ⟨low, second, -⟩ := Option.map_eq_some_iff.mp rest
    exact ⟨ascii_of_toDigit first, ascii_of_toDigit second⟩

end

/-! ## Which secrets are accepted -/

/-- What stands in a secret behind the optional prefix. -/
def secretDigits (secret : String) : List Char := (rawSecret secret).toList

/-- 64 hexadecimal digits, behind the optional prefix. -/
def HexSecret (secret : String) : Prop :=
  (secretDigits secret).length = 64 ∧ ∀ c ∈ secretDigits secret, isHexDigit c = true

/-- The bytes that hexadecimal digits denote. -/
def denotedBytes (digits : List Char) : Bytes :=
  (pairs digits).map fun pair => UInt8.ofNat (hexValue pair.1 * 16 + hexValue pair.2)

/-- 64 characters in pairs of two digits or of a plus sign and a digit, not all of them
of two digits. -/
structure Signed (secret : String) : Prop where
  length : (secretDigits secret).length = 64
  pair : ∀ pair ∈ pairs (secretDigits secret),
    (isHexDigit pair.1 = true ∨ pair.1 = '+') ∧ isHexDigit pair.2 = true
  plus : '+' ∈ secretDigits secret

section

variable {secret : String} {ikm : Bytes} {pair : Char × Char} {digits digits' : List Char}

theorem pairValue_isSome {value : UInt8} (read : pairValue pair = some value) :
    (isHexDigit pair.1 = true ∨ pair.1 = '+') ∧ isHexDigit pair.2 = true := by
  rw [pairValue] at read
  split_ifs at read with other first plus
  · simp only [Bool.not_eq_true', Bool.not_eq_false] at other
    exact ⟨.inl first, other⟩
  · simp only [Bool.not_eq_true', Bool.not_eq_false] at other
    exact ⟨.inr plus, other⟩

theorem pairValue_of_hex (first : isHexDigit pair.1 = true) (second : isHexDigit pair.2 = true) :
    pairValue pair = some (UInt8.ofNat (hexValue pair.1 * 16 + hexValue pair.2)) := by
  rw [pairValue, second, first]
  rfl

theorem mapM_hexPair_utf8 {text : String} (ascii : ∀ c ∈ text.toList, c.toNat ≤ 0x7f) :
    (pairs (utf8 text)).mapM hexPair = (pairs text.toList).mapM pairValue := by
  rw [utf8_of_ascii ascii, pairs_map, List.mapM_map]
  apply mapM_congr_of_mem
  intro pair member
  have inside := mem_of_mem_pairs member
  exact hexPair_byteOf (ascii _ inside.1) (ascii _ inside.2)

/-- The keying material, in terms of characters. -/
theorem keyingMaterial_eq_ok :
    keyingMaterial secret = .ok ikm ↔
      (secretDigits secret).length = 64 ∧
        (pairs (secretDigits secret)).mapM pairValue = some ikm := by
  have bytes : keyingMaterial secret = .ok ikm ↔ (utf8 (rawSecret secret)).length = 64 ∧
      (pairs (utf8 (rawSecret secret))).mapM hexPair = some ikm := by
    rw [keyingMaterial, bind_eq_ok]
    simp only [require_eq_ok, okOr_eq_ok, exists_const]
  rw [bytes, secretDigits]
  constructor
  · intro given
    obtain ⟨length, read⟩ := given
    have ascii : ∀ byte ∈ utf8 (rawSecret secret), byte.toNat ≤ 0x7f := by
      refine forall_mem_of_pairs (fun byte : UInt8 => byte.toNat ≤ 0x7f) (by omega) ?_
      intro pair member
      obtain ⟨value, read⟩ := exists_of_mapM_eq_some read pair member
      exact ascii_of_hexPair read
    have narrow := ascii_of_utf8 ascii
    rw [mapM_hexPair_utf8 narrow] at read
    rw [utf8_of_ascii narrow, List.length_map] at length
    exact ⟨length, read⟩
  · intro given
    obtain ⟨length, read⟩ := given
    have narrow : ∀ c ∈ (rawSecret secret).toList, c.toNat ≤ 0x7f := by
      refine forall_mem_of_pairs (fun c : Char => c.toNat ≤ 0x7f) (by omega) ?_
      intro pair member
      obtain ⟨value, read⟩ := exists_of_mapM_eq_some read pair member
      obtain ⟨first, second⟩ := pairValue_isSome read
      refine ⟨?_, ascii_of_isHexDigit second⟩
      rcases first with hex | plus
      · exact ascii_of_isHexDigit hex
      · rw [plus]
        decide
    rw [mapM_hexPair_utf8 narrow, utf8_of_ascii narrow, List.length_map]
    exact ⟨length, read⟩

/-- A hexadecimal secret stands for the bytes it denotes. -/
theorem keyingMaterial_of_hexSecret (hex : HexSecret secret) :
    keyingMaterial secret = .ok (denotedBytes (secretDigits secret)) := by
  refine keyingMaterial_eq_ok.mpr ⟨hex.1, Json.mapM_some ?_⟩
  intro pair member
  have inside := mem_of_mem_pairs member
  exact pairValue_of_hex (hex.2 _ inside.1) (hex.2 _ inside.2)

/-- The accepted secrets. -/
theorem keyingMaterial_isOk_iff :
    (∃ ikm, keyingMaterial secret = .ok ikm) ↔ HexSecret secret ∨ Signed secret := by
  constructor
  · intro accepted
    obtain ⟨ikm, accepted⟩ := accepted
    obtain ⟨length, read⟩ := keyingMaterial_eq_ok.mp accepted
    have shape : ∀ pair ∈ pairs (secretDigits secret),
        (isHexDigit pair.1 = true ∨ pair.1 = '+') ∧ isHexDigit pair.2 = true := by
      intro pair member
      obtain ⟨value, read⟩ := exists_of_mapM_eq_some read pair member
      exact pairValue_isSome read
    by_cases plus : '+' ∈ secretDigits secret
    · exact .inr ⟨length, shape, plus⟩
    · refine .inl ⟨length, ?_⟩
      refine forall_mem_of_pairs (fun c => isHexDigit c = true) (by omega) ?_
      intro pair member
      refine ⟨(shape pair member).1.resolve_right fun sign => plus ?_, (shape pair member).2⟩
      exact sign ▸ (mem_of_mem_pairs member).1
  · intro shape
    rcases shape with hex | signed
    · exact ⟨_, keyingMaterial_of_hexSecret hex⟩
    · refine ⟨_, keyingMaterial_eq_ok.mpr ⟨signed.length,
        Json.mapM_some (g := fun pair => (pairValue pair).getD 0) ?_⟩⟩
      intro pair member
      obtain ⟨first, second⟩ := signed.pair pair member
      rcases first with hex | plus
      · rw [pairValue_of_hex hex second, Option.getD_some]
      · have signs : isHexDigit '+' = false := by decide
        simp [pairValue, second, plus, signs]

/-- Hexadecimal digits that denote the same bytes differ in their case at most. -/
theorem toLower_eq_of_denotedBytes_eq (hex : ∀ c ∈ digits, isHexDigit c = true)
    (hex' : ∀ c ∈ digits', isHexDigit c = true) (length : digits.length = digits'.length)
    (even : digits.length % 2 = 0) (same : denotedBytes digits = denotedBytes digits') :
    digits.map Char.toLower = digits'.map Char.toLower := by
  induction digits using pairs.induct generalizing digits' with
  | case1 => rw [List.eq_nil_of_length_eq_zero length.symm]
  | case2 _ => simp at even
  | case3 a b rest ih =>
    match digits' with
    | [] => cases length
    | [_] => simp at length
    | a' :: b' :: rest' =>
      simp only [List.forall_mem_cons] at hex hex'
      simp only [List.length_cons, Nat.add_right_cancel_iff] at length even
      simp only [denotedBytes, pairs, List.map_cons, List.cons.injEq] at same
      have high := hexValue_lt hex.1
      have low := hexValue_lt hex.2.1
      have high' := hexValue_lt hex'.1
      have low' := hexValue_lt hex'.2.1
      have values := congrArg UInt8.toNat same.1
      rw [UInt8.toNat_ofNat', UInt8.toNat_ofNat'] at values
      have first := toLower_eq_of_hexValue_eq hex.1 hex'.1 (by omega)
      have second := toLower_eq_of_hexValue_eq hex.2.1 hex'.2.1 (by omega)
      have others := ih hex.2.2 hex'.2.2 length (by omega) same.2
      simp only [List.map_cons, first, second, others]

end

/-! ## The grammar of secrets -/

section

variable [Crates] [KeyCrates]

/-- The secrets are the same up to letter case and the optional prefix. -/
def SameSecret (secret secret' : String) : Prop :=
  (secretDigits secret).map Char.toLower = (secretDigits secret').map Char.toLower

/-- Under this API key the secret is accepted exactly when it is hexadecimal, and HKDF is
given the 32 bytes it denotes. -/
structure FollowsGrammar (apiKey secret : String) : Prop where
  accepted : (∃ seed, deriveSigningKey secret apiKey = .ok seed) ↔ HexSecret secret
  denoted : HexSecret secret → (denotedBytes (secretDigits secret)).length = 32 ∧
    keyingMaterial secret = .ok (denotedBytes (secretDigits secret))
  derived : ∀ seed, deriveSigningKey secret apiKey = .ok seed → ∃ info,
    KeyCrates.hkdfSha256 (utf8 "crossmint") (denotedBytes (secretDigits secret)) info = .ok seed

/-- If both secrets are accepted with one keying material, they are the same. -/
def Distinguishes (apiKey secret secret' : String) : Prop :=
  (∃ seed, deriveSigningKey secret apiKey = .ok seed) →
    (∃ seed, deriveSigningKey secret' apiKey = .ok seed) →
      keyingMaterial secret = keyingMaterial secret' → SameSecret secret secret'

variable {apiKey secret secret' : String} {parts : String × String}

theorem deriveSigningKey_eq_ok (wellFormed : parseApiKey apiKey = .ok parts) {seed : Bytes} :
    deriveSigningKey secret apiKey = .ok seed ↔ ∃ ikm, keyingMaterial secret = .ok ikm ∧
      KeyCrates.hkdfSha256 (utf8 "crossmint") ikm
        (utf8 s!"{parts.1}:{parts.2}:solana-ed25519") = .ok seed := by
  obtain ⟨projectId, environment⟩ := parts
  rw [deriveSigningKey, wellFormed]
  change (keyingMaterial secret >>= _) = _ ↔ _
  rw [bind_eq_ok]
  simp only [mapError_eq_ok]

theorem deriveSigningKey_isOk_iff
    (expands : ∀ salt ikm info, ∃ seed, KeyCrates.hkdfSha256 salt ikm info = .ok seed)
    (wellFormed : parseApiKey apiKey = .ok parts) :
    (∃ seed, deriveSigningKey secret apiKey = .ok seed) ↔ HexSecret secret ∨ Signed secret := by
  rw [← keyingMaterial_isOk_iff]
  simp only [deriveSigningKey_eq_ok wellFormed]
  constructor
  · intro derived
    obtain ⟨_, ikm, material, -⟩ := derived
    exact ⟨ikm, material⟩
  · intro accepted
    obtain ⟨ikm, material⟩ := accepted
    obtain ⟨seed, expanded⟩ := expands (utf8 "crossmint") ikm
      (utf8 s!"{parts.1}:{parts.2}:solana-ed25519")
    exact ⟨seed, ikm, material, expanded⟩

omit [Crates] [KeyCrates] in
theorem not_hexSecret_of_signed (signed : Signed secret) : ¬ HexSecret secret := by
  intro hex
  have sign := hex.2 '+' signed.plus
  exact absurd sign (by decide)

omit [Crates] [KeyCrates] in
theorem length_denotedBytes {digits : List Char} :
    (denotedBytes digits).length = digits.length / 2 := by
  rw [denotedBytes, List.length_map]
  induction digits using pairs.induct with
  | case1 => rfl
  | case2 _ => simp [pairs]
  | case3 a b rest ih =>
    rw [pairs, List.length_cons, ih, List.length_cons, List.length_cons]
    omega

/-- A secret without signs follows the grammar. -/
theorem followsGrammar_of_not_signed
    (expands : ∀ salt ikm info, ∃ seed, KeyCrates.hkdfSha256 salt ikm info = .ok seed)
    (wellFormed : parseApiKey apiKey = .ok parts) (plain : ¬ Signed secret) :
    FollowsGrammar apiKey secret where
  accepted := by
    rw [deriveSigningKey_isOk_iff expands wellFormed]
    exact or_iff_left plain
  denoted := by
    intro hex
    rw [length_denotedBytes, hex.1]
    exact ⟨rfl, keyingMaterial_of_hexSecret hex⟩
  derived := by
    intro seed derived
    obtain ⟨ikm, material, expanded⟩ := (deriveSigningKey_eq_ok wellFormed).mp derived
    have hex := (keyingMaterial_isOk_iff.mp ⟨ikm, material⟩).resolve_right plain
    rw [keyingMaterial_of_hexSecret hex, Except.ok.injEq] at material
    subst material
    exact ⟨_, expanded⟩

/-- The grammar holds of two secrets and keeps them apart exactly when neither has a plus
sign before a digit. -/
theorem deriveSigningKey_grammar_iff
    (expands : ∀ salt ikm info, ∃ seed, KeyCrates.hkdfSha256 salt ikm info = .ok seed)
    (apiKey : String) {parts : String × String} (wellFormed : parseApiKey apiKey = .ok parts)
    (secret secret' : String) :
    FollowsGrammar apiKey secret ∧ FollowsGrammar apiKey secret' ∧
        Distinguishes apiKey secret secret' ↔
      ¬ Signed secret ∧ ¬ Signed secret' := by
  constructor
  · intro follows
    obtain ⟨first, second, -⟩ := follows
    refine ⟨fun signed => ?_, fun signed => ?_⟩
    · have accepted := (deriveSigningKey_isOk_iff expands wellFormed).mpr (.inr signed)
      exact not_hexSecret_of_signed signed (first.accepted.mp accepted)
    · have accepted := (deriveSigningKey_isOk_iff expands wellFormed).mpr (.inr signed)
      exact not_hexSecret_of_signed signed (second.accepted.mp accepted)
  · intro plain
    have first := followsGrammar_of_not_signed expands wellFormed plain.1
    have second := followsGrammar_of_not_signed expands wellFormed plain.2
    refine ⟨first, second, fun accepted accepted' same => ?_⟩
    have hex := first.accepted.mp accepted
    have hex' := second.accepted.mp accepted'
    rw [(first.denoted hex).2, (second.denoted hex').2, Except.ok.injEq] at same
    have even : (secretDigits secret).length % 2 = 0 := by rw [hex.1]
    exact toLower_eq_of_denotedBytes_eq hex.2 hex'.2 (hex.1.trans hex'.1.symm) even same

/-- A signer that is made from a secret approves with the key derived from it, and the secret
is hexadecimal or has a sign. -/
theorem new_approves {buildClient : Except SignerError Unit} {config : CrossmintSignerConfig}
    {signer : CrossmintSigner} (made : new buildClient config = .ok signer)
    (given : config.signerSecret = some secret) :
    (HexSecret secret ∨ Signed secret) ∧ ∃ seed,
      deriveSigningKey secret config.apiKey = .ok seed ∧ signer.signingKey = some seed ∧
        signer.signer = some (config.signer.getD
          s!"server:{Crates.bs58Encode (KeyCrates.verifyingKey seed)}") := by
  obtain ⟨-, -, -, approves⟩ := new_eq_ok made
  rw [approvalKey, given] at approves
  obtain ⟨seed, derived, same⟩ := bind_eq_ok.mp approves
  obtain ⟨key, locator⟩ := Prod.mk.inj (Except.ok.inj same)
  refine ⟨?_, seed, derived, key.symm, locator.symm⟩
  obtain ⟨parts, wellFormed, -⟩ := bind_eq_ok.mp derived
  obtain ⟨ikm, material, -⟩ := (deriveSigningKey_eq_ok wellFormed).mp derived
  exact keyingMaterial_isOk_iff.mp ⟨ikm, material⟩

end

/-! ## A secret with plus signs -/

section

/-- HKDF of the salt `crossmint`, 32 bytes `0x0a` and `p:staging:solana-ed25519`. -/
def expandedSeed : Bytes :=
  [162, 83, 200, 99, 40, 129, 254, 18, 18, 172, 255, 17, 216, 50, 148, 158, 53, 122, 54, 61, 109,
    221, 19, 128, 105, 84, 198, 114, 116, 117, 24, 83]

local instance derivationCrates : Crates :=
  .linked emptyDigest (fun _ => .error "expected value") fun _ => ""

local instance derivationKeyCrates : KeyCrates where
  hkdfSha256 _ _ _ := .ok expandedSeed
  utf8Error _ := "invalid utf-8 sequence"
  verifyingKey seed := seed

/-- The data is `p:s`. -/
def stagingApiKey : String := "sk_staging_ehPG"

/-- A pair of characters, 32 times. -/
def pairSecret (pair : String) : String :=
  String.ofList (List.replicate 32 pair.toList).flatten

theorem stagingApiKey_wellFormed : parseApiKey stagingApiKey = .ok ("p", "staging") := by
  decide +kernel

theorem not_signed_of_pair_0a : ¬ Signed (pairSecret "0a") := by
  intro signed
  exact absurd signed.plus (by decide +kernel)

/-- Letter case and prefix make no difference. -/
theorem deriveSigningKey_grammar_of_prefixed :
    FollowsGrammar stagingApiKey (pairSecret "0a") ∧
      FollowsGrammar stagingApiKey ("xmsk1_" ++ pairSecret "0A") ∧
      Distinguishes stagingApiKey (pairSecret "0a") ("xmsk1_" ++ pairSecret "0A") := by
  have expands : ∀ salt ikm info, ∃ seed, KeyCrates.hkdfSha256 salt ikm info = .ok seed :=
    fun _ _ _ => ⟨expandedSeed, rfl⟩
  refine (deriveSigningKey_grammar_iff expands stagingApiKey stagingApiKey_wellFormed _ _).mpr
    ⟨not_signed_of_pair_0a, fun signed => ?_⟩
  exact absurd signed.plus (by decide +kernel)

theorem signed_of_pair_plus_a : Signed (pairSecret "+a") where
  length := by decide +kernel
  pair := by decide +kernel
  plus := by decide +kernel

/-- A plus sign is taken for a zero: two secrets for one key. -/
theorem deriveSigningKey_accepts_signs :
    deriveSigningKey (pairSecret "+a") stagingApiKey = .ok expandedSeed ∧
      ¬ HexSecret (pairSecret "+a") ∧
      keyingMaterial (pairSecret "+a") = keyingMaterial (pairSecret "0a") ∧
      ¬ SameSecret (pairSecret "+a") (pairSecret "0a") ∧
      ¬ FollowsGrammar stagingApiKey (pairSecret "+a") ∧
      ¬ Distinguishes stagingApiKey (pairSecret "+a") (pairSecret "0a") := by
  have derived : deriveSigningKey (pairSecret "+a") stagingApiKey = .ok expandedSeed := by
    decide +kernel
  have derived' : deriveSigningKey (pairSecret "0a") stagingApiKey = .ok expandedSeed := by
    decide +kernel
  have other := not_hexSecret_of_signed signed_of_pair_plus_a
  have same : keyingMaterial (pairSecret "+a") = keyingMaterial (pairSecret "0a") := by
    decide +kernel
  have apart : ¬ SameSecret (pairSecret "+a") (pairSecret "0a") := by
    rw [SameSecret]
    decide +kernel
  exact ⟨derived, other, same, apart, fun follows => other (follows.accepted.mp ⟨_, derived⟩),
    fun distinguishes => apart (distinguishes ⟨_, derived⟩ ⟨_, derived'⟩ same)⟩

end

end CrossmintSigner

end Keychain.Rust.Crossmint
