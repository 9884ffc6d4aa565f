import Keychain.Solana

/-!
The third-party crates the Rust signers are linked against, as a parameter of
the Rust model: serialization, encodings, hashing, signature verification, URL
and JSON handling. Each function has the type the signers use it at; an error
is the text the crate prints for it.

`FromSlice T` is `serde_json::from_slice::<T>` for a response type with a
derived `Deserialize`.

`Crates.linked` links the model against concrete functions, so that a run can be
evaluated: the encodings and the legacy wire format in full, and tables for the
digests, the JSON texts and the signatures that occur in the run.
-/

namespace Keychain.Rust

/-- A JSON number keeps the text `serde_json` prints for it. -/
structure Number where
  text : String
  deriving DecidableEq

abbrev Value := Json String Number

/-- What the signers read from a parsed `reqwest::Url`. -/
structure Url where
  asStr : String
  scheme : String
  cannotBeABase : Bool
  deriving DecidableEq

/-- What `solana_derivation_path` reads from a path under the Solana coin type. -/
structure DerivationPath where
  account : Option ℕ
  change : Option ℕ
  deriving DecidableEq

class Crates where
  /-- `VersionedMessage::serialize` -/
  serializeMessage : VersionedMessage → Bytes
  /-- `wincode::serialize` or `bincode::serialize` of a transaction -/
  serializeWire : VersionedTransaction → Except String Bytes
  /-- `wincode::deserialize` or `bincode::deserialize` of a transaction -/
  deserializeWire : Bytes → Except String VersionedTransaction
  /-- `ed25519_zebra` verification under a key that parses -/
  ed25519Verify : Signature → Pubkey → Bytes → Bool
  /-- `ed25519_dalek::SigningKey::sign`, by the seed of the key -/
  ed25519Sign : Bytes → Bytes → Signature
  /-- `p256::ecdsa::SigningKey::sign` in DER form, by the key -/
  p256SignDer : Bytes → Bytes → Bytes
  /-- `ed25519_dalek::SigningKey::from_pkcs8_pem` -/
  ed25519FromPkcs8Pem : String → Option Bytes
  /-- `p256::ecdsa::SigningKey::from_pkcs8_pem` -/
  p256FromPkcs8Pem : String → Option Bytes
  /-- `p256::SecretKey::from_sec1_pem` -/
  p256FromSec1Pem : String → Option Bytes
  /-- `rsa::RsaPrivateKey::from_pkcs8_pem` and its PKCS#1 v1.5 SHA-256 signature -/
  rsaFromPkcs8Pem : String → Option (Bytes → Bytes)
  /-- `jsonwebtoken::encode` with RS256, by the key -/
  jwtEncode : Bytes → Value → Option String
  /-- `Display` of a public key -/
  showPubkey : Pubkey → String
  sha256 : Bytes → { digest : Bytes // digest.length = 32 }
  base64Encode : Bytes → String
  base64Decode : String → Except String Bytes
  /-- `URL_SAFE_NO_PAD` -/
  base64UrlEncode : Bytes → String
  bs58Encode : Bytes → String
  bs58Decode : String → Except String Bytes
  hexEncode : Bytes → String
  hexDecode : String → Except String Bytes
  urlParse : String → Except String Url
  /-- `DerivationPath::from_absolute_path_str` -/
  derivationPath : String → Except String DerivationPath
  /-- the error a `reqwest::RequestBuilder` holds for a request it cannot form -/
  builderError : Request → Option String
  /-- `SystemTime::now().duration_since(UNIX_EPOCH)` in milliseconds -/
  unixMillis : Except String ℕ
  /-- `chrono::Utc::now()` in milliseconds, by the requests answered so far -/
  utcMillis : ℕ → Int
  /-- `Uuid::new_v4()`, by the requests answered so far -/
  uuidV4 : ℕ → String
  /-- `serde_json::from_slice::<serde_json::Value>` -/
  jsonFromSlice : Bytes → Except String Value
  /-- `serde_json::to_string` of a value built by a derived `Serialize` -/
  jsonToString : Value → Except String String
  /-- `serde_json::Value::to_string` -/
  showValue : Value → String
  /-- the text of a derived `Deserialize` error on a value -/
  fromValueError : Value → String

/-- `serde_json::from_slice::<T>`. -/
class FromSlice (T : Type) where
  fromSlice : Bytes → Except String T

export FromSlice (fromSlice)

/-! ## A concrete linking -/

def base58Decode (text : String) : Except String Bytes :=
  match text.toList.mapM base58Alphabet.idxOf? with
  | none => .error "provided string contained invalid character"
  | some digits =>
    let number := digits.foldl (fun n d => n * 58 + d) 0
    .ok (List.replicate (digits.takeWhile (· = 0)).length 0 ++
      (digitsOf 256 digits.length number).map UInt8.ofNat)

/-- The crates of a run on legacy transactions, by the digest of the one text it
hashes and the JSON bodies it parses and prints. It verifies and signs nothing. -/
@[reducible] def Crates.linked (digest : { digest : Bytes // digest.length = 32 })
    (parse : Bytes → Except String Value) (print : Value → String) : Crates where
  serializeMessage := legacyMessage
  serializeWire transaction := .ok (legacyWire transaction)
  deserializeWire _ := .error "unexpected end of file"
  ed25519Verify _ _ _ := false
  ed25519Sign _ _ := Signature.default
  p256SignDer _ _ := []
  ed25519FromPkcs8Pem _ := none
  p256FromPkcs8Pem _ := none
  p256FromSec1Pem _ := none
  rsaFromPkcs8Pem _ := none
  jwtEncode _ _ := none
  showPubkey publicKey := base58Encode publicKey.bytes
  sha256 _ := digest
  base64Encode _ := ""
  base64Decode _ := .error "Invalid symbol"
  base64UrlEncode _ := ""
  bs58Encode := base58Encode
  bs58Decode := base58Decode
  hexEncode bytes := String.ofList (bytes.flatMap hexDigits)
  hexDecode _ := .error "Invalid character"
  urlParse text := .ok ⟨text, "https", false⟩
  derivationPath text :=
    if text = "m/44'/501'/0'" then .ok ⟨some 0, none⟩ else .error "invalid derivation path"
  builderError _ := none
  unixMillis := .ok 1767225600000
  utcMillis _ := 1767225600000
  uuidV4 _ := "00000000-0000-4000-8000-000000000000"
  jsonFromSlice := parse
  jsonToString value := .ok (print value)
  showValue := print
  fromValueError _ := "invalid type"

end Keychain.Rust
