import Keychain.Go.Errors

/-!
The packages the Go signers are linked against, as a parameter of the Go model:
the Solana SDK, the cryptography, the encodings and the JSON and URL handling.
An error is the text the package prints for it.

`Unmarshal T` is `json.Unmarshal` into a value of type `T`.
-/

namespace Keychain.Go

/-- A value handed to `json.Marshal`; a number is its literal. -/
abbrev Value := Json String String

/-- What the signers read from a parsed `url.URL`. -/
structure URL where
  isAbs : Bool
  opaquePart : String
  host : String
  deriving DecidableEq

class Packages where
  /-- `Message.MarshalBinary` -/
  marshalMessage : VersionedMessage → Except String Bytes
  /-- `Transaction.MarshalBinary` -/
  marshalTransaction : VersionedTransaction → Except String Bytes
  /-- `solana.TransactionFromBytes` -/
  transactionFromBytes : Bytes → Except String VersionedTransaction
  /-- `PublicKey.String` -/
  showPubkey : Pubkey → String
  /-- `VerifyWithOptions` under the ZIP-215 rules -/
  verifyEd25519 : Pubkey → Bytes → Signature → Bool
  /-- `ed25519.Sign`, by the private key -/
  ed25519Sign : Bytes → Bytes → Bytes
  sha256 : Bytes → { digest : Bytes // digest.length = 32 }
  /-- `base64.StdEncoding` -/
  base64Encode : Bytes → String
  base64Decode : String → Except String Bytes
  base58Encode : Bytes → String
  base58Decode : String → Except String Bytes
  urlParse : String → Except String URL
  /-- the error of `http.NewRequestWithContext` for a request it cannot form -/
  newRequestError : Request → Option String
  /-- the `*SignerError` that the HTTPS-only transport or the redirect guard
  raised inside the client, for this transport failure -/
  clientError : String → Option SignerError
  /-- `time.Now().UnixMilli()` -/
  unixMilli : Int
  /-- `json.Marshal` -/
  marshal : Value → Except String String
  /-- `json.Compact` -/
  compact : Bytes → Except String Bytes
  /-- `bytes.TrimSpace` -/
  bytesTrimSpace : Bytes → Bytes

/-- `json.Unmarshal` into a `T`. -/
class Unmarshal (T : Type) where
  unmarshal : Bytes → Except String T

export Unmarshal (unmarshal)

/-- The packages of a run that creates one small legacy transaction, by the digest it
takes and the create it marshals. It verifies and signs nothing. -/
@[reducible] def Packages.linked (digest : { digest : Bytes // digest.length = 32 })
    (create : String) : Packages where
  marshalMessage message := .ok (legacyMessage message)
  marshalTransaction transaction := .ok (legacyWire transaction)
  transactionFromBytes _ := .error "unexpected EOF"
  showPubkey publicKey := Keychain.base58Encode publicKey.bytes
  verifyEd25519 _ _ _ := false
  ed25519Sign _ _ := []
  sha256 _ := digest
  base64Encode _ := ""
  base64Decode _ := .error "illegal base64 data at input byte 0"
  base58Encode := Keychain.base58Encode
  base58Decode _ := .error "invalid base58 digit"
  urlParse _ := .ok ⟨true, "", "www.crossmint.com"⟩
  newRequestError _ := none
  clientError _ := none
  unixMilli := 1767225600000
  marshal _ := .ok create
  compact body := .ok body
  bytesTrimSpace body := body

end Keychain.Go
