import Keychain.Wire

/-!
The Solana values the signers handle: keys, signatures and transactions.

A message keeps the parts the signers read (its version, its header, its static
account keys) and carries the rest, the blockhash and the instructions, as the
bytes they are on the wire. How a message or a transaction becomes bytes is the
Solana SDK's business and is a parameter of the modules that need it.
-/

namespace Keychain

/-- An Ed25519 signature. -/
structure Signature where
  bytes : Bytes
  size : bytes.length = 64
  deriving DecidableEq

namespace Signature

/-- `Signature::default()`, the placeholder of an empty slot. -/
def default : Signature := ⟨List.replicate 64 0, by simp⟩

/-- The signature made of these bytes, when there are 64 of them. -/
def ofBytes? (bytes : Bytes) : Option Signature :=
  if size : bytes.length = 64 then some ⟨bytes, size⟩ else none

theorem ofBytes?_eq_some {bytes : Bytes} {signature : Signature} :
    ofBytes? bytes = some signature ↔ signature.bytes = bytes := by
  unfold ofBytes?
  split
  · next size =>
    constructor
    · intro same
      cases same
      rfl
    · intro same
      cases signature
      cases same
      rfl
  · next size =>
    constructor
    · intro same
      cases same
    · intro same
      exact (size (same ▸ signature.size)).elim

end Signature

/-- An Ed25519 public key. -/
structure Pubkey where
  bytes : Bytes
  size : bytes.length = 32
  deriving DecidableEq

inductive MessageVersion where
  | legacy
  | v0
  | v1
  deriving DecidableEq

structure MessageHeader where
  numRequiredSignatures : UInt8
  numReadonlySignedAccounts : UInt8
  numReadonlyUnsignedAccounts : UInt8
  deriving DecidableEq

structure VersionedMessage where
  version : MessageVersion
  header : MessageHeader
  staticAccountKeys : List Pubkey
  rest : Bytes
  deriving DecidableEq

namespace VersionedMessage

/-- `header().num_required_signatures as usize`. -/
def numRequired (message : VersionedMessage) : ℕ :=
  message.header.numRequiredSignatures.toNat

/-- The account keys that have to sign, when the message lists enough keys. -/
def requiredKeys (message : VersionedMessage) : List Pubkey :=
  message.staticAccountKeys.take message.numRequired

end VersionedMessage

structure VersionedTransaction where
  signatures : List Signature
  message : VersionedMessage
  deriving DecidableEq

/-! ## Small legacy transactions -/

/-- The digits of `n` in a base, most significant first, as far as the fuel goes. -/
def digitsOf (base : ℕ) : ℕ → ℕ → List ℕ
  | 0, _ => []
  | fuel + 1, n => if n = 0 then [] else digitsOf base fuel (n / base) ++ [n % base]

def base58Alphabet : List Char :=
  "123456789ABCDEFGHJKLMNPQRSTUVWXYZabcdefghijkmnopqrstuvwxyz".toList

def base58Encode (bytes : Bytes) : String :=
  let number := bytes.foldl (fun n byte => n * 256 + byte.toNat) 0
  String.ofList (List.replicate (bytes.takeWhile (· = 0)).length '1' ++
    (digitsOf 58 (2 * bytes.length) number).map fun d => base58Alphabet.getD d '1')

def base64Alphabet : List Char :=
  "ABCDEFGHIJKLMNOPQRSTUVWXYZabcdefghijklmnopqrstuvwxyz0123456789+/".toList

/-- The base64 digits of a group of three bytes, most significant first. -/
def base64Group (a b c : UInt8) : List Char :=
  let number := a.toNat * 65536 + b.toNat * 256 + c.toNat
  [number / 262144, number / 4096 % 64, number / 64 % 64, number % 64].map fun digit =>
    base64Alphabet.getD digit '='

/-- Standard base64 with padding. -/
def base64Encode (bytes : Bytes) : String :=
  String.ofList (digits bytes)
where
  digits : Bytes → List Char
    | a :: b :: c :: rest => base64Group a b c ++ digits rest
    | [a, b] => (base64Group a b 0).take 3 ++ ['=']
    | [a] => (base64Group a 0 0).take 2 ++ ['=', '=']
    | [] => []

/-- The wire form of a legacy message with fewer than 128 account keys. -/
def legacyMessage (message : VersionedMessage) : Bytes :=
  [message.header.numRequiredSignatures, message.header.numReadonlySignedAccounts,
    message.header.numReadonlyUnsignedAccounts, UInt8.ofNat message.staticAccountKeys.length] ++
    message.staticAccountKeys.flatMap Pubkey.bytes ++ message.rest

/-- The wire form of a legacy transaction with fewer than 128 signatures. -/
def legacyWire (transaction : VersionedTransaction) : Bytes :=
  [UInt8.ofNat transaction.signatures.length] ++
    transaction.signatures.flatMap Signature.bytes ++ legacyMessage transaction.message

/-- The fee payer of `emptyTransaction`. -/
def emptyPayer : Pubkey := ⟨1 :: List.replicate 31 0, rfl⟩

/-- The system program transfer of nothing: one required signer, no instruction. -/
def emptyTransaction : VersionedTransaction where
  signatures := [Signature.default]
  message := {
    version := .legacy
    header := ⟨1, 0, 1⟩
    staticAccountKeys := [emptyPayer, ⟨List.replicate 32 0, rfl⟩]
    rest := List.replicate 33 0 }

/-- The signature of an identity point and a zero scalar. The key `emptyPayer` is
the identity point too, so it verifies under it over every message. -/
def filledSignature : Signature := ⟨1 :: List.replicate 63 0, rfl⟩

/-- The digest of the Crossmint key input of `emptyTransaction`, without a locator. -/
def emptyDigest : { digest : Bytes // digest.length = 32 } :=
  ⟨[54, 58, 110, 108, 108, 245, 230, 108, 234, 237, 57, 173, 198, 192, 100, 174, 225, 187, 31,
    214, 94, 182, 149, 48, 179, 10, 220, 23, 67, 22, 11, 143], rfl⟩

/-- The base64 form of the message of `emptyTransaction`. -/
def emptyMessageBase64 : String :=
  "AQABAgEA" ++ String.ofList (List.replicate 127 'A') ++ "="

end Keychain
