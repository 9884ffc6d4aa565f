import Mathlib.Data.List.Basic
import Keychain.Lib.Dialogue
import Keychain.Lib.Json

/-!
What travels between a signer and its provider, in the terms the four language
ports share: bytes, text and HTTP exchanges. JSON values are in `Lib/Json.lean`.

A `Reply` is everything a transport can hand back for one request: the request
failed before a status line arrived, or a status arrived and the body is a
`BodyStream`, a run of chunks that ends normally or breaks off with an error.
-/

namespace Keychain

abbrev Bytes := List UInt8

/-! ## Text -/

/-- The Unicode `White_Space` property, what Rust's `char::is_whitespace` and
Go's `unicode.IsSpace` test. -/
def isWhitespace (c : Char) : Bool :=
  let n := c.toNat
  (9 ≤ n && n ≤ 13) || n = 0x20 || n = 0x85 || n = 0xA0 || n = 0x1680 ||
    (0x2000 ≤ n && n ≤ 0x200A) || n = 0x2028 || n = 0x2029 || n = 0x202F ||
    n = 0x205F || n = 0x3000

/-- `text.trim().is_empty()`. -/
def isBlank (text : String) : Bool := text.toList.all isWhitespace

/-- The UTF-8 bytes of a text. -/
def utf8 (text : String) : Bytes := text.toUTF8.data.toList

theorem utf8_append {a b : String} : utf8 (a ++ b) = utf8 a ++ utf8 b := by
  simp [utf8]

/-- Text is encoded character by character. -/
theorem utf8_eq_flatMap {text : String} :
    utf8 text = text.toList.flatMap String.utf8EncodeChar := by
  unfold utf8
  rw [String.toUTF8_eq_toByteArray, ← String.utf8Encode_toList]
  simp [List.utf8Encode]

theorem toNat_ofNat_byte (byte : UInt8) : (Char.ofNat byte.toNat).toNat = byte.toNat := by
  have small := byte.toNat_lt
  have valid : byte.toNat.isValidChar := Or.inl (by omega)
  rw [Char.ofNat, dif_pos valid]
  rfl

/-- An ASCII character is one byte. -/
theorem utf8EncodeChar_of_ascii {c : Char} (ascii : c.toNat ≤ 0x7f) :
    String.utf8EncodeChar c = [c.toNat.toUInt8] := by
  simp only [String.utf8EncodeChar, Char.toNat_val, ascii, if_true]

theorem utf8_injective : Function.Injective utf8 := by
  intro a b same
  have data : a.toUTF8.data = b.toUTF8.data := Array.toList_inj.mp same
  exact String.toByteArray_inj.mp (ByteArray.ext data)

/-- The two lowercase hexadecimal digits of a byte. -/
def hexDigits (byte : UInt8) : List Char :=
  [Nat.digitChar (byte.toNat / 16), Nat.digitChar (byte.toNat % 16)]

/-- The bytes of the ASCII letters and digits. -/
def isAlphanumeric (byte : UInt8) : Bool :=
  (0x41 ≤ byte && byte ≤ 0x5A) || (0x61 ≤ byte && byte ≤ 0x7A) || (0x30 ≤ byte && byte ≤ 0x39)

/-- Percent-encode every byte but the letters, the digits and these. -/
def percentEncode (safe : String) (bytes : Bytes) : String :=
  String.ofList (bytes.flatMap fun byte =>
    if isAlphanumeric byte || (utf8 safe).contains byte then [Char.ofNat byte.toNat]
    else '%' :: (hexDigits byte).map Char.toUpper)

/-- The text without the whitespace at its two ends. -/
def trimSpace (text : String) : String :=
  String.ofList (((text.toList.dropWhile isWhitespace).reverse.dropWhile isWhitespace).reverse)

/-- `text.trim_end_matches(c)`. -/
def trimEndMatches (c : Char) (text : String) : String :=
  String.ofList ((text.toList.reverse.dropWhile (· = c)).reverse)

/-! ## HTTP exchanges -/

inductive Method where
  | get
  | post
  deriving DecidableEq

structure Request where
  method : Method
  url : String
  headers : List (String × String)
  body : String
  deriving DecidableEq

/-- A response body as the transport delivers it: its chunks in order, then the
end of the stream or the error that broke it off. -/
structure BodyStream where
  chunks : List Bytes
  failure : Option String
  /-- The charset that the response's content type names. -/
  charset : Option String := none
  /-- The error of closing a response that was read to its end. -/
  closeFailure : Option String := none
  deriving DecidableEq

namespace BodyStream

/-- The bytes delivered before the stream ends or breaks off. -/
def bytes (body : BodyStream) : Bytes := body.chunks.flatten

/-- A body that arrives whole in one chunk. -/
def whole (bytes : Bytes) : BodyStream where
  chunks := [bytes]
  failure := none

end BodyStream

inductive Reply where
  | failed (error : String)
  | response (status : ℕ) (body : BodyStream)
  deriving DecidableEq

namespace Reply

/-- `StatusCode::is_success`. -/
def isSuccess (status : ℕ) : Bool := 200 ≤ status && status < 300

/-- The statuses with which a provider refuses a request without having acted
on it: `400..499` except the timeout status `408`. -/
def isRejection (status : ℕ) : Bool := 400 ≤ status && status < 500 && status != 408

/-- The reply refuses the request, whatever its body. -/
def Rejects (reply : Reply) : Prop :=
  ∃ status body, reply = .response status body ∧ isRejection status

theorem isRejection_iff {status : ℕ} :
    isRejection status ↔ 400 ≤ status ∧ status < 500 ∧ status ≠ 408 := by
  simp [isRejection, and_assoc]

theorem not_isSuccess_of_isRejection {status : ℕ} (rejected : isRejection status) :
    isSuccess status = false := by
  rw [isRejection_iff] at rejected
  simp [isSuccess]
  omega

end Reply

/-- A program that talks HTTP, with state `σ` and errors `ε`. -/
abbrev HttpProg (σ ε : Type) := Prog Request Reply σ ε

end Keychain
