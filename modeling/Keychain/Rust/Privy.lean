import Keychain.Rust.CanonicalJson
import Keychain.StringOrder

/-!
The payload that the Rust signer has authorized by Privy, `privy/authorization.rs`.
-/

namespace Keychain.Rust

open Json (sorted text plainTokens decimal)

/-- `serde_json::Number` of an integer. -/
def Number.ofInt (n : Int) : Number := ⟨String.ofList (decimal n)⟩

structure PrivyAuthorizationRequestInput where
  version : UInt8
  method : String
  url : String
  body : Value
  /-- the entries of a `BTreeMap` -/
  headers : List (String × String)

namespace PrivyAuthorizationRequestInput

/-- `serde_json::to_value(request)`, the fields in the order in which they are inserted. -/
def toValue (request : PrivyAuthorizationRequestInput) : Value :=
  .object [("version", .number (.ofInt request.version.toNat)),
    ("method", .string request.method), ("url", .string request.url), ("body", request.body),
    ("headers", .object (request.headers.map fun header => (header.1, .string header.2)))]

end PrivyAuthorizationRequestInput

/-- `if let Some(value) = value.get_mut(key)`: change one entry in place. -/
def getMut (value : Value) (key : String) (change : Value → Value) : Value :=
  match value with
  | .object map => .object (map.map fun entry =>
      if entry.1 = key then (entry.1, change entry.2) else entry)
  | _ => value

def formatPrivyAuthorizationSignaturePayload (request : PrivyAuthorizationRequestInput) :
    Except SignerError Bytes :=
  let value := request.toValue
  let value := getMut value "body" fun body =>
    if body.isEmptyObject then .string "" else body
  match canonicalizeJson value with
  | some serialized => .ok (utf8 serialized)
  | none => .error (.serializationError "Failed to serialize Privy authorization request")

/-! ## Values of integers -/

/-- The value of a JSON text whose numbers are integers. -/
def ofJson : Json String Int → Value := Json.map id Number.ofInt

/-- The order of strings in Rust. -/
def stringRank (s : String) : List ℕ := s.toList.flatMap utf8Code

theorem strRank_eq : strRank = stringRank := by
  funext s
  rw [strRank, utf8_eq_flatMap, List.map_flatMap]
  rfl

/-- The text of a value, with the members of objects in the order of their bytes. -/
theorem canonicalText_ofJson {value : Json String Int} :
    canonicalText (ofJson value) = text plainTokens (sorted stringRank value) := by
  have tokens : (⟨serdeTokens.string ∘ id, serdeTokens.number ∘ Number.ofInt⟩ :
      Json.Tokens String Int) = plainTokens := by
    simp only [plainTokens, serdeTokens, Function.comp_def, Number.ofInt, String.toList_ofList,
      id]
  have kept : sorted stringRank (ofJson value) = ofJson (sorted stringRank value) :=
    Json.sorted_map fun _ _ => Iff.rfl
  rw [canonicalText, strRank_eq, kept, ofJson, Json.text_map, tokens]

end Keychain.Rust
