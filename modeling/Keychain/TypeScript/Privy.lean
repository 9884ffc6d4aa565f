import Keychain.Lib.JsonOrder
import Keychain.Lib.JsonString
import Keychain.StringOrder

/-!
The payload that the TypeScript signer has authorized by Privy, `privy/src/authorization.ts`.

`JSON.stringify` and the comparison of strings work on UTF-16 code units.
-/

namespace Keychain.TypeScript

open Json (sortByKey sorted text plainTokens quoted escapeChar escapeUnit decimal mapM_some)

/-! ## Strings -/

namespace JsString

instance : Append JsString := ⟨fun a b => ⟨a.codeUnits ++ b.codeUnits⟩⟩

instance : Coe String JsString := ⟨ofString⟩

/-- `parts.join(separator)`. -/
def join (separator : JsString) (parts : List JsString) : JsString :=
  ⟨separator.codeUnits.intercalate (parts.map codeUnits)⟩

/-- What `a < b` compares. -/
def rank (text : JsString) : List ℕ := text.codeUnits.map UInt16.toNat

theorem eq_of_codeUnits {a b : JsString} (same : a.codeUnits = b.codeUnits) : a = b :=
  congrArg JsString.mk same

@[simp] theorem codeUnits_append {a b : JsString} :
    (a ++ b).codeUnits = a.codeUnits ++ b.codeUnits := rfl

@[simp] theorem codeUnits_ofString {s : String} :
    (ofString s).codeUnits = s.toList.flatMap codeUnitsOf := rfl

@[simp] theorem codeUnits_join {separator : JsString} {parts : List JsString} :
    (join separator parts).codeUnits =
      separator.codeUnits.intercalate (parts.map codeUnits) := rfl

end JsString

/-! ## Values -/

/-- A `number`: a safe integer, another finite one by its text, or none of these. -/
inductive Number where
  | safe (value : Int)
  | finite (text : String)
  | nonFinite

/-- A value that is no `null`, boolean, string, array or record. -/
inductive Primitive where
  | number (value : Number)
  | undefined
  /-- a `bigint`, a `symbol` or a function -/
  | other

abbrev Unknown := Json JsString Primitive

def isUndefined : Unknown → Bool
  | .number .undefined => true
  | _ => false

/-- `Number.isFinite(value)`. -/
def Number.isFinite : Number → Bool
  | .nonFinite => false
  | _ => true

/-! ## JSON.stringify -/

/-- The code unit of a character of the basic plane. -/
def unitOf (c : Char) : UInt16 := UInt16.ofNat c.toNat

def stringifyUnit : UInt16 → List UInt16 :=
  escapeUnit unitOf UInt16.toNat fun unit =>
    decide (0x20 ≤ unit.toNat) && !isLeadSurrogate unit && !isTrailSurrogate unit

/-- The code units inside a literal; only a surrogate without its partner is escaped. -/
def stringifyUnits : List UInt16 → List UInt16
  | [] => []
  | [unit] => stringifyUnit unit
  | lead :: trail :: rest =>
    if isLeadSurrogate lead && isTrailSurrogate trail then
      lead :: trail :: stringifyUnits rest
    else
      stringifyUnit lead ++ stringifyUnits (trail :: rest)

/-- `JSON.stringify` of a string. -/
def stringifyString (text : JsString) : JsString :=
  "\"" ++ ⟨stringifyUnits text.codeUnits⟩ ++ "\""

/-- `JSON.stringify` of a number. -/
def stringifyNumber : Number → JsString
  | .safe value => String.ofList (decimal value)
  | .finite text => text
  | .nonFinite => "null"

/-! ## authorization.ts -/

mutual

def canonicalizeJson : Unknown → Option JsString
  | .null => some "null"
  | .bool value => some (if value then "true" else "false")
  | .string value => some (stringifyString value)
  | .number (.number value) => if value.isFinite then some (stringifyNumber value) else none
  | .number _ => none
  | .array value => do
    let items ← canonicalizeItems value
    pure ("[" ++ JsString.join "," items ++ "]")
  | .object value => do
    let entries := sortByKey JsString.rank (canonicalizeEntries value)
    let serializedEntries ← entries.mapM fun entry => do
      let serializedValue ← entry.2
      pure (stringifyString entry.1 ++ ":" ++ serializedValue)
    pure ("\x7b" ++ JsString.join "," serializedEntries ++ "\x7d")

/-- The loop over an array, which ends with the first item that is not serialized. -/
def canonicalizeItems : List Unknown → Option (List JsString)
  | [] => some []
  | item :: items => do
    let serializedItem ← canonicalizeJson item
    let serializedItems ← canonicalizeItems items
    pure (serializedItem :: serializedItems)

/-- The entries that are not `undefined`, with what their values are serialized to. -/
def canonicalizeEntries : List (JsString × Unknown) → List (JsString × Option JsString)
  | [] => []
  | (key, value) :: entries =>
    if isUndefined value then canonicalizeEntries entries
    else (key, canonicalizeJson value) :: canonicalizeEntries entries

end

structure PrivyAuthorizationRequestInput where
  body : Unknown
  headers : List (JsString × JsString)
  method : JsString
  url : JsString
  version : Number

/-- The error thrown with the code `SERIALIZATION_ERROR`. -/
structure SerializationError where
  message : String
  deriving DecidableEq

/-- `{ ...request, body }`, with an empty object as no body. -/
def PrivyAuthorizationRequestInput.signed (request : PrivyAuthorizationRequestInput) : Unknown :=
  let body := if request.body.isEmptyObject then .string "" else request.body
  .object [("body", body),
    ("headers", .object (request.headers.map fun header => (header.1, .string header.2))),
    ("method", .string request.method), ("url", .string request.url),
    ("version", .number (.number request.version))]

def formatPrivyAuthorizationSignaturePayload (request : PrivyAuthorizationRequestInput) :
    Except SerializationError Bytes :=
  let serializedInput := canonicalizeJson request.signed
  if truthy serializedInput then
    .ok (textEncode (serializedInput.getD ""))
  else
    .error ⟨"Failed to serialize Privy authorization request"⟩

/-! ## Values of scalar strings and whole numbers -/

theorem codeUnitsOf_of_small {c : Char} (small : c.toNat < 0x10000) :
    codeUnitsOf c = [unitOf c] := by
  rw [codeUnitsOf, if_pos small]
  rfl

theorem toNat_unitOf {c : Char} (small : c.toNat < 0x10000) : (unitOf c).toNat = c.toNat :=
  toNat_ofNat small

/-- A character of the basic plane is escaped as everywhere. -/
theorem stringifyUnit_unitOf {c : Char} (small : c.toNat < 0x10000) :
    stringifyUnit (unitOf c) = (escapeChar c).flatMap codeUnitsOf := by
  have valid := not_surrogate c
  have units : (escapeChar c).map unitOf = (escapeChar c).flatMap codeUnitsOf := by
    rw [List.map_eq_flatMap]
    apply List.flatMap_congr
    intro d member
    rcases Json.mem_escapeChar member with rfl | ascii
    · exact (codeUnitsOf_of_small small).symm
    · exact (codeUnitsOf_of_small (by omega)).symm
  rw [stringifyUnit, Json.escapeUnit_eq, units]
  · intro escape member same
    have ascii : ∀ escape ∈ Json.letterEscapes, escape.1.toNat < 0x80 := by decide
    have value := congrArg UInt16.toNat same
    rw [toNat_unitOf (by have := ascii escape member; omega), toNat_unitOf small] at value
    exact Char.toNat_inj.mp value
  · exact toNat_unitOf small
  · obtain ⟨lead, trail⟩ := codeUnitsOf_small small
    simp [unitOf, lead, trail, toNat_ofNat small]

theorem stringifyUnits_codeUnitsOf (c : Char) (rest : List UInt16) :
    stringifyUnits (codeUnitsOf c ++ rest) =
      (escapeChar c).flatMap codeUnitsOf ++ stringifyUnits rest := by
  by_cases small : c.toNat < 0x10000
  · have lead : isLeadSurrogate (unitOf c) = false := (codeUnitsOf_small small).1
    rw [codeUnitsOf_of_small small, ← stringifyUnit_unitOf small]
    cases rest with
    | nil => simp [stringifyUnits]
    | cons next rest => simp [stringifyUnits, lead]
  · obtain ⟨lead, trail, units, isLead, isTrail, -⟩ := codeUnitsOf_pair small
    rw [Json.escapeChar_of_large (by omega), List.flatMap_singleton, units]
    simp [stringifyUnits, isLead, isTrail]

theorem stringifyString_ofString {s : String} :
    stringifyString (.ofString s) = .ofString (String.ofList (quoted s.toList)) := by
  have inside : ∀ characters : List Char, stringifyUnits (characters.flatMap codeUnitsOf) =
      (characters.flatMap escapeChar).flatMap codeUnitsOf := by
    intro characters
    induction characters with
    | nil => rfl
    | cons c characters ih =>
      rw [List.flatMap_cons, stringifyUnits_codeUnitsOf, ih, List.flatMap_cons,
        List.flatMap_append]
  apply JsString.eq_of_codeUnits
  simp [stringifyString, inside, quoted]

/-- The value of a JSON text of scalar strings and safe integers. -/
def ofJson : Json String Int → Unknown :=
  Json.map JsString.ofString fun n => .number (.safe n)

theorem ofJson_array {items : List (Json String Int)} :
    ofJson (.array items) = .array (items.map ofJson) := Json.map_array

theorem ofJson_object {members : List (String × Json String Int)} :
    ofJson (.object members) =
      .object (members.map fun m => (JsString.ofString m.1, ofJson m.2)) := Json.map_object

theorem canonicalizeItems_eq {values : List Unknown} :
    canonicalizeItems values = values.mapM canonicalizeJson := by
  induction values with
  | nil => rfl
  | cons value values ih => rw [canonicalizeItems, ih, List.mapM_cons]

theorem isUndefined_ofJson {value : Json String Int} : isUndefined (ofJson value) = false := by
  cases value with
  | _ => rfl

theorem canonicalizeEntries_eq {members : List (String × Json String Int)} :
    canonicalizeEntries (members.map fun m => (JsString.ofString m.1, ofJson m.2)) =
      members.map fun m => (JsString.ofString m.1, canonicalizeJson (ofJson m.2)) := by
  induction members with
  | nil => rfl
  | cons m members ih =>
    rw [List.map_cons, canonicalizeEntries, isUndefined_ofJson, ih]
    rfl

/-- The order of strings in TypeScript. -/
def stringRank (s : String) : List ℕ := s.toList.flatMap utf16Code

theorem stringRank_injective : Function.Injective stringRank := by
  intro a b same
  exact String.toList_injective (utf16Code_ordered.flatMap_injective same)

theorem rank_ofString {s : String} : (JsString.ofString s).rank = stringRank s :=
  List.map_flatMap

/-- The text of a value, with the members of objects in the order of their code units. -/
def canonicalText (value : Json String Int) : List Char :=
  text plainTokens (sorted stringRank value)

theorem canonicalizeJson_ofJson (value : Json String Int) :
    canonicalizeJson (ofJson value) = some (.ofString (String.ofList (canonicalText value))) := by
  induction value using Json.induct with
  | null => rfl
  | bool value =>
    cases value with
    | true => rfl
    | false => rfl
  | number n => rfl
  | string s => exact congrArg some stringifyString_ofString
  | array items ih =>
    have each : items.mapM (canonicalizeJson ∘ ofJson) =
        some (items.map fun item => JsString.ofString (String.ofList (canonicalText item))) :=
      mapM_some ih
    rw [ofJson_array, canonicalizeJson, canonicalizeItems_eq, List.mapM_map, each]
    apply congrArg some
    apply JsString.eq_of_codeUnits
    rw [canonicalText, Json.text_sorted_array]
    simp [Json.flatMap_intercalate, canonicalText, Function.comp_def]
  | object members ih =>
    have ordered : sortByKey JsString.rank
        (members.map fun m => (JsString.ofString m.1, canonicalizeJson (ofJson m.2))) =
        (sortByKey stringRank members).map fun m =>
          (JsString.ofString m.1, canonicalizeJson (ofJson m.2)) := by
      apply Json.sortByKey_map
      intro m _ m' _
      rw [rank_ofString, rank_ofString]
    have each : ∀ m ∈ sortByKey stringRank members, (do
        let serializedValue ← canonicalizeJson (ofJson m.2)
        pure (stringifyString (.ofString m.1) ++ ":" ++ serializedValue) : Option JsString) =
          some (JsString.ofString (String.ofList (quoted m.1.toList)) ++ ":" ++
            JsString.ofString (String.ofList (canonicalText m.2))) := by
      intro m member
      rw [ih m (Json.sortByKey_perm.mem_iff.mp member), stringifyString_ofString]
      rfl
    rw [ofJson_object, canonicalizeJson, canonicalizeEntries_eq]
    simp only [ordered, List.mapM_map, Function.comp_def, mapM_some each]
    apply congrArg some
    apply JsString.eq_of_codeUnits
    rw [canonicalText, Json.text_sorted_object]
    simp [Json.flatMap_intercalate, canonicalText, Function.comp_def]
    rfl

end Keychain.TypeScript
