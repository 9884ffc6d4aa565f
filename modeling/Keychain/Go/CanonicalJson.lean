import Keychain.Go.Packages
import Keychain.Lib.JsonString
import Keychain.Lib.JsonStrings
import Keychain.StringOrder

/-!
The canonical JSON texts of the Go signers: `core/canonical.go`, whose digest the wallet
tokens of CDP and Openfort carry, and `signers/privy/authorization.go`.

An encoder without HTML escaping still escapes U+2028 and U+2029 (`escapeRune`). A Go map
lists its entries in any order.
-/

namespace Keychain.Go

open Json (Tokens Reorder WellFormed sortByKey sorted text plainTokens escapeChar decimal strings)

/-! ## encoding/json -/

/-- The order of a Go `string`: byte by byte. -/
def stringRank (s : String) : List ℕ := s.toList.flatMap utf8Code

/-- A character of a string literal when `SetEscapeHTML(false)` is set. -/
def escapeRune (c : Char) : List Char :=
  if c = Char.ofNat 0x2028 then "\\u2028".toList
  else if c = Char.ofNat 0x2029 then "\\u2029".toList
  else escapeChar c

/-- How the encoder writes strings and the literals of numbers. -/
def encoderTokens : Tokens String String where
  string s := '"' :: (s.toList.flatMap escapeRune ++ ['"'])
  number := String.toList

/-- What `Encode` writes: the entries of a map by key, and a newline at the end. -/
def encode (value : Value) : String :=
  String.ofList (text encoderTokens (sorted stringRank value) ++ ['\n'])

/-- `strings.TrimSuffix(text, "\n")` -/
def trimNewline (text : String) : String :=
  if text.toList.getLast? = some '\n' then String.ofList text.toList.dropLast else text

/-! ## core/canonical.go -/

/-- `MarshalCanonicalJSON`; the encoder fails on no JSON value. -/
def marshalCanonicalJSON (v : Value) : Except Error Bytes :=
  .ok (utf8 (trimEndMatches '\n' (encode v)))

/-! ## signers/privy/authorization.go -/

/-- `encodeJSONString`; `none` is a string that is not encoded. -/
def encodeJSONString (value : String) : Option String :=
  some (trimNewline (encode (.string value)))

/-- `canonicalizeJSON` -/
def canonicalizeJSON (value : Value) : Option String :=
  value.walk {
    null := some "null"
    bool value := some (if value then "true" else "false")
    number value := some value
    string := encodeJSONString
    array values := do
      let items ← values.mapM id
      pure ("[" ++ ",".intercalate items ++ "]")
    object values := do
      let entries ← (sortByKey stringRank values).mapM fun entry => do
        let serializedKey ← encodeJSONString entry.1
        let serializedValue ← entry.2
        pure (serializedKey ++ ":" ++ serializedValue)
      pure ("\x7b" ++ ",".intercalate entries ++ "\x7d") }

/-- `authorizationRequestInput`, with its body as a `Body`. -/
structure AuthorizationRequestInput (Body : Type) where
  version : Int
  method : String
  url : String
  body : Body
  headers : List (String × String)

/-- The value that is written, with this body. -/
def AuthorizationRequestInput.signed {Body : Type} (input : AuthorizationRequestInput Body)
    (bodyValue : Value) : Value :=
  .object [("version", .number (String.ofList (decimal input.version))),
    ("method", .string input.method), ("url", .string input.url),
    ("body", if bodyValue.isEmptyObject then .string "" else bodyValue),
    ("headers", .object (input.headers.map fun header => (header.1, .string header.2)))]

/-- `formatAuthorizationSignaturePayload`; `toJSONValue` marshals a body and decodes it. -/
def formatAuthorizationSignaturePayload {Body : Type} (toJSONValue : Body → Except String Value)
    (input : AuthorizationRequestInput Body) : Except Error Bytes := do
  let bodyValue ← (toJSONValue input.body).mapError fun _ =>
    newSignerError .serializationError "failed to serialize privy authorization request"
  match canonicalizeJSON (input.signed bodyValue) with
  | some canonical => .ok (utf8 canonical)
  | none =>
    .error (newSignerError .serializationError "failed to serialize privy authorization request")

/-! ## What they write -/

theorem encode_string {s : String} :
    encodeJSONString s = some (String.ofList (encoderTokens.string s)) := by
  have last : (encode (.string s)).toList.getLast? = some '\n' := by
    rw [encode, String.toList_ofList, List.getLast?_concat]
  rw [encodeJSONString, trimNewline, if_pos last, encode, String.toList_ofList,
    List.dropLast_concat]
  rfl

/-- The text of a value as Go signs it. -/
def canonicalText (value : Value) : List Char := text encoderTokens (sorted stringRank value)

theorem canonicalizeJSON_array {values : List Value} :
    canonicalizeJSON (.array values) = (do
      let items ← values.mapM canonicalizeJSON
      pure ("[" ++ ",".intercalate items ++ "]")) := by
  have walked : (values.map canonicalizeJSON).mapM id = values.mapM canonicalizeJSON :=
    List.mapM_map
  rw [← walked]
  exact Json.walk_array

theorem canonicalizeJSON_object {values : List (String × Value)} :
    canonicalizeJSON (.object values) = (do
      let entries ← (sortByKey stringRank values).mapM fun entry => do
        let serializedKey ← encodeJSONString entry.1
        let serializedValue ← canonicalizeJSON entry.2
        pure (serializedKey ++ ":" ++ serializedValue)
      pure ("\x7b" ++ ",".intercalate entries ++ "\x7d")) := by
  have written {f : String × Option String → Option String} :
      (sortByKey stringRank (values.map fun entry => (entry.1, canonicalizeJSON entry.2))).mapM f =
        (sortByKey stringRank values).mapM fun entry => f (entry.1, canonicalizeJSON entry.2) := by
    rw [Json.sortByKey_map_value, List.mapM_map]
    rfl
  rw [← written (f := fun entry => do
    let serializedKey ← encodeJSONString entry.1
    let serializedValue ← entry.2
    pure (serializedKey ++ ":" ++ serializedValue))]
  exact Json.walk_object

/-- `canonicalizeJSON` writes the sorted value. -/
theorem canonicalizeJSON_eq (value : Value) :
    canonicalizeJSON value = some (String.ofList (canonicalText value)) := by
  induction value using Json.induct with
  | null => rfl
  | bool value =>
    cases value with
    | true => rfl
    | false => rfl
  | number n => exact congrArg some String.ofList_toList.symm
  | string s => exact encode_string
  | array items ih =>
    rw [canonicalizeJSON_array, Json.mapM_some ih]
    apply congrArg some
    apply String.toList_injective
    rw [canonicalText, Json.text_sorted_array]
    simp [String.toList_intercalate, Function.comp_def, canonicalText]
  | object members ih =>
    have each : ∀ m ∈ sortByKey stringRank members,
        (do
          let serializedKey ← encodeJSONString m.1
          let serializedValue ← canonicalizeJSON m.2
          pure (serializedKey ++ ":" ++ serializedValue)) =
          some (String.ofList (encoderTokens.string m.1) ++ ":" ++
            String.ofList (canonicalText m.2)) := by
      intro m member
      rw [ih m (Json.sortByKey_perm.mem_iff.mp member), encode_string]
      rfl
    rw [canonicalizeJSON_object, Json.mapM_some each]
    apply congrArg some
    apply String.toList_injective
    rw [canonicalText, Json.text_sorted_object]
    simp [String.toList_intercalate, Function.comp_def, canonicalText]

/-! ## Values of integers -/

/-- The value of a JSON text whose numbers are integers. -/
def ofJson : Json String Int → Value := Json.map id fun n => String.ofList (decimal n)

/-- Strings and whole numbers as Go writes them. -/
def goTokens : Tokens String Int where
  string := encoderTokens.string
  number := decimal

theorem canonicalText_ofJson {value : Json String Int} :
    canonicalText (ofJson value) = text goTokens (sorted stringRank value) := by
  have tokens : (⟨encoderTokens.string ∘ id,
      encoderTokens.number ∘ fun n => String.ofList (decimal n)⟩ : Tokens String Int) =
      goTokens := by
    simp only [goTokens, encoderTokens, Function.comp_def, String.toList_ofList, id]
  have kept : sorted stringRank (ofJson value) = ofJson (sorted stringRank value) :=
    Json.sorted_map fun _ _ => Iff.rfl
  rw [canonicalText, kept, ofJson, Json.text_map, tokens]

/-- U+2028 and U+2029, which end a line in JavaScript. -/
def isSeparator (c : Char) : Bool := c = Char.ofNat 0x2028 || c = Char.ofNat 0x2029

/-- The text holds neither. -/
def unseparated (s : String) : Bool := s.toList.all fun c => !isSeparator c

theorem escapeRune_eq {c : Char} (plain : isSeparator c = false) : escapeRune c = escapeChar c := by
  simp only [isSeparator, Bool.or_eq_false_iff, decide_eq_false_iff_not] at plain
  rw [escapeRune, if_neg plain.1, if_neg plain.2]

/-- A text without the separators is written as the other ports write it. -/
theorem goTokens_string {s : String} (plain : unseparated s) :
    goTokens.string s = plainTokens.string s := by
  have each : s.toList.flatMap escapeRune = s.toList.flatMap escapeChar := by
    apply List.flatMap_congr
    intro c member
    apply escapeRune_eq
    simpa using List.all_eq_true.mp plain c member
  simp only [goTokens, encoderTokens, plainTokens, Json.quoted, each]

theorem ascii_escapeRune {c d : Char} (member : d ∈ escapeRune c) :
    d = c ∧ isSeparator c = false ∨ d.toNat < 0x80 := by
  unfold escapeRune at member
  split at member
  · have small : ∀ n ∈ "\\u2028".toList.map Char.toNat, n < 0x80 := by decide
    exact .inr (small _ (List.mem_map_of_mem member))
  · split at member
    · have small : ∀ n ∈ "\\u2029".toList.map Char.toNat, n < 0x80 := by decide
      exact .inr (small _ (List.mem_map_of_mem member))
    · next other other' =>
      rcases Json.mem_escapeChar member with same | small
      · exact .inl ⟨same, by simp [isSeparator, other, other']⟩
      · exact .inr small

/-- Go writes no separator. -/
theorem not_mem_goTokens {c : Char} (separator : isSeparator c) (s : String) :
    c ∉ goTokens.string s := by
  have large : ¬ c.toNat < 0x80 := by
    simp only [isSeparator, Bool.or_eq_true, decide_eq_true_eq] at separator
    rcases separator with rfl | rfl
    · decide
    · decide
  intro written
  simp only [goTokens, encoderTokens, List.mem_cons, List.mem_append, List.mem_flatMap,
    List.not_mem_nil, or_false] at written
  rcases written with rfl | ⟨d, -, written⟩ | rfl
  · exact large (by decide)
  · rcases ascii_escapeRune written with ⟨rfl, plain⟩ | small
    · rw [plain] at separator
      cases separator
    · exact large small
  · exact large (by decide)

/-- The other ports write it as it is. -/
theorem mem_plainTokens {c : Char} (separator : isSeparator c) {s : String}
    (member : c ∈ s.toList) : c ∈ plainTokens.string s := by
  have large : 0x80 ≤ c.toNat := by
    simp only [isSeparator, Bool.or_eq_true, decide_eq_true_eq] at separator
    rcases separator with rfl | rfl
    · decide
    · decide
  simp only [plainTokens, Json.quoted, List.mem_cons, List.mem_append, List.mem_flatMap]
  refine .inr (.inl ⟨c, member, ?_⟩)
  rw [Json.escapeChar_of_large large]
  exact List.mem_singleton_self c

theorem foreign_separator {c : Char} (separator : isSeparator c) :
    c ∉ Json.markup ∧ ∀ n, c ∉ decimal n := by
  simp only [isSeparator, Bool.or_eq_true, decide_eq_true_eq] at separator
  refine ⟨?_, fun n member => ?_⟩
  · rcases separator with rfl | rfl
    · decide
    · decide
  · have digit := Json.decimal_chars c member
    rcases separator with rfl | rfl
    · cases digit
    · cases digit

/-- Go writes a value as the other ports do exactly when no string and no name in it holds a
separator. -/
theorem text_goTokens_eq_iff {value : Json String Int} :
    text goTokens value = text plainTokens value ↔ ∀ s ∈ strings value, unseparated s := by
  constructor
  · intro same s inside
    rw [unseparated, List.all_eq_true]
    intro c member
    rw [Bool.not_eq_true', Bool.eq_false_iff]
    intro separator
    rcases foreign_separator separator with ⟨foreign, digits⟩
    have written : c ∈ text plainTokens value :=
      (Json.mem_text_iff foreign digits).mpr ⟨s, inside, mem_plainTokens separator member⟩
    rw [← same, Json.mem_text_iff foreign digits] at written
    rcases written with ⟨s', -, literal⟩
    exact not_mem_goTokens separator s' literal
  · intro plain
    exact Json.text_congr rfl fun s inside => goTokens_string (plain s inside)

/-! ## The end of a text -/

/-- No newline is written. -/
theorem newline_not_mem {value : Json String Int} : '\n' ∉ text goTokens value := by
  have digits : ∀ n, '\n' ∉ decimal n := by
    intro n member
    cases Json.decimal_chars _ member
  have literal : ∀ c, '\n' ∉ escapeRune c := by
    intro c
    unfold escapeRune
    split
    · decide
    · split
      · decide
      · exact fun member => absurd (Json.printed_of_mem_escapeChar member) (by decide)
  rw [Json.mem_text_iff (by decide) digits]
  intro given
  rcases given with ⟨s, -, written⟩
  simp only [goTokens, encoderTokens, List.mem_cons, List.mem_append, List.mem_flatMap,
    List.not_mem_nil, or_false] at written
  rcases written with quote | ⟨c, -, escaped⟩ | quote
  · cases quote
  · exact literal c escaped
  · cases quote

/-- `MarshalCanonicalJSON` writes the text that `canonicalizeJSON` does. -/
theorem marshalCanonicalJSON_eq (value : Json String Int) :
    marshalCanonicalJSON (ofJson value) =
      .ok (utf8 (String.ofList (canonicalText (ofJson value)))) := by
  have kept : (canonicalText (ofJson value)).reverse.dropWhile (fun c => decide (c = '\n')) =
      (canonicalText (ofJson value)).reverse := by
    cases shape : (canonicalText (ofJson value)).reverse with
    | nil => rfl
    | cons last before =>
      have other : last ≠ '\n' := by
        intro newline
        have member : last ∈ canonicalText (ofJson value) := by
          rw [← List.mem_reverse, shape]
          exact List.mem_cons_self
        rw [newline, canonicalText_ofJson] at member
        exact newline_not_mem member
      rw [List.dropWhile_cons_of_neg (by simpa using other)]
  have trimmed : trimEndMatches '\n' (encode (ofJson value)) =
      String.ofList (canonicalText (ofJson value)) := by
    rw [trimEndMatches, encode, ← canonicalText, String.toList_ofList, List.reverse_append,
      List.reverse_singleton, List.singleton_append, List.dropWhile_cons_of_pos (by simp), kept,
      List.reverse_reverse]
  rw [marshalCanonicalJSON, trimmed]

end Keychain.Go
