import Keychain.Go.CanonicalJson
import Keychain.PrivyPayload

/-!
The canonical JSON texts of the Go port against those of the other ports.

All ports sort the names of an object alike, but Go escapes U+2028 and U+2029 in a string.
What is signed or hashed is the same exactly for the values in which neither occurs.
-/

namespace Keychain

open Json (WellFormed Reorder sorted text plainTokens strings)
open Go (unseparated goTokens)

theorem stringRank_eq : Go.stringRank = Rust.stringRank := rfl

/-- Reordering neither fills nor empties an object. -/
theorem isEmptyObject_reorder {S N : Type} {v w : Json S N} (reorder : Reorder v w) :
    v.isEmptyObject = w.isEmptyObject := by
  induction reorder with
  | refl v => rfl
  | trans _ _ ih ih' => exact ih.trans ih'
  | @here ms ms' perm =>
    cases ms with
    | nil => rw [perm.nil_eq]
    | cons m ms =>
      cases ms' with
      | nil => exact absurd perm.eq_nil (List.cons_ne_nil _ _)
      | cons m' ms' => rfl
  | item => rfl
  | @member before after key v w =>
    cases before with
    | nil => rfl
    | cons m before => rfl

/-- Writing the numbers in another way keeps the names distinct. -/
theorem wellFormed_map {N : Type} {f : Int → N} {valid : Int → Prop} {value : Json String Int}
    (formed : WellFormed valid value) : WellFormed (fun _ => True) (Json.map id f value) := by
  induction formed with
  | null => exact .null
  | bool value => exact .bool value
  | number _ => exact .number trivial
  | string value => exact .string value
  | array _ ih =>
    rw [Json.map_array]
    exact .array (List.forall_mem_map.mpr ih)
  | @object members distinct _ ih =>
    rw [Json.map_object]
    refine .object ?_ (List.forall_mem_map.mpr ih)
    rw [List.map_map]
    exact distinct

namespace PrivyRequest

/-- The request with its body as Go holds it. -/
def toGo {Body : Type} (request : PrivyRequest) (body : Body) :
    Go.AuthorizationRequestInput Body where
  version := request.version.toNat
  method := request.method
  url := request.url
  body := body
  headers := request.headers

/-- No text of the request holds U+2028 or U+2029. -/
structure Unseparated (request : PrivyRequest) : Prop where
  method : unseparated request.method
  url : unseparated request.url
  headers : ∀ header ∈ request.headers, unseparated header.1 ∧ unseparated header.2
  body : ∀ s ∈ strings request.body, unseparated s

variable {request : PrivyRequest}

/-- What Go signs when the body is decoded to this value, its members in any order. -/
theorem signed_reorder {Body : Type} (body : Body) {decoded : Go.Value}
    (same : Reorder decoded (Go.ofJson request.body)) :
    Reorder ((request.toGo body).signed decoded) (Go.ofJson request.tree) := by
  have sent : Reorder (if decoded.isEmptyObject then .string "" else decoded)
      (if (Go.ofJson request.body).isEmptyObject then .string "" else Go.ofJson request.body) := by
    rw [isEmptyObject_reorder same]
    split
    · exact .refl _
    · exact same
  have fourth : ∀ a b c d : String × Go.Value, ∀ {v w : Go.Value}, Reorder v w →
      Reorder (.object ([a, b, c] ++ ("body", v) :: [d]))
        (.object ([a, b, c] ++ ("body", w) :: [d])) := fun _ _ _ _ _ _ reorder => .member reorder
  rw [Go.ofJson, map_tree]
  exact fourth _ _ _ _ sent

theorem go_payload {Body : Type} {toJSONValue : Body → Except String Go.Value} {body : Body}
    {decoded : Go.Value} (read : toJSONValue body = .ok decoded)
    (same : Reorder decoded (Go.ofJson request.body)) :
    Go.formatAuthorizationSignaturePayload toJSONValue (request.toGo body) =
      .ok (utf8 (String.ofList (text goTokens (sorted Go.stringRank request.tree)))) := by
  have separates : Function.Injective Go.stringRank := by
    rw [stringRank_eq, ← Rust.strRank_eq]
    exact Rust.strRank_injective
  have written := ((signed_reorder body same).symm.sorted_eq separates
    (wellFormed_map request.formed)).2
  have texts : Go.canonicalText ((request.toGo body).signed decoded) =
      text goTokens (sorted Go.stringRank request.tree) := by
    rw [← Go.canonicalText_ofJson, Go.canonicalText, Go.canonicalText, ← written]
  have canonical := Go.canonicalizeJSON_eq ((request.toGo body).signed decoded)
  rw [texts] at canonical
  have handed : (request.toGo body).body = body := rfl
  rw [Go.formatAuthorizationSignaturePayload, handed, read]
  simp only [mapError_ok, bind, Except.bind, canonical]

theorem strings_header {headers : List (String × String)} :
    strings (.object (headers.map fun header => (header.1, (.string header.2 : Json String Int)))) =
      headers.flatMap fun header => [header.1, header.2] := by
  rw [Json.strings_object, List.flatMap_map]
  rfl

/-- The body that is sent has the strings of the request's body, and an empty one. -/
theorem strings_sentBody {ok : String → Prop} (empty : ok "") :
    (∀ s ∈ strings request.sentBody, ok s) ↔ ∀ s ∈ strings request.body, ok s := by
  unfold sentBody
  split
  · next isEmpty =>
    cases shape : request.body with
    | object members =>
      rw [shape] at isEmpty
      cases members with
      | nil => simpa using empty
      | cons m members => cases isEmpty
    | _ =>
      rw [shape] at isEmpty
      cases isEmpty
  · rfl

theorem unseparated_tree :
    (∀ s ∈ strings request.tree, unseparated s) ↔ request.Unseparated := by
  have names : unseparated "version" ∧ unseparated "method" ∧ unseparated "url" ∧
      unseparated "body" ∧ unseparated "headers" := by decide +kernel
  have body : (∀ s ∈ strings request.sentBody, unseparated s) ↔
      ∀ s ∈ strings request.body, unseparated s := strings_sentBody rfl
  rw [tree, Json.strings_object]
  simp only [members, List.flatMap_cons, List.flatMap_nil, List.cons_append, List.nil_append,
    List.append_nil, List.forall_mem_cons, List.forall_mem_append, Json.strings_string,
    Json.strings_number, strings_header, List.forall_mem_flatMap, List.not_mem_nil, names, body,
    true_and, false_implies, implies_true, and_true]
  constructor
  · intro given
    rcases given with ⟨method, url, body, headers⟩
    exact ⟨method, url, headers, body⟩
  · intro given
    exact ⟨given.method, given.url, given.body, given.headers⟩

/-- Two texts of the signed value are one payload only if they are one text. -/
theorem go_payload_eq_iff :
    utf8 (String.ofList (text goTokens (sorted Go.stringRank request.tree))) =
      request.payload Rust.stringRank ↔ request.Unseparated := by
  rw [← unseparated_tree, payload, stringRank_eq]
  have sortedStrings : (∀ s ∈ strings (sorted Rust.stringRank request.tree), unseparated s) ↔
      ∀ s ∈ strings request.tree, unseparated s :=
    forall_congr' fun s => imp_congr_left Json.mem_strings_sorted
  rw [← sortedStrings, ← Go.text_goTokens_eq_iff]
  refine ⟨fun same => String.ofList_injective (utf8_injective same), fun same => ?_⟩
  rw [same]

end PrivyRequest

/-- Go signs what Rust and Python sign exactly when no text of the request holds U+2028 or
U+2029. The body is decoded from its own JSON text, its members in any order. -/
theorem go_payload_agrees_iff (request : PrivyRequest) {Body : Type}
    (toJSONValue : Body → Except String Go.Value) (body : Body) (decoded : Go.Value)
    (read : toJSONValue body = .ok decoded) (same : Reorder decoded (Go.ofJson request.body)) :
    (∃ payload,
      Go.formatAuthorizationSignaturePayload toJSONValue (request.toGo body) = .ok payload ∧
      Rust.formatPrivyAuthorizationSignaturePayload request.toRust = .ok payload ∧
      Python.formatAuthorizationSignaturePayload request.toPython = .ok payload) ↔
      request.Unseparated := by
  rw [← PrivyRequest.go_payload_eq_iff, PrivyRequest.go_payload read same,
    PrivyRequest.rust_payload, PrivyRequest.python_payload, PrivyRequest.python_eq_rust]
  constructor
  · intro given
    rcases given with ⟨payload, go, rust, -⟩
    exact (Except.ok.inj go).trans (Except.ok.inj rust).symm
  · intro same
    exact ⟨_, congrArg Except.ok same, rfl, rfl⟩

/-- A message that ends a line in JavaScript. -/
def separatedRequest : PrivyRequest where
  version := 1
  method := "POST"
  url := "/v1/wallets/id/rpc"
  headers := [("privy-app-id", "separated")]
  body := .object [("message", .string "a\u2028b")]
  headers_distinct := by decide
  body_formed := by
    apply WellFormed.object (by decide)
    simp only [List.forall_mem_cons, List.not_mem_nil, false_implies, implies_true, and_true]
    exact .string _

theorem go_payload_agrees_separated :
    ¬ ∃ payload,
      Go.formatAuthorizationSignaturePayload (fun body : Go.Value => .ok body)
        (separatedRequest.toGo (Go.ofJson separatedRequest.body)) = .ok payload ∧
      Rust.formatPrivyAuthorizationSignaturePayload separatedRequest.toRust = .ok payload ∧
      Python.formatAuthorizationSignaturePayload separatedRequest.toPython = .ok payload := by
  rw [go_payload_agrees_iff separatedRequest (fun body : Go.Value => .ok body) _ _ rfl
    (.refl _)]
  intro given
  have read : "a\u2028b" ∈ strings separatedRequest.body := by decide +kernel
  have plain := given.body _ read
  revert plain
  decide +kernel

/-! ## The digest of a request body -/

/-- A body, its objects with distinct names and its numbers safe integers. -/
structure RequestBody where
  value : Json String Int
  formed : WellFormed Safe value

namespace RequestBody

variable {body : RequestBody}

theorem rust_text (kind : Rust.MapKind) :
    utf8 (Rust.serdeToString (Rust.sortJson kind (Rust.ofJson body.value))) =
      utf8 (String.ofList (text plainTokens (sorted Rust.stringRank body.value))) := by
  have formed : WellFormed (fun _ => True) (Rust.ofJson body.value) :=
    wellFormed_map body.formed
  rw [Rust.sortJson_eq kind formed, ← Rust.canonicalText_ofJson]
  rfl

theorem python_text : Python.canonicalRequestBody (Python.ofJson body.value) =
    .ok (utf8 (String.ofList (text plainTokens (sorted Rust.stringRank body.value)))) := by
  have alike : ∀ a b : String, Python.stringRank a ≤ Python.stringRank b ↔
      Rust.stringRank a ≤ Rust.stringRank b := fun a b => utf8Code_ordered.flatMap_le.symm
  rw [Python.canonicalRequestBody, Python.dumps_ofJson, Python.encode,
    Python.Str.toString?_ofString, Python.canonicalText, Json.sorted_congr alike]

theorem go_text : Go.marshalCanonicalJSON (Go.ofJson body.value) =
    .ok (utf8 (String.ofList (text goTokens (sorted Rust.stringRank body.value)))) := by
  rw [Go.marshalCanonicalJSON_eq, Go.canonicalText_ofJson, stringRank_eq]

end RequestBody

/-- The bytes whose digest a wallet token carries are the same in Go, Rust and Python exactly
when no string and no name of the body holds U+2028 or U+2029; Go's own two ways to write a
canonical text always agree. -/
theorem request_digest_agrees_iff (kind : Rust.MapKind) (body : RequestBody) :
    (∃ text, Go.canonicalizeJSON (Go.ofJson body.value) = some text ∧
      Go.marshalCanonicalJSON (Go.ofJson body.value) = .ok (utf8 text)) ∧
    ((∃ bytes, Go.marshalCanonicalJSON (Go.ofJson body.value) = .ok bytes ∧
      utf8 (Rust.serdeToString (Rust.sortJson kind (Rust.ofJson body.value))) = bytes ∧
      Python.canonicalRequestBody (Python.ofJson body.value) = .ok bytes) ↔
      ∀ s ∈ strings body.value, unseparated s) := by
  refine ⟨⟨_, Go.canonicalizeJSON_eq _, Go.marshalCanonicalJSON_eq _⟩, ?_⟩
  have sortedStrings : (∀ s ∈ strings (sorted Rust.stringRank body.value), unseparated s) ↔
      ∀ s ∈ strings body.value, unseparated s :=
    forall_congr' fun s => imp_congr_left Json.mem_strings_sorted
  rw [RequestBody.rust_text, RequestBody.python_text, RequestBody.go_text, ← sortedStrings,
    ← Go.text_goTokens_eq_iff]
  constructor
  · intro given
    rcases given with ⟨bytes, go, rust, -⟩
    exact String.ofList_injective (utf8_injective ((Except.ok.inj go).trans rust.symm))
  · intro same
    rw [same]
    exact ⟨_, rfl, rfl, rfl⟩

end Keychain
