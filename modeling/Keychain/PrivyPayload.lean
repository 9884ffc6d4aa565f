import Keychain.Python.Privy
import Keychain.Rust.Privy
import Keychain.TypeScript.Privy

/-!
The Privy authorization payload across the ports.

A `PrivyRequest` is a request that every port can hold: texts of scalar values and whole
numbers that a double represents. Each port signs the text of one value (`tree`), with the
members of objects in the order of its own strings.
-/

namespace Keychain

open Json (WellFormed Reorder sorted text plainTokens plainTokens_readable everyObject alike)

/-- A double represents the whole numbers below `2 ^ 53`. -/
def Safe (n : Int) : Prop := n.natAbs < 0x20000000000000

structure PrivyRequest where
  version : UInt8
  method : String
  url : String
  headers : List (String × String)
  body : Json String Int
  headers_distinct : (headers.map Prod.fst).Nodup
  body_formed : WellFormed Safe body

namespace PrivyRequest

def toRust (request : PrivyRequest) : Rust.PrivyAuthorizationRequestInput where
  version := request.version
  method := request.method
  url := request.url
  body := Rust.ofJson request.body
  headers := request.headers

def toTypeScript (request : PrivyRequest) : TypeScript.PrivyAuthorizationRequestInput where
  body := TypeScript.ofJson request.body
  headers := request.headers.map fun header => (.ofString header.1, .ofString header.2)
  method := .ofString request.method
  url := .ofString request.url
  version := .safe request.version.toNat

/-- The `request` dict of `prepare_authorization_headers`, by its body. -/
def pythonDict (request : PrivyRequest) (body : Python.Value) : Python.Dict :=
  [("version", .number (.int request.version.toNat)), ("method", .string request.method),
    ("url", .string request.url), ("body", body),
    ("headers", .object (request.headers.map fun header =>
      (.ofString header.1, .string (.ofString header.2))))]

def toPython (request : PrivyRequest) : Python.Dict :=
  request.pythonDict (Python.ofJson request.body)

/-- An empty object is sent as no body. -/
def sentBody (request : PrivyRequest) : Json String Int :=
  if request.body.isEmptyObject then .string "" else request.body

def members (request : PrivyRequest) : List (String × Json String Int) :=
  [("version", .number request.version.toNat), ("method", .string request.method),
    ("url", .string request.url), ("body", request.sentBody),
    ("headers", .object (request.headers.map fun header => (header.1, .string header.2)))]

/-- The value that the ports sign. -/
def tree (request : PrivyRequest) : Json String Int := .object request.members

/-- The text of the value, with the members of objects in this order. -/
def payload (request : PrivyRequest) (rank : String → List ℕ) : Bytes :=
  utf8 (String.ofList (text plainTokens (sorted rank request.tree)))

variable {request : PrivyRequest}

/-! ## The payloads -/

theorem map_headers {S N : Type} {f : String → S} {g : Int → N}
    {headers : List (String × String)} :
    Json.map f g (.object (headers.map fun header => (header.1, .string header.2))) =
      .object (headers.map fun header => (f header.1, .string (f header.2))) := by
  rw [Json.map_object, List.map_map]
  rfl

theorem map_sentBody {S N : Type} {f : String → S} {g : Int → N} :
    Json.map f g request.sentBody =
      if (Json.map f g request.body).isEmptyObject then .string (f "")
      else Json.map f g request.body := by
  rw [Json.isEmptyObject_map, sentBody]
  split
  · rfl
  · rfl

theorem map_tree {S N : Type} {f : String → S} {g : Int → N} :
    Json.map f g request.tree =
      .object [(f "version", .number (g request.version.toNat)),
        (f "method", .string (f request.method)), (f "url", .string (f request.url)),
        (f "body", if (Json.map f g request.body).isEmptyObject then .string (f "")
          else Json.map f g request.body),
        (f "headers", .object (request.headers.map fun header =>
          (f header.1, .string (f header.2))))] := by
  rw [tree, Json.map_object, ← map_sentBody, ← map_headers]
  rfl

theorem rust_payload : Rust.formatPrivyAuthorizationSignaturePayload request.toRust =
    .ok (request.payload Rust.stringRank) := by
  have value : Rust.getMut request.toRust.toValue "body" (fun body =>
      if body.isEmptyObject then .string "" else body) = Rust.ofJson request.tree := by
    rw [Rust.ofJson, map_tree]
    simp [Rust.getMut, Rust.PrivyAuthorizationRequestInput.toValue, toRust, Rust.ofJson]
  rw [Rust.formatPrivyAuthorizationSignaturePayload, value, Rust.canonicalizeJson_eq,
    Rust.canonicalText_ofJson]
  rfl

theorem python_payload : Python.formatAuthorizationSignaturePayload request.toPython =
    .ok (request.payload Python.stringRank) := by
  have got : request.toPython.get "body" = Python.ofJson request.body := rfl
  have set : request.toPython.set "body" (.string "") = request.pythonDict (.string "") := rfl
  have value : .object (if (Python.ofJson request.body).isEmptyObject then
      request.pythonDict (.string "") else request.toPython) = Python.ofJson request.tree := by
    rw [Python.ofJson, map_tree]
    split
    · rfl
    · rfl
  rw [Python.formatAuthorizationSignaturePayload]
  simp only [got, set, value, Python.dumps_ofJson, Python.encode, Python.Str.toString?_ofString]
  rfl

theorem members_distinct : (request.members.map Prod.fst).Nodup := by
  change ["version", "method", "url", "body", "headers"].Nodup
  decide

theorem formed : WellFormed Safe request.tree := by
  have version : Safe request.version.toNat := by
    have small := request.version.toNat_lt
    rw [Safe]
    omega
  have headers : WellFormed Safe
      (.object (request.headers.map fun header => (header.1, .string header.2))) := by
    apply WellFormed.object
    · rw [List.map_map]
      exact request.headers_distinct
    · exact List.forall_mem_map.mpr fun _ _ => .string _
  have body : WellFormed Safe request.sentBody := by
    rw [sentBody]
    split
    · exact .string _
    · exact request.body_formed
  apply WellFormed.object members_distinct
  simp only [members, List.forall_mem_cons, List.not_mem_nil, false_implies, implies_true,
    and_true]
  exact ⟨.number version, .string _, .string _, body, headers⟩

/-- The members in the order of the TypeScript record. -/
def recordMembers (request : PrivyRequest) : List (String × Json String Int) :=
  [("body", request.sentBody),
    ("headers", .object (request.headers.map fun header => (header.1, .string header.2))),
    ("method", .string request.method), ("url", .string request.url),
    ("version", .number request.version.toNat)]

theorem recordMembers_perm : request.members.Perm request.recordMembers := by
  have back : ∀ v m u b h : String × Json String Int, [v, m, u, b, h].Perm [b, h, m, u, v] := by
    intro v m u b h
    have swapped : ([v, m, u] ++ [b, h]).Perm ([b, h] ++ [v, m, u]) := List.perm_append_comm
    have last : ([v] ++ [m, u]).Perm ([m, u] ++ [v]) := List.perm_append_comm
    exact swapped.trans (last.append_left [b, h])
  exact back _ _ _ _ _

theorem signed_toTypeScript :
    request.toTypeScript.signed = TypeScript.ofJson (.object request.recordMembers) := by
  have body : (if request.toTypeScript.body.isEmptyObject then .string (.ofString "")
      else request.toTypeScript.body) = TypeScript.ofJson request.sentBody := map_sentBody.symm
  have headers : Json.object (request.toTypeScript.headers.map fun header =>
      (header.1, .string header.2)) = TypeScript.ofJson (.object (request.headers.map fun header =>
        (header.1, .string header.2))) := by
    rw [TypeScript.ofJson, map_headers, toTypeScript, List.map_map]
    rfl
  rw [TypeScript.PrivyAuthorizationRequestInput.signed, body, headers]
  have whole : TypeScript.ofJson (.object request.recordMembers) =
      .object (request.recordMembers.map fun m => (.ofString m.1, TypeScript.ofJson m.2)) :=
    TypeScript.ofJson_object
  rw [whole]
  rfl

theorem typeScript_payload :
    TypeScript.formatPrivyAuthorizationSignaturePayload request.toTypeScript =
      .ok (request.payload TypeScript.stringRank) := by
  have same := ((Reorder.here request.recordMembers_perm).sorted_eq
    TypeScript.stringRank_injective request.formed).2
  have written : ∃ rest, TypeScript.canonicalText request.tree = '\x7b' :: rest :=
    ⟨_, Json.text_sorted_object⟩
  have value : TypeScript.canonicalizeJson request.toTypeScript.signed =
      some (.ofString (String.ofList (TypeScript.canonicalText request.tree))) := by
    rw [signed_toTypeScript, TypeScript.canonicalizeJson_ofJson, TypeScript.canonicalText, ← same]
    rfl
  have truthy : TypeScript.truthy (some (.ofString (String.ofList
      (TypeScript.canonicalText request.tree)))) = true := by
    obtain ⟨rest, written⟩ := written
    rw [written]
    simp [TypeScript.truthy, TypeScript.codeUnitsOf]
  rw [TypeScript.formatPrivyAuthorizationSignaturePayload, value]
  simp only [truthy, if_true, Option.getD_some, TypeScript.textEncode_ofString]
  rfl

/-! ## Agreement -/

/-- Python signs what Rust signs. -/
theorem python_eq_rust : request.payload Python.stringRank = request.payload Rust.stringRank := by
  have alike : ∀ a b : String, Python.stringRank a ≤ Python.stringRank b ↔
      Rust.stringRank a ≤ Rust.stringRank b := fun a b => utf8Code_ordered.flatMap_le.symm
  rw [payload, payload, Json.sorted_congr alike]

/-- No two of these names part at a character from U+E000..U+FFFF and one above it. -/
def uncrossed (names : List String) : Bool :=
  names.all fun a => names.all fun b => !crosses a.toList b.toList

/-- No object of the body has names that TypeScript orders differently, and neither do the
headers. -/
def Uncrossed (request : PrivyRequest) : Prop :=
  everyObject uncrossed request.body ∧ uncrossed (request.headers.map Prod.fst)

theorem alike_eq_uncrossed : alike Rust.stringRank TypeScript.stringRank = uncrossed := by
  have pair : ∀ a b : String, (Rust.stringRank a ≤ Rust.stringRank b ↔
      TypeScript.stringRank a ≤ TypeScript.stringRank b) ↔
      crosses a.toList b.toList = false ∧ crosses b.toList a.toList = false := by
    intro a b
    rw [← utf16_le_alike, ← utf8Code_ordered.flatMap_le]
    rfl
  funext names
  rw [Bool.eq_iff_iff, Json.alike_iff]
  simp only [pair, uncrossed, List.all_eq_true, Bool.not_eq_true']
  refine ⟨fun given a member b member' => (given a member b member').1, fun given => ?_⟩
  exact fun a member b member' => ⟨given a member b member', given b member' a member⟩

theorem everyObject_tree {ok : List String → Bool} :
    everyObject ok request.tree ↔ ok ["version", "method", "url", "body", "headers"] ∧
      everyObject ok request.sentBody ∧ ok (request.headers.map Prod.fst) := by
  have headers : everyObject ok (.object (request.headers.map fun header =>
      (header.1, (.string header.2 : Json String Int)))) ↔
      ok (request.headers.map Prod.fst) := by
    rw [Json.everyObject_object, List.map_map, List.forall_mem_map]
    exact ⟨fun given => given.1, fun given => ⟨given, fun _ _ => rfl⟩⟩
  rw [tree, Json.everyObject_object]
  simp only [members, List.forall_mem_cons, List.not_mem_nil, false_implies, implies_true,
    and_true, headers]
  refine ⟨fun given => ⟨given.1, given.2.2.2.2⟩, fun given => ⟨given.1, rfl, rfl, rfl, given.2⟩⟩

/-- A body that is not sent has no names. -/
theorem everyObject_sentBody {ok : List String → Bool} (empty : ok [] = true) :
    everyObject ok request.sentBody = everyObject ok request.body := by
  unfold sentBody
  split
  · rename_i isEmpty
    cases shape : request.body with
    | object members =>
      rw [shape] at isEmpty
      cases members with
      | nil =>
        have body : everyObject ok (.object ([] : List (String × Json String Int))) := by
          rw [Json.everyObject_object]
          exact ⟨empty, fun _ member => absurd member List.not_mem_nil⟩
        exact body.symm
      | cons m members => cases isEmpty
    | _ =>
      rw [shape] at isEmpty
      cases isEmpty
  · rfl

/-- Rust and TypeScript sign the same bytes just when they order the names alike. -/
theorem payload_eq_iff :
    request.payload Rust.stringRank = request.payload TypeScript.stringRank ↔
      request.Uncrossed := by
  have separates : Function.Injective Rust.stringRank := by
    rw [← Rust.strRank_eq]
    exact Rust.strRank_injective
  have texts : request.payload Rust.stringRank = request.payload TypeScript.stringRank ↔
      sorted Rust.stringRank request.tree = sorted TypeScript.stringRank request.tree := by
    refine ⟨fun same => ?_, fun same => by rw [payload, payload, same]⟩
    have text := String.ofList_injective (utf8_injective same)
    exact Json.text_injective plainTokens_readable request.formed.sorted request.formed.sorted text
  have fields : uncrossed ["version", "method", "url", "body", "headers"] := by decide +kernel
  rw [texts, Json.sorted_eq_iff_alike separates TypeScript.stringRank_injective request.formed,
    alike_eq_uncrossed, everyObject_tree, everyObject_sentBody rfl]
  exact ⟨fun given => given.2, fun given => ⟨fields, given⟩⟩

end PrivyRequest

/-- The three ports sign the same bytes exactly when no object of the body and no two headers
have names that part at a character from U+E000..U+FFFF and one above it. -/
theorem payloads_agree_iff (request : PrivyRequest) :
    (∃ payload, Rust.formatPrivyAuthorizationSignaturePayload request.toRust = .ok payload ∧
      TypeScript.formatPrivyAuthorizationSignaturePayload request.toTypeScript = .ok payload ∧
      Python.formatAuthorizationSignaturePayload request.toPython = .ok payload) ↔
      request.Uncrossed := by
  rw [← PrivyRequest.payload_eq_iff, PrivyRequest.rust_payload, PrivyRequest.typeScript_payload,
    PrivyRequest.python_payload, PrivyRequest.python_eq_rust]
  refine ⟨fun given => ?_, fun same => ⟨_, rfl, congrArg Except.ok same.symm, rfl⟩⟩
  obtain ⟨payload, rust, typeScript, -⟩ := given
  exact (Except.ok.inj rust).trans (Except.ok.inj typeScript).symm

/-- A body whose names part at U+FF21 and U+1F600. -/
def crossedRequest : PrivyRequest where
  version := 1
  method := "POST"
  url := "/v1/wallets/id/rpc"
  headers := [("privy-app-id", "app")]
  body := .object [("Ａ", .number 1), ("😀", .number 2)]
  headers_distinct := by decide
  body_formed := by
    apply WellFormed.object (by decide)
    simp only [List.forall_mem_cons, List.not_mem_nil, false_implies, implies_true, and_true]
    exact ⟨.number (by rw [Safe]; omega), .number (by rw [Safe]; omega)⟩

def crossedText (body : String) : String :=
  "\x7b\"body\":" ++ body ++ ",\"headers\":\x7b\"privy-app-id\":\"app\"\x7d," ++
    "\"method\":\"POST\",\"url\":\"/v1/wallets/id/rpc\",\"version\":1\x7d"

/-- Rust sorts the two names by code point, TypeScript by code unit. -/
theorem crossedRequest_payloads :
    Rust.formatPrivyAuthorizationSignaturePayload crossedRequest.toRust =
        .ok (utf8 (crossedText "\x7b\"Ａ\":1,\"😀\":2\x7d")) ∧
      TypeScript.formatPrivyAuthorizationSignaturePayload crossedRequest.toTypeScript =
        .ok (utf8 (crossedText "\x7b\"😀\":2,\"Ａ\":1\x7d")) ∧
      ¬ ∀ request : PrivyRequest, ∃ payload,
        Rust.formatPrivyAuthorizationSignaturePayload request.toRust = .ok payload ∧
        TypeScript.formatPrivyAuthorizationSignaturePayload request.toTypeScript = .ok payload ∧
        Python.formatAuthorizationSignaturePayload request.toPython = .ok payload := by
  have rust : crossedRequest.payload Rust.stringRank =
      utf8 (crossedText "\x7b\"Ａ\":1,\"😀\":2\x7d") := by decide +kernel
  have typeScript : crossedRequest.payload TypeScript.stringRank =
      utf8 (crossedText "\x7b\"😀\":2,\"Ａ\":1\x7d") := by decide +kernel
  have apart : crossedRequest.payload Rust.stringRank ≠
      crossedRequest.payload TypeScript.stringRank := by
    rw [rust, typeScript]
    decide +kernel
  rw [PrivyRequest.rust_payload, PrivyRequest.typeScript_payload, rust, typeScript]
  refine ⟨rfl, rfl, fun always => ?_⟩
  obtain ⟨payload, rust', typeScript', -⟩ := always crossedRequest
  rw [PrivyRequest.rust_payload] at rust'
  rw [PrivyRequest.typeScript_payload] at typeScript'
  exact apart ((Except.ok.inj rust').trans (Except.ok.inj typeScript').symm)

end Keychain
