import Keychain.Lib.JsonOrder
import Keychain.Lib.JsonString
import Keychain.Rust.Crates
import Keychain.Rust.Error

/-!
The canonical JSON texts of the Rust signers.

`privy/authorization.rs` writes the text of a value itself, with the entries of every
object sorted. `wallet_jwt.rs` rebuilds the value with its keys inserted in order and has
`serde_json` write it. A `serde_json::Map` iterates by key or by insertion, depending on
how the crate is built (`MapKind`), and the two paths must not depend on it.

Both write the text of the sorted value (`canonicalizeJson_eq`, `sortJson_eq`), which
reads back (`serdeTokens_readable`).
-/

namespace Keychain.Rust

open Json (Tokens WellFormed Reorder sortByKey sorted text quoted isNumberChar mapM_some)

/-- The order of `str`: byte by byte. -/
def strRank (s : String) : List ℕ := (utf8 s).map UInt8.toNat

theorem strRank_injective : Function.Injective strRank := by
  have bytes : Function.Injective (List.map UInt8.toNat) :=
    List.map_injective_iff.mpr fun _ _ => UInt8.toNat_inj.mp
  exact bytes.comp utf8_injective

/-! ## serde_json -/

/-- A number prints as a word of digits, signs, points and exponents. -/
def Number.Printed (n : Number) : Prop :=
  n.text.toList ≠ [] ∧ ∀ c ∈ n.text.toList, isNumberChar c = true

/-- A value as `serde_json` holds it. -/
def JsonValue : Type := { value : Value // WellFormed Number.Printed value }

def serdeTokens : Tokens String Number where
  string s := quoted s.toList
  number n := n.text.toList

/-- `serde_json::to_string`, which does not fail on a `Value`. -/
def serdeToString (value : Value) : String := String.ofList (text serdeTokens value)

theorem serdeTokens_readable : serdeTokens.Readable Number.Printed where
  string_inj same := Json.quoted_toList_inj same
  string_head _ := ⟨_, rfl⟩
  number_inj _ _ same := congrArg Number.mk (String.toList_injective same)
  number_ne printed := printed.1
  number_chars printed := printed.2

/-- The order in which a `serde_json::Map` iterates. -/
inductive MapKind where
  | btree
  /-- with the feature `preserve_order` -/
  | index
  deriving DecidableEq

namespace MapKind

variable {β : Type}

/-- A new key goes in front of this one. -/
def before (kind : MapKind) (key other : String) : Bool :=
  match kind with
  | .btree => strRank key < strRank other
  | .index => false

/-- `map.insert(key, value)`. -/
def insert (kind : MapKind) (key : String) (value : β) : List (String × β) → List (String × β)
  | [] => [(key, value)]
  | entry :: map =>
    if entry.1 = key then (key, value) :: map
    else if kind.before key entry.1 then (key, value) :: entry :: map
    else entry :: kind.insert key value map

/-- A key above all others ends the map, whichever it is. -/
theorem insert_last {kind : MapKind} {key : String} {value : β} {map : List (String × β)}
    (last : ∀ entry ∈ map, strRank entry.1 < strRank key) :
    kind.insert key value map = map ++ [(key, value)] := by
  induction map with
  | nil => rfl
  | cons entry map ih =>
    rw [List.forall_mem_cons] at last
    have other : entry.1 ≠ key := fun same => absurd last.1 (by rw [same]; exact lt_irrefl _)
    have behind : kind.before key entry.1 = false := by
      cases kind with
      | btree => exact decide_eq_false (lt_asymm last.1)
      | index => rfl
    rw [insert, if_neg other, behind, ih last.2]
    rfl

end MapKind

/-! ## privy/authorization.rs -/

def canonicalizeJson (value : Value) : Option String :=
  value.walk {
    null := some "null"
    bool value := some (if value then "true" else "false")
    number value := some value.text
    string value := some (serdeToString (.string value))
    array values := do
      let values ← values.mapM id
      pure ("[" ++ ",".intercalate values ++ "]")
    object values := do
      let entries := sortByKey strRank values
      let entries ← entries.mapM fun entry => do
        let key := serdeToString (.string entry.1)
        let value ← entry.2
        pure (key ++ ":" ++ value)
      pure ("\x7b" ++ ",".intercalate entries ++ "\x7d") }

theorem canonicalizeJson_array {values : List Value} :
    canonicalizeJson (.array values) = (do
      let values ← values.mapM canonicalizeJson
      pure ("[" ++ ",".intercalate values ++ "]")) := by
  have walked : (values.map canonicalizeJson).mapM id = values.mapM canonicalizeJson :=
    List.mapM_map
  rw [← walked]
  exact Json.walk_array

theorem canonicalizeJson_object {values : List (String × Value)} :
    canonicalizeJson (.object values) = (do
      let entries ← (sortByKey strRank values).mapM fun entry => do
        let value ← canonicalizeJson entry.2
        pure (serdeToString (.string entry.1) ++ ":" ++ value)
      pure ("\x7b" ++ ",".intercalate entries ++ "\x7d")) := by
  have walked : (sortByKey strRank (values.map fun entry => (entry.1, canonicalizeJson entry.2))) =
      (sortByKey strRank values).map fun entry => (entry.1, canonicalizeJson entry.2) :=
    Json.sortByKey_map_value
  have written {f : String × Option String → Option String} :
      (sortByKey strRank (values.map fun entry => (entry.1, canonicalizeJson entry.2))).mapM f =
        (sortByKey strRank values).mapM fun entry => f (entry.1, canonicalizeJson entry.2) := by
    rw [walked, List.mapM_map]
    rfl
  rw [← written (f := fun entry => do
    let value ← entry.2
    pure (serdeToString (.string entry.1) ++ ":" ++ value))]
  exact Json.walk_object

/-- The text the two paths agree on. -/
def canonicalText (value : Value) : List Char := text serdeTokens (sorted strRank value)

/-- `canonicalize_json` writes the sorted value. -/
theorem canonicalizeJson_eq (value : Value) :
    canonicalizeJson value = some (String.ofList (canonicalText value)) := by
  induction value using Json.induct with
  | null => rfl
  | bool value =>
    cases value with
    | true => rfl
    | false => rfl
  | number n => exact congrArg some String.ofList_toList.symm
  | string s => rfl
  | array items ih =>
    rw [canonicalizeJson_array, mapM_some ih]
    apply congrArg some
    apply String.toList_injective
    rw [canonicalText, Json.text_sorted_array]
    simp [String.toList_intercalate, Function.comp_def, canonicalText]
  | object members ih =>
    have each : ∀ m ∈ sortByKey strRank members,
        (do
          let value ← canonicalizeJson m.2
          pure (serdeToString (.string m.1) ++ ":" ++ value)) =
          some (serdeToString (.string m.1) ++ ":" ++ String.ofList (canonicalText m.2)) := by
      intro m member
      rw [ih m (Json.sortByKey_perm.mem_iff.mp member)]
      rfl
    rw [canonicalizeJson_object, mapM_some each]
    apply congrArg some
    apply String.toList_injective
    rw [canonicalText, Json.text_sorted_object]
    simp [String.toList_intercalate, Function.comp_def, canonicalText, serdeToString]
    rfl

/-! ## wallet_jwt.rs -/

/-- Insert the keys of a map in this order. -/
def insertKeys {β : Type} (kind : MapKind) (map : List (String × β))
    (sorted : List (String × β)) (keys : List String) : List (String × β) :=
  keys.foldl (fun sorted key =>
    match map.lookup key with
    | some value => kind.insert key value sorted
    | none => sorted) sorted

/-- Recursively sort JSON object keys for deterministic hashing. -/
def sortJson (kind : MapKind) (value : Value) : Value :=
  value.walk {
    null := .null
    bool := .bool
    number := .number
    string := .string
    array := .array
    object map :=
      let keys := (map.map Prod.fst).insertionSort fun a b => strRank a ≤ strRank b
      .object (insertKeys kind map [] keys) }

/-- Compute the request body hash for wallet authentication, if required. -/
def computeReqHash [Crates] (kind : MapKind) (body : Option Value) :
    Except SignerError (Option String) :=
  match body with
  | none => .ok none
  | some .null => .ok none
  | some (.object []) => .ok none
  | some body =>
    let json := serdeToString (sortJson kind body)
    .ok (some (Crates.hexEncode (Crates.sha256 (utf8 json)).1))

section

variable {β : Type} {kind : MapKind} {map : List (String × β)}

theorem insertKeys_ascending {sorted rest : List (String × β)}
    (found : ∀ m ∈ rest, map.lookup m.1 = some m.2)
    (ascending : (sorted ++ rest).Pairwise fun m m' => strRank m.1 < strRank m'.1) :
    insertKeys kind map sorted (rest.map Prod.fst) = sorted ++ rest := by
  induction rest generalizing sorted with
  | nil => simp [insertKeys]
  | cons m rest ih =>
    rw [List.forall_mem_cons] at found
    have last : ∀ entry ∈ sorted, strRank entry.1 < strRank m.1 := by
      intro entry member
      exact (List.pairwise_append.mp ascending).2.2 entry member m List.mem_cons_self
    have step : sorted ++ m :: rest = (sorted ++ [m]) ++ rest := by simp
    rw [step] at ascending ⊢
    rw [← ih found.2 ascending]
    simp only [insertKeys, List.map_cons, List.foldl_cons, found.1, MapKind.insert_last last]

theorem lookup_of_mem (distinct : (map.map Prod.fst).Nodup) {m : String × β} (member : m ∈ map) :
    map.lookup m.1 = some m.2 := by
  rw [List.lookup_eq_some_iff]
  obtain ⟨before, after, rfl⟩ := List.append_of_mem member
  refine ⟨before, after, rfl, ?_⟩
  intro other early
  rw [List.map_append, List.map_cons, List.nodup_append] at distinct
  have apart := distinct.2.2 other.1 (List.mem_map_of_mem early) m.1 List.mem_cons_self
  exact bne_iff_ne.mpr apart.symm

/-- Inserting the keys of a map in order lists its entries in that order. -/
theorem insertKeys_sorted (distinct : (map.map Prod.fst).Nodup) :
    insertKeys kind map [] ((map.map Prod.fst).insertionSort fun a b => strRank a ≤ strRank b) =
      sortByKey strRank map := by
  have keys : (map.map Prod.fst).insertionSort (fun a b => strRank a ≤ strRank b) =
      (sortByKey strRank map).map Prod.fst :=
    (List.map_insertionSort _ _ Prod.fst map fun _ _ _ _ => Iff.rfl).symm
  have distinct' : ((sortByKey strRank map).map Prod.fst).Nodup :=
    (Json.sortByKey_perm.map Prod.fst).nodup_iff.mpr distinct
  have ascending : (sortByKey strRank map).Pairwise fun m m' => strRank m.1 < strRank m'.1 := by
    apply (Json.sortByKey_pairwise.and (List.pairwise_map.mp distinct')).imp
    intro m m' given
    exact lt_of_le_of_ne given.1 fun same => given.2 (strRank_injective same)
  rw [keys]
  exact insertKeys_ascending
    (fun m member => lookup_of_mem distinct (Json.sortByKey_perm.mem_iff.mp member)) ascending

end

/-- `sort_json` sorts, whatever the order of the maps. -/
theorem sortJson_eq (kind : MapKind) {value : Value} {valid : Number → Prop}
    (formed : WellFormed valid value) : sortJson kind value = sorted strRank value := by
  induction formed with
  | null => rfl
  | bool value => rfl
  | number allowed => rfl
  | string value => rfl
  | @array items _ ih =>
    rw [sortJson, Json.walk_array, Json.sorted_array]
    exact congrArg Json.array (List.map_congr_left ih)
  | @object members distinct _ ih =>
    have inside : (members.map fun m => (m.1, sortJson kind m.2)) =
        members.map fun m => (m.1, sorted strRank m.2) :=
      List.map_congr_left fun m member => Prod.ext rfl (ih m member)
    have names : ((members.map fun m => (m.1, sorted strRank m.2)).map Prod.fst).Nodup := by
      rw [List.map_map]
      exact distinct
    rw [sortJson, Json.walk_object, Json.sorted_object, ← Json.sortByKey_map_value,
      ← insertKeys_sorted names, ← inside]
    rfl

/-! ## Canonicity -/

/-- Reordered values have one canonical text, and no others do. -/
theorem canonicalText_eq_iff (v w : JsonValue) :
    canonicalText v.1 = canonicalText w.1 ↔ Reorder v.1 w.1 := by
  rw [← Json.sorted_eq_iff_reorder strRank_injective v.2]
  refine ⟨fun same => ?_, fun same => congrArg (text serdeTokens) same⟩
  exact Json.text_injective serdeTokens_readable v.2.sorted w.2.sorted same

theorem serdeToString_sortJson (kind : MapKind) (v : JsonValue) :
    serdeToString (sortJson kind v.1) = String.ofList (canonicalText v.1) := by
  rw [sortJson_eq kind v.2]
  rfl

/-- Both paths write one text, whichever way the maps iterate; reordering keys at any depth
does not change it, and only values that are equal up to the order of keys share it. -/
theorem canonicalizeJson_canonical (kind : MapKind) (v w : JsonValue) :
    canonicalizeJson v.1 = some (serdeToString (sortJson kind v.1)) ∧
      (Reorder v.1 w.1 → canonicalizeJson v.1 = canonicalizeJson w.1 ∧
        serdeToString (sortJson kind v.1) = serdeToString (sortJson kind w.1)) ∧
      (canonicalizeJson v.1 = canonicalizeJson w.1 → Reorder v.1 w.1) := by
  refine ⟨?_, fun reorder => ?_, fun same => ?_⟩
  · rw [canonicalizeJson_eq, serdeToString_sortJson]
  · have texts := (canonicalText_eq_iff v w).mpr reorder
    rw [canonicalizeJson_eq, canonicalizeJson_eq, serdeToString_sortJson, serdeToString_sortJson,
      texts]
    exact ⟨rfl, rfl⟩
  · rw [canonicalizeJson_eq, canonicalizeJson_eq] at same
    exact (canonicalText_eq_iff v w).mp (String.ofList_injective (Option.some.inj same))

example : canonicalizeJson (.object [("b", .array [.null, .object []]), ("a", .number ⟨"1"⟩)]) =
    some "\x7b\"a\":1,\"b\":[null,\x7b\x7d]\x7d" := by decide +kernel

/-! ## The request hash -/

/-- The bodies that have no hash. -/
def Unhashed : Value → Prop
  | .null | .object [] => True
  | _ => False

theorem computeReqHash_eq [Crates] {kind : MapKind} {body : Value} (hashed : ¬ Unhashed body) :
    computeReqHash kind (some body) = .ok (some (Crates.hexEncode
      (Crates.sha256 (utf8 (serdeToString (sortJson kind body)))).1)) := by
  unfold computeReqHash
  split
  · rename_i same
    cases same
  · rename_i same
    cases same
    exact absurd trivial hashed
  · rename_i same
    cases same
    exact absurd trivial hashed
  · rename_i same
    cases same
    rfl

end Keychain.Rust
