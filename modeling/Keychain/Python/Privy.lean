import Keychain.Lib.JsonOrder
import Keychain.Lib.JsonString
import Keychain.Python.Runtime

/-!
The payload that the Python signer has authorized by Privy, `privy/authorization.py`, and
the body that a wallet token is bound to, `core/wallet_jwt.py`.

`json.dumps` and the comparison of strings work on code points. Values nested more deeply
than the recursion limit are not modelled.
-/

namespace Keychain.Python

open Json (sortByKey sorted text plainTokens quoted escapeChar escapeUnit decimal)

namespace Str

theorem toNat_lt (c : Char) : c.toNat < 0x110000 := by
  rcases c.valid with low | high
  · exact Nat.lt_trans low (by decide)
  · exact high.2

/-- The code point of a character. -/
def pointOf (c : Char) : Fin 0x110000 := ⟨c.toNat, toNat_lt c⟩

/-- `separator.join(parts)`. -/
def join (separator : Str) (parts : List Str) : Str :=
  ⟨separator.points.intercalate (parts.map points)⟩

/-- What `a < b` compares. -/
def rank (text : Str) : List ℕ := text.points.map Fin.val

theorem eq_of_points {a b : Str} (same : a.points = b.points) : a = b := congrArg Str.mk same

@[simp] theorem points_append {a b : Str} : (a ++ b).points = a.points ++ b.points := rfl

@[simp] theorem points_ofString {s : String} : (ofString s).points = s.toList.map pointOf := rfl

@[simp] theorem points_join {separator : Str} {parts : List Str} :
    (join separator parts).points = separator.points.intercalate (parts.map points) := rfl

theorem pointOf_injective : Function.Injective pointOf := by
  intro c d same
  have value : (pointOf c).val = (pointOf d).val := by rw [same]
  exact Char.toNat_inj.mp value

theorem toString?_ofString {s : String} : (ofString s).toString? = some s := by
  have each : ∀ characters : List Char,
      (characters.map pointOf).mapM toChar? = some characters := by
    intro characters
    induction characters with
    | nil => rfl
    | cons c characters ih =>
      have read : toChar? (pointOf c) = some c := by
        have valid : (pointOf c).val.isValidChar := c.valid
        rw [toChar?, dif_pos valid]
        exact congrArg some (Char.toNat_inj.mp rfl)
      rw [List.map_cons, List.mapM_cons, read, ih]
      rfl
  rw [toString?, points_ofString, each, Option.map_some, String.ofList_toList]

end Str

/-! ## json.dumps -/

/-- A literal with `ensure_ascii=False`. -/
def dumpsString (text : Str) : Str :=
  "\"" ++ ⟨text.points.flatMap
    (escapeUnit Str.pointOf Fin.val fun point => decide (0x20 ≤ point.val))⟩ ++ "\""

def dumpsNumber : Number → Str
  | .int value => String.ofList (decimal value)
  | .float text => text

/-- `json.dumps(value, sort_keys=True, separators=(",", ":"), ensure_ascii=False)`. -/
def dumps (value : Value) : Str :=
  value.walk {
    null := "null"
    bool value := if value then "true" else "false"
    number := dumpsNumber
    string := dumpsString
    array items := "[" ++ Str.join "," items ++ "]"
    object members := "\x7b" ++ Str.join "," ((sortByKey Str.rank members).map fun member =>
      dumpsString member.1 ++ ":" ++ member.2) ++ "\x7d" }

/-! ## authorization.py -/

/-- `members[name] = value`. -/
def Dict.set (members : Dict) (name : String) (value : Value) : Dict :=
  if members.any fun member => member.1 = Str.ofString name then
    members.map fun member => if member.1 = Str.ofString name then (member.1, value) else member
  else
    members ++ [(Str.ofString name, value)]

def formatAuthorizationSignaturePayload (request : Dict) : Except Exc Bytes :=
  let body := request.get "body"
  let value := if body.isEmptyObject then request.set "body" (.string "") else request
  encode (dumps (.object value))

/-! ## wallet_jwt.py -/

/-- `canonical_request_body` -/
def canonicalRequestBody (body : Value) : Except Exc Bytes := encode (dumps body)

/-! ## Values of scalar strings and integers -/

theorem dumpsString_ofString {s : String} :
    dumpsString (.ofString s) = .ofString (String.ofList (quoted s.toList)) := by
  have character : ∀ c, escapeUnit Str.pointOf Fin.val (fun point => decide (0x20 ≤ point.val))
      (Str.pointOf c) = (escapeChar c).map Str.pointOf := by
    intro c
    apply Json.escapeUnit_eq
    · exact fun escape _ same => Str.pointOf_injective same
    · rfl
    · rfl
  apply Str.eq_of_points
  simp only [dumpsString, Str.points_append, Str.points_ofString, List.flatMap_map, character,
    quoted, String.toList_ofList, List.map_append, List.map_cons, List.map_flatMap]
  rfl

/-- The value of a JSON text of scalar strings and integers. -/
def ofJson : Json String Int → Value := Json.map Str.ofString .int

theorem ofJson_array {items : List (Json String Int)} :
    ofJson (.array items) = .array (items.map ofJson) := Json.map_array

theorem ofJson_object {members : List (String × Json String Int)} :
    ofJson (.object members) =
      .object (members.map fun m => (Str.ofString m.1, ofJson m.2)) := Json.map_object

theorem dumps_array {items : List Value} :
    dumps (.array items) = "[" ++ Str.join "," (items.map dumps) ++ "]" := Json.walk_array

theorem dumps_object {members : List (Str × Value)} :
    dumps (.object members) = "\x7b" ++ Str.join "," ((sortByKey Str.rank members).map fun m =>
      dumpsString m.1 ++ ":" ++ dumps m.2) ++ "\x7d" := by
  rw [← Json.map_sortByKey_value (f := dumps) (h := fun m => dumpsString m.1 ++ ":" ++ m.2)]
  exact Json.walk_object

/-- The order of strings in Python. -/
def stringRank (s : String) : List ℕ := s.toList.map Char.toNat

theorem rank_ofString {s : String} : (Str.ofString s).rank = stringRank s := by
  simp only [Str.rank, Str.points_ofString, List.map_map]
  rfl

/-- The text of a value, with the members of objects in the order of their code points. -/
def canonicalText (value : Json String Int) : List Char :=
  text plainTokens (sorted stringRank value)

theorem dumps_ofJson (value : Json String Int) :
    dumps (ofJson value) = .ofString (String.ofList (canonicalText value)) := by
  induction value using Json.induct with
  | null => rfl
  | bool value =>
    cases value with
    | true => rfl
    | false => rfl
  | number n => rfl
  | string s => exact dumpsString_ofString
  | array items ih =>
    have each : items.map (dumps ∘ ofJson) =
        items.map fun item => Str.ofString (String.ofList (canonicalText item)) :=
      List.map_congr_left ih
    rw [ofJson_array, dumps_array, List.map_map, each]
    apply Str.eq_of_points
    rw [canonicalText, Json.text_sorted_array]
    simp [Json.map_intercalate, canonicalText, Function.comp_def]
  | object members ih =>
    have ordered : sortByKey Str.rank (members.map fun m => (Str.ofString m.1, ofJson m.2)) =
        (sortByKey stringRank members).map fun m => (Str.ofString m.1, ofJson m.2) := by
      apply Json.sortByKey_map
      intro m _ m' _
      rw [rank_ofString, rank_ofString]
    have each : (sortByKey stringRank members).map (fun m =>
        dumpsString (.ofString m.1) ++ ":" ++ dumps (ofJson m.2)) =
        (sortByKey stringRank members).map fun m =>
          Str.ofString (String.ofList (quoted m.1.toList)) ++ ":" ++
            Str.ofString (String.ofList (canonicalText m.2)) := by
      apply List.map_congr_left
      intro m member
      rw [ih m (Json.sortByKey_perm.mem_iff.mp member), dumpsString_ofString]
    rw [ofJson_object, dumps_object, ordered, List.map_map]
    simp only [Function.comp_def, each]
    apply Str.eq_of_points
    rw [canonicalText, Json.text_sorted_object]
    simp [Json.map_intercalate, canonicalText, Function.comp_def]
    rfl

end Keychain.Python
