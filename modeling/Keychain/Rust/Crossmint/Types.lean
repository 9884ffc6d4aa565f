import Keychain.Rust.RemoteUtil

/-!
`crossmint/types.rs`: the response types and their derived `Deserialize` from a
`serde_json::Value`.

A derived struct reads an object by field name and an array by position; a
missing field with a default takes it, and `null` is the absent `Option`.
-/

namespace Keychain.Rust.Crossmint

/-! ## Derived deserialization -/

/-- The fields of a derived struct, in declaration order. -/
def structFields (names : List String) : Value → Option (List (Option Value))
  | .object members => some (names.map fun name => members.lookup name)
  | .array items =>
    if items.length ≤ names.length then
      some ((List.range names.length).map fun i => items[i]?)
    else
      none
  | _ => none

/-- An `Option` field with a default. -/
def optionField {T : Type} (decode : Value → Option T) : Option Value → Option (Option T)
  | none | some .null => some none
  | some value => (decode value).map some

/-- A `Vec` field with a default. -/
def vecField {T : Type} (decode : Value → Option T) : Option Value → Option (List T)
  | none => some []
  | some (.array items) => items.mapM decode
  | some _ => none

/-! ## Responses -/

structure OnChainData where
  transaction : Option String
  txId : Option String
  deriving DecidableEq

def OnChainData.fromValue (value : Value) : Option OnChainData := do
  match ← structFields ["transaction", "txId"] value with
  | [transaction, txId] =>
    return ⟨← optionField Json.asStr transaction, ← optionField Json.asStr txId⟩
  | _ => none

structure ApprovalSigner where
  locator : Option String
  deriving DecidableEq

def ApprovalSigner.fromValue (value : Value) : Option ApprovalSigner := do
  match ← structFields ["locator"] value with
  | [locator] => return ⟨← optionField Json.asStr locator⟩
  | _ => none

structure PendingApproval where
  message : Option String
  signer : Option ApprovalSigner
  deriving DecidableEq

def PendingApproval.fromValue (value : Value) : Option PendingApproval := do
  match ← structFields ["message", "signer"] value with
  | [message, signer] =>
    return ⟨← optionField Json.asStr message, ← optionField ApprovalSigner.fromValue signer⟩
  | _ => none

structure Approvals where
  pending : List PendingApproval
  deriving DecidableEq

def Approvals.fromValue (value : Value) : Option Approvals := do
  match ← structFields ["pending"] value with
  | [pending] => return ⟨← vecField PendingApproval.fromValue pending⟩
  | _ => none

structure TransactionResponse where
  id : String
  status : String
  onChain : Option OnChainData
  approvals : Option Approvals
  error : Option Value

def TransactionResponse.fromValue (value : Value) : Option TransactionResponse := do
  match ← structFields ["id", "status", "onChain", "approvals", "error"] value with
  | [id, status, onChain, approvals, error] =>
    return {
      id := ← id.bind Json.asStr
      status := ← status.bind Json.asStr
      onChain := ← optionField OnChainData.fromValue onChain
      approvals := ← optionField Approvals.fromValue approvals
      error := ← optionField some error }
  | _ => none

/-- A decoded response carries the id that stands in its object. -/
theorem TransactionResponse.get_id_of_fromValue {value idValue : Value}
    {response : TransactionResponse} (decoded : fromValue value = some response)
    (got : value.get "id" = some idValue) : idValue = .string response.id := by
  obtain ⟨members, rfl, found⟩ := Json.exists_object_of_get_eq_some got
  simp only [fromValue, structFields, List.map_cons, List.map_nil, found,
    Option.bind_eq_bind, Option.bind_some] at decoded
  cases idValue with
  | string id =>
    simp only [Json.asStr, Option.bind_some, Option.bind_eq_some_iff] at decoded
    obtain ⟨status, -, onChain, -, approvals, -, error, -, same⟩ := decoded
    cases same
    rfl
  | _ => simp [Json.asStr] at decoded

end Keychain.Rust.Crossmint
