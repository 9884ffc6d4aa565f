import Mathlib.Data.List.Basic

/-!
JSON values, and the functions that walk through them.

A `Walk` says what happens at each kind of value, given the results inside it. Lists of
results are handed on as they come, so that an object's members keep their order.
-/

namespace Keychain

/-- A JSON value over strings `S` and numbers `N`. An object lists its members;
`Json.get` reads the first one of a name. -/
inductive Json (S N : Type) where
  | null
  | bool (value : Bool)
  | number (value : N)
  | string (value : S)
  | array (items : List (Json S N))
  | object (members : List (S × Json S N))

namespace Json

variable {S N : Type}

def get [BEq S] (value : Json S N) (name : S) : Option (Json S N) :=
  match value with
  | .object members => members.lookup name
  | _ => none

def asStr : Json S N → Option S
  | .string s => some s
  | _ => none

def asObject : Json S N → Option (List (S × Json S N))
  | .object members => some members
  | _ => none

/-- An object without members. -/
def isEmptyObject (value : Json S N) : Bool := value.asObject.any List.isEmpty

/-- Only an object has members. -/
theorem exists_object_of_get_eq_some [BEq S] {value found : Json S N} {name : S}
    (got : value.get name = some found) :
    ∃ members, value = .object members ∧ members.lookup name = some found := by
  cases value with
  | object members => exact ⟨members, rfl, got⟩
  | _ => cases got

/-! ## Walks -/

/-- What a function does at each kind of value, given its own results inside arrays and
objects. -/
structure Walk (S N β : Type) where
  null : β
  bool : Bool → β
  number : N → β
  string : S → β
  array : List β → β
  object : List (S × β) → β

variable {β : Type}

mutual

def walk (at_ : Walk S N β) : Json S N → β
  | .null => at_.null
  | .bool value => at_.bool value
  | .number value => at_.number value
  | .string value => at_.string value
  | .array items => at_.array (walkItems at_ items)
  | .object members => at_.object (walkMembers at_ members)

def walkItems (at_ : Walk S N β) : List (Json S N) → List β
  | [] => []
  | item :: items => walk at_ item :: walkItems at_ items

def walkMembers (at_ : Walk S N β) : List (S × Json S N) → List (S × β)
  | [] => []
  | (key, value) :: members => (key, walk at_ value) :: walkMembers at_ members

end

theorem walk_array {w : Walk S N β} {items : List (Json S N)} :
    walk w (.array items) = w.array (items.map (walk w)) := by
  have mapped : ∀ items : List (Json S N), walkItems w items = items.map (walk w) := by
    intro items
    induction items with
    | nil => rfl
    | cons item items ih => rw [walkItems, ih, List.map_cons]
  rw [walk, mapped]

theorem walk_object {w : Walk S N β} {members : List (S × Json S N)} :
    walk w (.object members) = w.object (members.map fun m => (m.1, walk w m.2)) := by
  have mapped : ∀ members : List (S × Json S N),
      walkMembers w members = members.map fun m => (m.1, walk w m.2) := by
    intro members
    induction members with
    | nil => rfl
    | cons m members ih => rw [walkMembers, ih, List.map_cons]
  rw [walk, mapped]

/-- The same value over other strings and numbers. -/
def map {S' N' : Type} (f : S → S') (g : N → N') : Json S N → Json S' N' :=
  walk {
    null := .null
    bool := .bool
    number n := .number (g n)
    string s := .string (f s)
    array := .array
    object members := .object (members.map fun m => (f m.1, m.2)) }

theorem map_array {S' N' : Type} {f : S → S'} {g : N → N'} {items : List (Json S N)} :
    map f g (.array items) = .array (items.map (map f g)) := walk_array

theorem map_object {S' N' : Type} {f : S → S'} {g : N → N'} {members : List (S × Json S N)} :
    map f g (.object members) = .object (members.map fun m => (f m.1, map f g m.2)) := by
  rw [map, walk_object]
  simp only [List.map_map]
  rfl

theorem isEmptyObject_map {S' N' : Type} {f : S → S'} {g : N → N'} {value : Json S N} :
    (map f g value).isEmptyObject = value.isEmptyObject := by
  cases value with
  | object members =>
    cases members with
    | nil => rfl
    | cons m members => rw [map_object]; rfl
  | _ => rfl

/-- A walk that fails nowhere. -/
theorem mapM_some {α β : Type} {f : α → Option β} {g : α → β} {items : List α}
    (each : ∀ item ∈ items, f item = some (g item)) : items.mapM f = some (items.map g) := by
  induction items with
  | nil => rfl
  | cons item items ih =>
    rw [List.forall_mem_cons] at each
    rw [List.mapM_cons, each.1, ih each.2]
    rfl

/-- Induction over a value, with the items of an array and the members of an object. -/
theorem induct {P : Json S N → Prop} (null : P .null) (bool : ∀ value, P (.bool value))
    (number : ∀ value, P (.number value)) (string : ∀ value, P (.string value))
    (array : ∀ items, (∀ item ∈ items, P item) → P (.array items))
    (object : ∀ members, (∀ m ∈ members, P m.2) → P (.object members)) :
    ∀ value, P value :=
  @Json.rec S N P (fun items => ∀ item ∈ items, P item) (fun members => ∀ m ∈ members, P m.2)
    (fun m => P m.2) null bool number string array object
    (fun _ member => absurd member List.not_mem_nil)
    (fun _ _ here rest => List.forall_mem_cons.mpr ⟨here, rest⟩)
    (fun _ member => absurd member List.not_mem_nil)
    (fun _ _ here rest => List.forall_mem_cons.mpr ⟨here, rest⟩) (fun _ _ here => here)

end Json

end Keychain
