import Mathlib.Data.List.Lex
import Mathlib.Data.List.Sort
import Keychain.Lib.JsonText

/-!
The order of the members of an object.

A rank compares names: by the list of numbers it gives each of them, lexicographically.
`sorted` lists the members of every object by rank. For names that are distinct and a rank
that tells names apart, it picks one representative of the values that are equal up to the
order of members (`sorted_eq_iff_reorder`), and two ranks pick the same one exactly when no
object has names that they compare differently (`sorted_eq_iff_alike`).
-/

namespace Keychain.Json

variable {S N : Type}

/-! ## Sorting -/

section

variable {β : Type} {rank : S → List ℕ}

/-- The members in the order of their names. -/
def sortByKey (rank : S → List ℕ) (members : List (S × β)) : List (S × β) :=
  members.insertionSort fun m m' => rank m.1 ≤ rank m'.1

theorem sortByKey_perm {members : List (S × β)} : (sortByKey rank members).Perm members :=
  List.perm_insertionSort _ members

theorem sortByKey_pairwise {members : List (S × β)} :
    (sortByKey rank members).Pairwise fun m m' => rank m.1 ≤ rank m'.1 := by
  have : Std.Total fun m m' : S × β => rank m.1 ≤ rank m'.1 := ⟨fun _ _ => le_total _ _⟩
  have : IsTrans (S × β) fun m m' => rank m.1 ≤ rank m'.1 := ⟨fun _ _ _ => le_trans⟩
  exact List.pairwise_insertionSort _ members

/-- Sorting commutes with what keeps the order of the names. -/
theorem sortByKey_map {S' γ : Type} {rank' : S' → List ℕ} {f : S × β → S' × γ}
    {members : List (S × β)} (keeps : ∀ m ∈ members, ∀ m' ∈ members,
      rank m.1 ≤ rank m'.1 ↔ rank' (f m).1 ≤ rank' (f m').1) :
    sortByKey rank' (members.map f) = (sortByKey rank members).map f :=
  (List.map_insertionSort _ _ f members keeps).symm

theorem sortByKey_map_value {γ : Type} {f : β → γ} {members : List (S × β)} :
    sortByKey rank (members.map fun m => (m.1, f m.2)) =
      (sortByKey rank members).map fun m => (m.1, f m.2) :=
  sortByKey_map fun _ _ _ _ => Iff.rfl

/-- What is done with sorted members may be done with the members they come from. -/
theorem map_sortByKey_value {γ δ : Type} {f : β → γ} {h : S × γ → δ}
    {members : List (S × β)} :
    (sortByKey rank (members.map fun m => (m.1, f m.2))).map h =
      (sortByKey rank members).map fun m => h (m.1, f m.2) := by
  rw [sortByKey_map_value, List.map_map]
  rfl

/-- Ranks that compare the names alike sort in the same way. -/
theorem sortByKey_congr {rank' : S → List ℕ} {members : List (S × β)}
    (alike : ∀ m ∈ members, ∀ m' ∈ members,
      rank m.1 ≤ rank m'.1 ↔ rank' m.1 ≤ rank' m'.1) :
    sortByKey rank members = sortByKey rank' members := by
  have kept := sortByKey_map (f := id) alike
  rw [List.map_id, List.map_id] at kept
  exact kept.symm

/-- Members with distinct names are sorted in one way. -/
theorem sortByKey_eq_of_perm (separates : Function.Injective rank) {ms ms' : List (S × β)}
    (distinct : (ms.map Prod.fst).Nodup) (perm : ms.Perm ms') :
    sortByKey rank ms = sortByKey rank ms' := by
  have same : (sortByKey rank ms).Perm (sortByKey rank ms') :=
    sortByKey_perm.trans (perm.trans sortByKey_perm.symm)
  apply List.Perm.eq_of_pairwise _ sortByKey_pairwise sortByKey_pairwise same
  intro m m' member member' le ge
  apply List.inj_on_of_nodup_map distinct (sortByKey_perm.mem_iff.mp member)
    (perm.mem_iff.mpr (sortByKey_perm.mem_iff.mp member'))
  exact separates (le_antisymm le ge)

end

def sortWalk (rank : S → List ℕ) : Walk S N (Json S N) where
  null := .null
  bool := .bool
  number := .number
  string := .string
  array := .array
  object members := .object (sortByKey rank members)

/-- The value with the members of every object sorted. -/
def sorted (rank : S → List ℕ) (value : Json S N) : Json S N := walk (sortWalk rank) value

section

variable {rank : S → List ℕ} {valid : N → Prop}

theorem sorted_array {items : List (Json S N)} :
    sorted rank (.array items) = .array (items.map (sorted rank)) := walk_array

theorem sorted_object {members : List (S × Json S N)} :
    sorted rank (.object members) =
      .object ((sortByKey rank members).map fun m => (m.1, sorted rank m.2)) := by
  rw [← sortByKey_map_value]
  exact walk_object

theorem text_sorted_array {tokens : Tokens S N} {items : List (Json S N)} :
    text tokens (sorted rank (.array items)) =
      '[' :: ([','].intercalate (items.map fun item => text tokens (sorted rank item)) ++
        [']']) := by
  rw [sorted_array, text_array, List.map_map]
  rfl

theorem text_sorted_object {tokens : Tokens S N} {members : List (S × Json S N)} :
    text tokens (sorted rank (.object members)) =
      '\x7b' :: ([','].intercalate ((sortByKey rank members).map fun m =>
        tokens.string m.1 ++ ':' :: text tokens (sorted rank m.2)) ++ ['\x7d']) := by
  rw [sorted_object, text_object, List.map_map]
  rfl

theorem WellFormed.sorted {value : Json S N} (formed : WellFormed valid value) :
    WellFormed valid (sorted rank value) := by
  induction formed with
  | null => exact .null
  | bool value => exact .bool value
  | number allowed => exact .number allowed
  | string value => exact .string value
  | array _ ih =>
    rw [sorted_array]
    exact .array (List.forall_mem_map.mpr ih)
  | @object members distinct _ ih =>
    rw [sorted_object]
    apply WellFormed.object
    · rw [List.map_map]
      exact (sortByKey_perm.map Prod.fst).nodup_iff.mpr distinct
    · rw [List.forall_mem_map]
      exact fun m member => ih m (sortByKey_perm.mem_iff.mp member)

theorem sorted_congr {rank' : S → List ℕ}
    (alike : ∀ a b, rank a ≤ rank b ↔ rank' a ≤ rank' b) {value : Json S N} :
    sorted rank value = sorted rank' value := by
  induction value using induct with
  | null => rfl
  | bool value => rfl
  | number value => rfl
  | string value => rfl
  | array items ih =>
    rw [sorted_array, sorted_array]
    exact congrArg Json.array (List.map_congr_left ih)
  | object members ih =>
    rw [sorted_object, sorted_object, sortByKey_congr fun m _ m' _ => alike m.1 m'.1]
    apply congrArg Json.object
    apply List.map_congr_left
    intro m member
    exact Prod.ext rfl (ih m (sortByKey_perm.mem_iff.mp member))

/-- Sorting commutes with a change of names that keeps their order. -/
theorem sorted_map {S' N' : Type} {rank' : S' → List ℕ} {f : S → S'} {g : N → N'}
    (keeps : ∀ a b, rank a ≤ rank b ↔ rank' (f a) ≤ rank' (f b)) {value : Json S N} :
    sorted rank' (map f g value) = map f g (sorted rank value) := by
  induction value using induct with
  | null => rfl
  | bool value => rfl
  | number value => rfl
  | string value => rfl
  | array items ih =>
    rw [map_array, sorted_array, sorted_array, map_array, List.map_map, List.map_map]
    exact congrArg Json.array (List.map_congr_left ih)
  | object members ih =>
    rw [map_object, sorted_object, sorted_object, map_object,
      sortByKey_map fun m _ m' _ => keeps m.1 m'.1, List.map_map, List.map_map]
    apply congrArg Json.object
    apply List.map_congr_left
    intro m member
    exact Prod.ext rfl (ih m (sortByKey_perm.mem_iff.mp member))

end

/-! ## Values up to the order of members -/

/-- The values differ in the order of the members of objects, at any depth. -/
inductive Reorder : Json S N → Json S N → Prop
  | refl (v : Json S N) : Reorder v v
  | trans {u v w : Json S N} : Reorder u v → Reorder v w → Reorder u w
  | here {ms ms' : List (S × Json S N)} : ms.Perm ms' → Reorder (.object ms) (.object ms')
  | item {before after : List (Json S N)} {v w : Json S N} :
    Reorder v w → Reorder (.array (before ++ v :: after)) (.array (before ++ w :: after))
  | member {before after : List (S × Json S N)} {key : S} {v w : Json S N} : Reorder v w →
    Reorder (.object (before ++ (key, v) :: after)) (.object (before ++ (key, w) :: after))

namespace Reorder

theorem symm {v w : Json S N} (reorder : Reorder v w) : Reorder w v := by
  induction reorder with
  | refl v => exact .refl v
  | trans _ _ ih ih' => exact .trans ih' ih
  | here perm => exact .here perm.symm
  | item _ ih => exact .item ih
  | member _ ih => exact .member ih

theorem items {f : Json S N → Json S N} {items : List (Json S N)} (done : List (Json S N))
    (each : ∀ item ∈ items, Reorder item (f item)) :
    Reorder (.array (done ++ items)) (.array (done ++ items.map f)) := by
  induction items generalizing done with
  | nil => exact .refl _
  | cons item items ih =>
    rw [List.forall_mem_cons] at each
    have others := ih (done ++ [f item]) each.2
    rw [List.append_assoc, List.append_assoc] at others
    exact .trans (.item each.1) others

theorem members {f : Json S N → Json S N} {members : List (S × Json S N)}
    (done : List (S × Json S N)) (each : ∀ m ∈ members, Reorder m.2 (f m.2)) :
    Reorder (.object (done ++ members))
      (.object (done ++ members.map fun m => (m.1, f m.2))) := by
  induction members generalizing done with
  | nil => exact .refl _
  | cons m members ih =>
    rw [List.forall_mem_cons] at each
    have others := ih (done ++ [(m.1, f m.2)]) each.2
    rw [List.append_assoc, List.append_assoc] at others
    exact .trans (.member each.1) others

/-- Sorting reorders. -/
theorem sorted {rank : S → List ℕ} (value : Json S N) : Reorder value (sorted rank value) := by
  induction value using induct with
  | null => exact .refl _
  | bool value => exact .refl _
  | number value => exact .refl _
  | string value => exact .refl _
  | array values ih =>
    rw [sorted_array]
    exact items [] ih
  | object values ih =>
    rw [sorted_object]
    apply Reorder.trans (.here sortByKey_perm.symm)
    exact members [] fun m member => ih m (sortByKey_perm.mem_iff.mp member)

end Reorder

section

variable {rank rank' : S → List ℕ} {valid : N → Prop}

/-- Reordering keeps a value well formed, and does not change what it is sorted to. -/
theorem Reorder.sorted_eq (separates : Function.Injective rank) {v w : Json S N}
    (reorder : Reorder v w) (formed : WellFormed valid v) :
    WellFormed valid w ∧ Json.sorted rank v = Json.sorted rank w := by
  induction reorder with
  | refl v => exact ⟨formed, rfl⟩
  | trans _ _ ih ih' =>
    obtain ⟨formed', same⟩ := ih formed
    obtain ⟨formed'', same'⟩ := ih' formed'
    exact ⟨formed'', same.trans same'⟩
  | @here ms ms' perm =>
    cases formed with
    | object distinct formed =>
      rw [sorted_object, sorted_object, sortByKey_eq_of_perm separates distinct perm]
      have distinct' := (perm.map Prod.fst).nodup_iff.mp distinct
      exact ⟨.object distinct' fun m member => formed m (perm.mem_iff.mpr member), rfl⟩
  | @item before after v w _ ih =>
    cases formed with
    | array formed =>
      rw [List.forall_mem_append, List.forall_mem_cons] at formed
      obtain ⟨formed', same⟩ := ih formed.2.1
      rw [sorted_array, sorted_array, List.map_append, List.map_append, List.map_cons,
        List.map_cons, same]
      refine ⟨.array ?_, rfl⟩
      rw [List.forall_mem_append, List.forall_mem_cons]
      exact ⟨formed.1, formed', formed.2.2⟩
  | @member before after key v w _ ih =>
    cases formed with
    | object distinct formed =>
      rw [List.forall_mem_append, List.forall_mem_cons] at formed
      obtain ⟨formed', same⟩ := ih formed.2.1
      have within : ∀ u : Json S N, Json.sorted rank (.object (before ++ (key, u) :: after)) =
          .object (sortByKey rank (before.map (fun m => (m.1, Json.sorted rank m.2)) ++
            (key, Json.sorted rank u) :: after.map fun m => (m.1, Json.sorted rank m.2))) := by
        intro u
        rw [sorted_object, ← sortByKey_map_value, List.map_append, List.map_cons]
      rw [within, within, same]
      refine ⟨.object (by simpa using distinct) ?_, rfl⟩
      rw [List.forall_mem_append, List.forall_mem_cons]
      exact ⟨formed.1, formed', formed.2.2⟩

/-- A sorted value represents the values that are equal up to the order of members. -/
theorem sorted_eq_iff_reorder (separates : Function.Injective rank) {v w : Json S N}
    (formed : WellFormed valid v) : sorted rank v = sorted rank w ↔ Reorder v w := by
  refine ⟨fun same => ?_, fun reorder => (reorder.sorted_eq separates formed).2⟩
  have there : Reorder v (sorted rank v) := Reorder.sorted v
  rw [same] at there
  exact there.trans (Reorder.sorted w).symm

end

/-! ## Two orders -/

/-- Every object of the value has names that pass. -/
def everyObject (ok : List S → Bool) (value : Json S N) : Bool :=
  walk {
    null := true
    bool _ := true
    number _ := true
    string _ := true
    array items := items.all id
    object members := ok (members.map Prod.fst) && members.all Prod.snd } value

theorem everyObject_array {ok : List S → Bool} {items : List (Json S N)} :
    everyObject ok (.array items) ↔ ∀ item ∈ items, everyObject ok item := by
  rw [everyObject, walk_array]
  simp only [List.all_map, List.all_eq_true]
  rfl

theorem everyObject_object {ok : List S → Bool} {members : List (S × Json S N)} :
    everyObject ok (.object members) ↔
      ok (members.map Prod.fst) ∧ ∀ m ∈ members, everyObject ok m.2 := by
  rw [everyObject, walk_object]
  simp only [List.map_map, List.all_map, Bool.and_eq_true, List.all_eq_true]
  rfl

/-- The ranks compare these names alike. -/
def alike (rank rank' : S → List ℕ) (names : List S) : Bool :=
  names.all fun a => names.all fun b => decide (rank a ≤ rank b ↔ rank' a ≤ rank' b)

section

variable {rank rank' : S → List ℕ} {valid : N → Prop}

theorem alike_iff {names : List S} : alike rank rank' names ↔
    ∀ a ∈ names, ∀ b ∈ names, rank a ≤ rank b ↔ rank' a ≤ rank' b := by
  simp only [alike, List.all_eq_true, decide_eq_true_eq]

/-- Ranks that sort a list in the same way compare its names alike. -/
theorem alike_of_pairwise (separates : Function.Injective rank)
    (separates' : Function.Injective rank') {names : List S}
    (first : names.Pairwise fun a b => rank a ≤ rank b)
    (second : names.Pairwise fun a b => rank' a ≤ rank' b) : alike rank rank' names := by
  have both := first.and second
  have ahead : names.Pairwise fun a b => rank a ≤ rank b ↔ rank' a ≤ rank' b :=
    both.imp fun le => ⟨fun _ => le.2, fun _ => le.1⟩
  have behind : names.Pairwise fun a b => rank b ≤ rank a ↔ rank' b ≤ rank' a := by
    apply both.imp
    intro a b le
    refine ⟨fun ge => ?_, fun ge => ?_⟩
    · rw [separates (le_antisymm le.1 ge)]
    · rw [separates' (le_antisymm le.2 ge)]
  rw [alike_iff]
  intro a member b member'
  have same : ∀ c ∈ names, rank c ≤ rank c ↔ rank' c ≤ rank' c :=
    fun c _ => ⟨fun _ => le_refl _, fun _ => le_refl _⟩
  exact ahead.forall_of_forall_of_flip same behind member member'

/-- The members of the two sorted objects are the same one by one. -/
theorem members_eq_of_map_eq {β γ : Type} {f g : β → γ} {members ms ms' : List (S × β)}
    (distinct : (members.map Prod.fst).Nodup) (perm : ms.Perm members)
    (perm' : ms'.Perm members)
    (same : ms.map (fun m => (m.1, f m.2)) = ms'.map fun m => (m.1, g m.2)) :
    ms.map Prod.fst = ms'.map Prod.fst ∧ ∀ m ∈ members, f m.2 = g m.2 := by
  have names := congrArg (List.map Prod.fst) same
  rw [List.map_map, List.map_map] at names
  refine ⟨names, ?_⟩
  intro m member
  have there : (m.1, f m.2) ∈ ms'.map fun m => (m.1, g m.2) := by
    rw [← same]
    exact List.mem_map_of_mem (perm.mem_iff.mpr member)
  obtain ⟨m', member', alike⟩ := List.mem_map.mp there
  have name : m' = m := List.inj_on_of_nodup_map distinct (perm'.mem_iff.mp member') member
    (Prod.mk.inj alike).1
  rw [← (Prod.mk.inj alike).2, name]

/-- Two ranks sort a value in the same way just when they compare the names of each of its
objects alike. -/
theorem sorted_eq_iff_alike (separates : Function.Injective rank)
    (separates' : Function.Injective rank') {value : Json S N}
    (formed : WellFormed valid value) :
    sorted rank value = sorted rank' value ↔ everyObject (alike rank rank') value := by
  induction formed with
  | null => exact ⟨fun _ => rfl, fun _ => rfl⟩
  | bool value => exact ⟨fun _ => rfl, fun _ => rfl⟩
  | number allowed => exact ⟨fun _ => rfl, fun _ => rfl⟩
  | string value => exact ⟨fun _ => rfl, fun _ => rfl⟩
  | @array items formed ih =>
    rw [everyObject_array, sorted_array, sorted_array, Json.array.injEq, List.map_inj_left]
    exact forall₂_congr ih
  | @object members distinct formed ih =>
    rw [everyObject_object, sorted_object, sorted_object, Json.object.injEq, alike_iff]
    refine ⟨fun same => ?_, fun given => ?_⟩
    · obtain ⟨names, values⟩ := members_eq_of_map_eq distinct sortByKey_perm sortByKey_perm same
      have first : ((sortByKey rank members).map Prod.fst).Pairwise fun a b => rank a ≤ rank b :=
        List.pairwise_map.mpr sortByKey_pairwise
      have second : ((sortByKey rank members).map Prod.fst).Pairwise
          fun a b => rank' a ≤ rank' b := by
        rw [names]
        exact List.pairwise_map.mpr sortByKey_pairwise
      have agree := alike_iff.mp (alike_of_pairwise separates separates' first second)
      have listed : ((sortByKey rank members).map Prod.fst).Perm (members.map Prod.fst) :=
        sortByKey_perm.map Prod.fst
      refine ⟨fun a member b member' => ?_, fun m member => (ih m member).mp (values m member)⟩
      exact agree a (listed.mem_iff.mpr member) b (listed.mem_iff.mpr member')
    · have order : sortByKey rank members = sortByKey rank' members :=
        sortByKey_congr fun m member m' member' =>
          given.1 m.1 (List.mem_map_of_mem member) m'.1 (List.mem_map_of_mem member')
      rw [order]
      apply List.map_congr_left
      intro m member
      have inside := sortByKey_perm.mem_iff.mp member
      exact Prod.ext rfl ((ih m inside).mpr (given.2 m inside))

end

end Keychain.Json
