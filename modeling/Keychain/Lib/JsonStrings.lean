import Keychain.Lib.JsonOrder

/-!
The strings of a value, and what two ways to write strings have to do with the texts.

`strings` lists every string and every name of a value. A character that the syntax does
not use occurs in a text exactly when it occurs in one of the literals (`mem_text_iff`), and
two ways to write strings write the same text when they agree on these (`text_congr`).
-/

namespace Keychain.Json

variable {S N : Type}

/-- Every string and every name of a value. -/
def strings (value : Json S N) : List S :=
  value.walk {
    null := []
    bool _ := []
    number _ := []
    string s := [s]
    array := List.flatten
    object members := members.flatMap fun m => m.1 :: m.2 }

@[simp] theorem strings_string {s : S} : strings (.string s : Json S N) = [s] := rfl

@[simp] theorem strings_number {n : N} : strings (.number n : Json S N) = [] := rfl

@[simp] theorem strings_array {items : List (Json S N)} :
    strings (.array items) = items.flatMap strings := by
  rw [strings, walk_array, List.flatMap]
  rfl

@[simp] theorem strings_object {members : List (S × Json S N)} :
    strings (.object members) = members.flatMap fun m => m.1 :: strings m.2 := by
  rw [strings, walk_object]
  simp only [List.flatMap_map]
  rfl

/-- Sorting the members neither adds nor drops a string. -/
theorem mem_strings_sorted {rank : S → List ℕ} {value : Json S N} {s : S} :
    s ∈ strings (sorted rank value) ↔ s ∈ strings value := by
  induction value using induct with
  | null => rfl
  | bool value => rfl
  | number value => rfl
  | string value => rfl
  | array items ih =>
    rw [sorted_array, strings_array, strings_array, List.flatMap_map]
    simp only [List.mem_flatMap]
    exact exists_congr fun item => and_congr_right (ih item)
  | object members ih =>
    rw [sorted_object, strings_object, strings_object, List.flatMap_map]
    simp only [List.mem_flatMap, List.mem_cons, sortByKey_perm.mem_iff]
    exact exists_congr fun m => and_congr_right fun member => or_congr_right (ih m member)

section

variable {tokens tokens' : Tokens S N}

/-- Ways to write strings that agree on the strings of a value write the same text. -/
theorem text_congr {value : Json S N} (numbers : tokens.number = tokens'.number)
    (same : ∀ s ∈ strings value, tokens.string s = tokens'.string s) :
    text tokens value = text tokens' value := by
  induction value using induct with
  | null => rfl
  | bool value => rfl
  | number value => exact congrFun numbers value
  | string value => exact same value List.mem_cons_self
  | array items ih =>
    have each : items.map (text tokens) = items.map (text tokens') := by
      apply List.map_congr_left
      intro item member
      apply ih item member
      intro s inside
      apply same
      rw [strings_array]
      exact List.mem_flatMap.mpr ⟨item, member, inside⟩
    rw [text_array, text_array, each]
  | object members ih =>
    have each : members.map (memberText tokens) = members.map (memberText tokens') := by
      apply List.map_congr_left
      intro m member
      have inside : ∀ s ∈ m.1 :: strings m.2, tokens.string s = tokens'.string s := by
        intro s within
        apply same
        rw [strings_object]
        exact List.mem_flatMap.mpr ⟨m, member, within⟩
      rw [List.forall_mem_cons] at inside
      rw [memberText, memberText, inside.1, ih m member inside.2]
    rw [text_object, text_object, each]

/-- The characters around strings and numbers. -/
def markup : List Char := "nulltruefalse[],\x7b\x7d:".toList

/-- A character that is no separator comes from one of the parts. -/
theorem mem_intercalate_iff {c : Char} {parts : List (List Char)} (other : c ≠ ',') :
    c ∈ [','].intercalate parts ↔ ∃ part ∈ parts, c ∈ part := by
  cases parts with
  | nil => simp
  | cons part parts =>
    rw [intercalate_cons, List.mem_append, List.mem_flatMap, List.exists_mem_cons_iff]
    simp only [List.singleton_append, List.mem_cons, other, false_or]

/-- A character that neither the markup nor a number uses comes from a literal. -/
theorem mem_text_iff {c : Char} {value : Json S N} (foreign : c ∉ markup)
    (digits : ∀ n, c ∉ tokens.number n) :
    c ∈ text tokens value ↔ ∃ s ∈ strings value, c ∈ tokens.string s := by
  have none_of : ∀ word : List Char, word.all (fun d => markup.contains d) = true → c ∉ word :=
    fun word used member => foreign (List.contains_iff_mem.mp (List.all_eq_true.mp used c member))
  have mark : ∀ d ∈ markup, c ≠ d := by
    intro d used same
    subst same
    exact foreign used
  have comma : c ≠ ',' := mark _ (by decide)
  induction value using induct with
  | null => exact iff_of_false (none_of "null".toList (by decide)) (by simp [strings, walk])
  | bool value =>
    refine iff_of_false ?_ (by simp [strings, walk])
    cases value with
    | true => exact none_of "true".toList (by decide)
    | false => exact none_of "false".toList (by decide)
  | number value => exact iff_of_false (digits value) (by simp)
  | string value => simp [text, walk, textWalk]
  | array items ih =>
    have opened : c ≠ '[' := mark _ (by decide)
    have closed : c ≠ ']' := mark _ (by decide)
    rw [text_array, List.mem_cons, List.mem_append, mem_intercalate_iff comma, List.mem_singleton]
    simp only [opened, closed, false_or, or_false, List.mem_map, exists_exists_and_eq_and,
      strings_array, List.mem_flatMap]
    constructor
    · intro given
      rcases given with ⟨item, member, written⟩
      rcases (ih item member).mp written with ⟨s, inside, literal⟩
      exact ⟨s, ⟨item, member, inside⟩, literal⟩
    · intro given
      rcases given with ⟨s, ⟨item, member, inside⟩, literal⟩
      exact ⟨item, member, (ih item member).mpr ⟨s, inside, literal⟩⟩
  | object members ih =>
    have opened : c ≠ '\x7b' := mark _ (by decide)
    have closed : c ≠ '\x7d' := mark _ (by decide)
    have colon : c ≠ ':' := mark _ (by decide)
    rw [text_object, List.mem_cons, List.mem_append, mem_intercalate_iff comma, List.mem_singleton]
    simp only [opened, closed, false_or, or_false, List.mem_map, exists_exists_and_eq_and,
      strings_object, List.mem_flatMap, memberText, List.mem_append, List.mem_cons, colon]
    constructor
    · intro given
      rcases given with ⟨m, member, name | written⟩
      · exact ⟨m.1, ⟨m, member, .inl rfl⟩, name⟩
      · rcases (ih m member).mp written with ⟨s, inside, literal⟩
        exact ⟨s, ⟨m, member, .inr inside⟩, literal⟩
    · intro given
      rcases given with ⟨s, ⟨m, member, rfl | inside⟩, literal⟩
      · exact ⟨m, member, .inl literal⟩
      · exact ⟨m, member, .inr ((ih m member).mpr ⟨s, inside, literal⟩)⟩

end

end Keychain.Json
