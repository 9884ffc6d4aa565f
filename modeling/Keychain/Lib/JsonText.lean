import Keychain.Lib.Json

/-!
Compact JSON texts, and how they are read back.

`Json.text` writes a value without whitespace, an object in the order in which it lists
its members. Strings and numbers are written as `Tokens` say. A text can be split off the
front of anything that does not continue a number (`text_readsBack`), so that it
determines the value.
-/

namespace Keychain.Json

variable {S N : Type}

theorem intercalate_cons {α : Type} {separator part : List α} {parts : List (List α)} :
    separator.intercalate (part :: parts) = part ++ parts.flatMap (separator ++ ·) := by
  induction parts generalizing part with
  | nil => simp
  | cons next parts ih =>
    rw [List.intercalate_cons_cons, ih, List.flatMap_cons, List.append_assoc, List.append_assoc]

theorem flatMap_intercalate {α β : Type} {f : α → List β} {separator : List α}
    {parts : List (List α)} : (separator.intercalate parts).flatMap f =
      (separator.flatMap f).intercalate (parts.map fun part => part.flatMap f) := by
  cases parts with
  | nil => rfl
  | cons part parts =>
    simp [intercalate_cons, List.flatMap_assoc, List.flatMap_map]

theorem map_intercalate {α β : Type} {f : α → β} {separator : List α}
    {parts : List (List α)} : (separator.intercalate parts).map f =
      (separator.map f).intercalate (parts.map fun part => part.map f) := by
  simp only [List.map_eq_flatMap, flatMap_intercalate]

/-- How strings and numbers are written. -/
structure Tokens (S N : Type) where
  string : S → List Char
  number : N → List Char

def textWalk (tokens : Tokens S N) : Walk S N (List Char) where
  null := "null".toList
  bool value := if value then "true".toList else "false".toList
  number := tokens.number
  string := tokens.string
  array items := '[' :: ([','].intercalate items ++ [']'])
  object members := '\x7b' ::
    ([','].intercalate (members.map fun m => tokens.string m.1 ++ ':' :: m.2) ++ ['\x7d'])

def text (tokens : Tokens S N) (value : Json S N) : List Char := walk (textWalk tokens) value

/-- A value with distinct names in every object and numbers of a kind. -/
inductive WellFormed (valid : N → Prop) : Json S N → Prop
  | null : WellFormed valid .null
  | bool (value : Bool) : WellFormed valid (.bool value)
  | number {value : N} : valid value → WellFormed valid (.number value)
  | string (value : S) : WellFormed valid (.string value)
  | array {items : List (Json S N)} :
    (∀ item ∈ items, WellFormed valid item) → WellFormed valid (.array items)
  | object {members : List (S × Json S N)} : (members.map Prod.fst).Nodup →
    (∀ m ∈ members, WellFormed valid m.2) → WellFormed valid (.object members)

section

variable {tokens : Tokens S N}

theorem text_array {items : List (Json S N)} :
    text tokens (.array items) =
      '[' :: ([','].intercalate (items.map (text tokens)) ++ [']']) := by
  rw [text, walk_array]
  rfl

/-- A member of an object as it is written. -/
def memberText (tokens : Tokens S N) (m : S × Json S N) : List Char :=
  tokens.string m.1 ++ ':' :: text tokens m.2

theorem text_object {members : List (S × Json S N)} :
    text tokens (.object members) =
      '\x7b' :: ([','].intercalate (members.map (memberText tokens)) ++ ['\x7d']) := by
  rw [text, walk_object]
  simp only [textWalk, List.map_map]
  rfl

/-- Other strings and numbers are written as what they stand for. -/
theorem text_map {S' N' : Type} {tokens : Tokens S' N'} {f : S → S'} {g : N → N'}
    {value : Json S N} :
    text tokens (map f g value) = text ⟨tokens.string ∘ f, tokens.number ∘ g⟩ value := by
  induction value using induct with
  | null => rfl
  | bool value => rfl
  | number value => rfl
  | string value => rfl
  | array items ih =>
    rw [map_array, text_array, text_array, List.map_map]
    have each := List.map_congr_left ih
    simp only [Function.comp_def] at each ⊢
    rw [each]
  | object members ih =>
    have each : members.map (memberText tokens ∘ fun m => (f m.1, map f g m.2)) =
        members.map (memberText ⟨tokens.string ∘ f, tokens.number ∘ g⟩) := by
      apply List.map_congr_left
      intro m member
      simp only [Function.comp_def, memberText, ih m member]
    rw [map_object, text_object, text_object, List.map_map, each]

end

/-! ## Reading back -/

/-- The characters of a number. -/
def isNumberChar (c : Char) : Bool :=
  c.isDigit || c == '-' || c == '+' || c == '.' || c == 'e' || c == 'E'

/-- Nothing follows that could continue a number. -/
def Ends (rest : List Char) : Prop := ∀ c, rest.head? = some c → isNumberChar c = false

theorem ends_cons {c : Char} {rest : List Char} (other : isNumberChar c = false) :
    Ends (c :: rest) := by
  intro c' head
  cases head
  exact other

/-- Strings are delimited, and numbers are words of number characters. -/
structure Tokens.Readable (tokens : Tokens S N) (valid : N → Prop) : Prop where
  string_inj : ∀ {a b s t}, tokens.string a ++ s = tokens.string b ++ t → a = b ∧ s = t
  string_head : ∀ a, ∃ rest, tokens.string a = '"' :: rest
  number_inj : ∀ {a b}, valid a → valid b → tokens.number a = tokens.number b → a = b
  number_ne : ∀ {a}, valid a → tokens.number a ≠ []
  number_chars : ∀ {a}, valid a → ∀ c ∈ tokens.number a, isNumberChar c = true

/-- A whole number in decimal digits. -/
def decimal (n : Int) : List Char := n.repr.toList

theorem decimal_eq (n : Int) : decimal n =
    if 0 ≤ n then Nat.toDigits 10 n.toNat else '-' :: Nat.toDigits 10 (-n).toNat := by
  rw [decimal, Int.repr_eq_if]
  split
  · exact Nat.toList_repr
  · rw [String.toList_append, Nat.toList_repr]
    rfl

theorem toDigits_injective {m n : ℕ} (same : Nat.toDigits 10 m = Nat.toDigits 10 n) : m = n := by
  rw [← Nat.ofDigitChars_ten_toDigits (n := m), same, Nat.ofDigitChars_ten_toDigits]

theorem decimal_chars {n : Int} : ∀ c ∈ decimal n, isNumberChar c = true := by
  have digits : ∀ m : ℕ, ∀ c ∈ Nat.toDigits 10 m, isNumberChar c = true := by
    intro m c member
    have digit := Nat.isDigit_of_mem_toDigits (by decide) (Nat.le_refl 10) member
    simp [isNumberChar, digit]
  rw [decimal_eq]
  split
  · exact digits _
  · exact List.forall_mem_cons.mpr ⟨rfl, digits _⟩

theorem decimal_ne_nil {n : Int} : decimal n ≠ [] := by
  rw [decimal_eq]
  split
  · exact Nat.toDigits_ne_nil
  · exact List.cons_ne_nil _ _

theorem decimal_injective : Function.Injective decimal := by
  have unsigned : ∀ {m : ℕ} {rest : List Char}, Nat.toDigits 10 m ≠ '-' :: rest := by
    intro m rest same
    have digit := Nat.isDigit_of_mem_toDigits (by decide) (Nat.le_refl 10)
      (same ▸ List.mem_cons_self : '-' ∈ Nat.toDigits 10 m)
    cases digit
  intro a b same
  rw [decimal_eq, decimal_eq] at same
  split at same
  · split at same
    · have value := toDigits_injective same
      omega
    · exact absurd same unsigned
  · split at same
    · exact absurd same.symm unsigned
    · have value := toDigits_injective (List.cons.inj same).2
      omega

/-- The code of `i` can be split off the front of anything that ends it. -/
def ReadsBack {ι : Type} (code : ι → List Char) (valid : ι → Prop) (i : ι) : Prop :=
  ∀ j s t, valid j → Ends s → Ends t → code i ++ s = code j ++ t → i = j ∧ s = t

section

variable {ι : Type} {code : ι → List Char} {valid : ι → Prop} {close : Char}

/-- What stands behind the first item, up to the bracket that closes the list. -/
theorem rest_readsBack {is js : List ι} {s t : List Char} (closes : isNumberChar close = false)
    (bracket : close ≠ ',') (reads : ∀ i ∈ is, ReadsBack code valid i)
    (allowed : ∀ j ∈ js, valid j)
    (same : (is.map code).flatMap ([','] ++ ·) ++ close :: s =
      (js.map code).flatMap ([','] ++ ·) ++ close :: t) : is = js ∧ s = t := by
  have ends : ∀ (ks : List ι) (u : List Char),
      Ends ((ks.map code).flatMap ([','] ++ ·) ++ close :: u) := by
    intro ks u
    cases ks with
    | nil => exact ends_cons closes
    | cons k ks => exact ends_cons (by decide)
  induction is generalizing js with
  | nil =>
    cases js with
    | nil => exact ⟨rfl, (List.cons.inj same).2⟩
    | cons j js => exact absurd (List.cons.inj same).1 bracket
  | cons i is ih =>
    cases js with
    | nil => exact absurd (List.cons.inj same).1.symm bracket
    | cons j js =>
      rw [List.forall_mem_cons] at reads allowed
      have items : code i ++ ((is.map code).flatMap ([','] ++ ·) ++ close :: s) =
          code j ++ ((js.map code).flatMap ([','] ++ ·) ++ close :: t) := by
        simpa using same
      obtain ⟨rfl, others⟩ := reads.1 j _ _ allowed.1 (ends is s) (ends js t) items
      obtain ⟨rfl, rest⟩ := ih reads.2 allowed.2 others
      exact ⟨rfl, rest⟩

/-- A list whose items can be read back, up to the bracket that closes it. -/
theorem intercalate_readsBack {is js : List ι} {s t : List Char}
    (closes : isNumberChar close = false) (bracket : close ≠ ',')
    (starts : ∀ i u, valid i → (code i ++ u).head? ≠ some close)
    (reads : ∀ i ∈ is, valid i ∧ ReadsBack code valid i) (allowed : ∀ j ∈ js, valid j)
    (same : [','].intercalate (is.map code) ++ close :: s =
      [','].intercalate (js.map code) ++ close :: t) : is = js ∧ s = t := by
  cases is with
  | nil =>
    cases js with
    | nil => exact ⟨rfl, (List.cons.inj same).2⟩
    | cons j js =>
      have head := congrArg List.head? same
      rw [List.map_cons, intercalate_cons, List.append_assoc] at head
      exact absurd head.symm (starts j _ (allowed j (List.mem_cons_self)))
  | cons i is =>
    cases js with
    | nil =>
      have head := congrArg List.head? same
      rw [List.map_cons, intercalate_cons, List.append_assoc] at head
      exact absurd head (starts i _ (reads i (List.mem_cons_self)).1)
    | cons j js =>
      have whole : ([','] : List Char) ++ [','].intercalate ((i :: is).map code) ++ close :: s =
          [','] ++ [','].intercalate ((j :: js).map code) ++ close :: t := by
        rw [List.append_assoc, List.append_assoc, same]
      exact rest_readsBack closes bracket (fun i member => (reads i member).2) allowed
        (by simpa [intercalate_cons] using whole)

end

section

variable {tokens : Tokens S N} {valid : N → Prop}

/-- The kind of a value, by its constructor. -/
def kind : Json S N → ℕ
  | .null => 0
  | .bool true => 1
  | .bool false => 2
  | .number _ => 3
  | .string _ => 4
  | .array _ => 5
  | .object _ => 6

/-- The kind of value a character begins. -/
def charKind (c : Char) : ℕ :=
  if isNumberChar c then 3
  else match c with
    | 'n' => 0
    | 't' => 1
    | 'f' => 2
    | '"' => 4
    | '[' => 5
    | '\x7b' => 6
    | _ => 7

/-- The first character tells the kind. -/
theorem text_head (readable : tokens.Readable valid) {value : Json S N}
    (formed : WellFormed valid value) :
    ∃ c rest, text tokens value = c :: rest ∧ charKind c = kind value := by
  cases formed with
  | null => exact ⟨'n', "ull".toList, rfl, rfl⟩
  | bool value =>
    cases value with
    | true => exact ⟨'t', "rue".toList, rfl, rfl⟩
    | false => exact ⟨'f', "alse".toList, rfl, rfl⟩
  | @number value allowed =>
    cases written : tokens.number value with
    | nil => exact absurd written (readable.number_ne allowed)
    | cons c rest =>
      have digit := readable.number_chars allowed c (by rw [written]; exact List.mem_cons_self)
      exact ⟨c, rest, written, if_pos digit⟩
  | string value =>
    obtain ⟨rest, written⟩ := readable.string_head value
    exact ⟨'"', rest, written, rfl⟩
  | array => exact ⟨'[', _, text_array, rfl⟩
  | object => exact ⟨'\x7b', _, text_object, rfl⟩

theorem kind_eq_of_text (readable : tokens.Readable valid) {v w : Json S N} {s t : List Char}
    (formed : WellFormed valid v) (formed' : WellFormed valid w)
    (same : text tokens v ++ s = text tokens w ++ t) : kind v = kind w := by
  obtain ⟨c, rest, written, here⟩ := text_head readable formed
  obtain ⟨c', rest', written', there⟩ := text_head readable formed'
  rw [written, written'] at same
  rw [← here, ← there, (List.cons.inj same).1]

/-- No value begins with this character. -/
theorem text_head_ne (readable : tokens.Readable valid) {value : Json S N} {u : List Char}
    {close : Char} (formed : WellFormed valid value) (closes : charKind close = 7) :
    (text tokens value ++ u).head? ≠ some close := by
  obtain ⟨c, rest, written, here⟩ := text_head readable formed
  rw [written]
  intro head
  cases head
  rw [closes] at here
  rcases value with _ | (_ | _) | _ | _ | _ | _ <;> cases here

/-- Two words of number characters are the same when nothing continues them. -/
theorem number_readsBack {a b s t : List Char} (numbers : ∀ c ∈ a, isNumberChar c = true)
    (numbers' : ∀ c ∈ b, isNumberChar c = true) (ends : Ends s) (ends' : Ends t)
    (same : a ++ s = b ++ t) : a = b ∧ s = t := by
  have word : ∀ {a s : List Char}, (∀ c ∈ a, isNumberChar c = true) → Ends s →
      (a ++ s).takeWhile isNumberChar = a := by
    intro a s numbers ends
    rw [List.takeWhile_append_of_pos numbers]
    cases s with
    | nil => simp
    | cons c s => simp [ends c rfl]
  have first : a = b := by rw [← word numbers ends, same, word numbers' ends']
  subst first
  exact ⟨rfl, List.append_cancel_left same⟩

theorem memberText_readsBack (readable : tokens.Readable valid) {m : S × Json S N}
    (reads : ReadsBack (text tokens) (WellFormed valid) m.2) :
    ReadsBack (memberText tokens) (fun m => WellFormed valid m.2) m := by
  intro m' s t formed ends ends' same
  simp only [memberText, List.append_assoc, List.cons_append] at same
  obtain ⟨name, behind⟩ := readable.string_inj same
  obtain ⟨value, rest⟩ := reads m'.2 s t formed ends ends' (List.cons.inj behind).2
  exact ⟨Prod.ext name value, rest⟩

theorem memberText_head_ne (readable : tokens.Readable valid) {m : S × Json S N}
    {u : List Char} {close : Char} (closes : close ≠ '"') :
    (memberText tokens m ++ u).head? ≠ some close := by
  obtain ⟨rest, written⟩ := readable.string_head m.1
  rw [memberText, written]
  intro head
  exact closes (Option.some.inj head).symm

/-- The text of a value can be split off the front of what does not continue a number. -/
theorem text_readsBack (readable : tokens.Readable valid) {value : Json S N}
    (formed : WellFormed valid value) :
    ReadsBack (text tokens) (WellFormed valid) value := by
  induction formed with
  | null =>
    intro w s t formed' _ _ same
    have alike := kind_eq_of_text readable .null formed' same
    rcases w with _ | (_ | _) | _ | _ | _ | _ <;> cases alike
    exact ⟨rfl, List.append_cancel_left same⟩
  | bool value =>
    intro w s t formed' _ _ same
    have alike := kind_eq_of_text readable (.bool value) formed' same
    rcases value with _ | _ <;> rcases w with _ | (_ | _) | _ | _ | _ | _ <;> cases alike
    · exact ⟨rfl, List.append_cancel_left same⟩
    · exact ⟨rfl, List.append_cancel_left same⟩
  | @number value allowed =>
    intro w s t formed' ends ends' same
    have alike := kind_eq_of_text readable (.number allowed) formed' same
    rcases w with _ | (_ | _) | value' | _ | _ | _ <;> cases alike
    cases formed' with
    | number allowed' =>
      rcases number_readsBack (readable.number_chars allowed) (readable.number_chars allowed')
        ends ends' same with ⟨word, rest⟩
      exact ⟨congrArg Json.number (readable.number_inj allowed allowed' word), rest⟩
  | string value =>
    intro w s t formed' _ _ same
    have alike := kind_eq_of_text readable (.string value) formed' same
    rcases w with _ | (_ | _) | _ | value' | _ | _ <;> cases alike
    obtain ⟨word, rest⟩ := readable.string_inj same
    exact ⟨congrArg Json.string word, rest⟩
  | @array items formed ih =>
    intro w s t formed' _ _ same
    have alike := kind_eq_of_text readable (.array formed) formed' same
    rcases w with _ | (_ | _) | _ | _ | items' | _ <;> cases alike
    cases formed' with
    | array formed' =>
      simp only [text_array, List.cons_append, List.append_assoc, List.nil_append] at same
      rcases intercalate_readsBack (by decide) (by decide)
        (fun _ _ formed => text_head_ne readable formed (by decide))
        (fun item member => ⟨formed item member, ih item member⟩) formed'
        (List.cons.inj same).2 with ⟨rfl, rest⟩
      exact ⟨rfl, rest⟩
  | @object members distinct formed ih =>
    intro w s t formed' _ _ same
    have alike := kind_eq_of_text readable (.object distinct formed) formed' same
    rcases w with _ | (_ | _) | _ | _ | _ | members' <;> cases alike
    cases formed' with
    | object distinct' formed' =>
      simp only [text_object, List.cons_append, List.append_assoc, List.nil_append] at same
      rcases intercalate_readsBack (by decide) (by decide)
        (fun _ _ _ => memberText_head_ne readable (by decide))
        (fun m member => ⟨formed m member, memberText_readsBack readable (ih m member)⟩) formed'
        (List.cons.inj same).2 with ⟨rfl, rest⟩
      exact ⟨rfl, rest⟩

/-- The text determines the value. -/
theorem text_injective (readable : tokens.Readable valid) {v w : Json S N}
    (formed : WellFormed valid v) (formed' : WellFormed valid w)
    (same : text tokens v = text tokens w) : v = w := by
  have ends : Ends [] := fun c head => by cases head
  have padded : text tokens v ++ [] = text tokens w ++ [] := by rw [same]
  exact (text_readsBack readable formed w [] [] formed' ends ends padded).1

end

end Keychain.Json
