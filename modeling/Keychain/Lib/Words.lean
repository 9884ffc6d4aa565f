import Mathlib.Data.List.Basic
import Mathlib.Data.Nat.Notation

/-!
Texts of single-spaced words, over any units.

`joinWords` splits a text at its spaces and joins the words with one space. Collapsing every
run of spaces and trimming the ends comes to the same (`trim_collapse`), and so does doing it
after the units were encoded by others (`joinWords_flatMap`).
-/

namespace Keychain.Words

variable {α β : Type} (isSpace : α → Bool) (space : α)

/-- The words with one space between them; `begun` is whether there was a word before, and
`gap` whether a space came after it. -/
def joinWords : Bool → Bool → List α → List α
  | _, _, [] => []
  | begun, gap, c :: rest =>
    if isSpace c then joinWords begun true rest
    else (if begun && gap then [space] else []) ++ c :: joinWords true false rest

/-- Every run of spaces becomes one, after a space or not. -/
def collapse : Bool → List α → List α
  | _, [] => []
  | spaced, c :: rest =>
    if isSpace c then
      if spaced then collapse true rest else space :: collapse true rest
    else
      c :: collapse false rest

/-- The text without the spaces at its end. -/
def trimEnd (text : List α) : List α := (text.reverse.dropWhile isSpace).reverse

def trim (text : List α) : List α := trimEnd isSpace (text.dropWhile isSpace)

variable {isSpace space}

theorem trimEnd_append_cons {c : α} (word : isSpace c = false) {before rest : List α} :
    trimEnd isSpace (before ++ c :: rest) = before ++ c :: trimEnd isSpace rest := by
  have kept : ∀ read : List α, (read ++ c :: before.reverse).dropWhile isSpace =
      read.dropWhile isSpace ++ c :: before.reverse := by
    intro read
    induction read with
    | nil => rw [List.nil_append, List.dropWhile_cons, word]; rfl
    | cons d read ih =>
      rw [List.cons_append, List.dropWhile_cons, List.dropWhile_cons]
      split
      · exact ih
      · rfl
  rw [trimEnd, List.reverse_append, List.reverse_cons, List.append_assoc, List.singleton_append,
    kept, List.reverse_append, List.reverse_cons, List.reverse_reverse, List.append_assoc]
  rfl

section

variable {trimmed : α → Bool} {text : List α}

/-- Trimming what was collapsed, by any notion of space that knows the one space and no unit of
a word. -/
theorem trim_collapse (one : trimmed space) (words : ∀ c ∈ text, isSpace c = false →
    trimmed c = false) (spaced : Bool) :
    trim trimmed (collapse isSpace space spaced text) =
      joinWords isSpace space false spaced text := by
  have after : ∀ {rest : List α} (gap : Bool), (∀ c ∈ rest, isSpace c = false →
      trimmed c = false) →
      trimEnd trimmed ((if gap then [space] else []) ++ collapse isSpace space gap rest) =
        joinWords isSpace space true gap rest := by
    intro rest
    induction rest with
    | nil =>
      intro gap _
      cases gap with
      | false => rfl
      | true => simp [trimEnd, collapse, joinWords, one]
    | cons c rest ih =>
      intro gap given
      rw [List.forall_mem_cons] at given
      rw [collapse, joinWords]
      cases space' : isSpace c with
      | true =>
        have next := ih true given.2
        cases gap with
        | true => exact next
        | false => exact next
      | false =>
        have next := ih false given.2
        simp only [Bool.false_eq_true, if_false, Bool.true_and, List.nil_append] at next ⊢
        rw [trimEnd_append_cons (given.1 space'), next]
  induction text generalizing spaced with
  | nil => rfl
  | cons c rest ih =>
    rw [List.forall_mem_cons] at words
    rw [collapse, joinWords]
    cases space' : isSpace c with
    | true =>
      have next := ih words.2 true
      cases spaced with
      | true => exact next
      | false =>
        simp only [if_true, Bool.false_eq_true, if_false]
        rw [trim, List.dropWhile_cons_of_pos one]
        exact next
    | false =>
      have next := after false words.2
      simp only [Bool.false_eq_true, if_false, Bool.false_and, List.nil_append] at next ⊢
      have first : ¬ trimmed c = true := by
        rw [words.1 space']
        exact Bool.false_ne_true
      rw [trim, List.dropWhile_cons_of_neg first]
      have ended : trimEnd trimmed (c :: collapse isSpace space false rest) =
          c :: trimEnd trimmed (collapse isSpace space false rest) := by
        rw [← List.nil_append (c :: _), trimEnd_append_cons (words.1 space'), List.nil_append]
      rw [ended, next]

/-- What is joined comes from the text and is no space, or is the one space. -/
theorem mem_joinWords {begun gap : Bool} {c : α}
    (member : c ∈ joinWords isSpace space begun gap text) :
    c = space ∨ c ∈ text ∧ isSpace c = false := by
  induction text generalizing begun gap with
  | nil => cases member
  | cons d rest ih =>
    rw [joinWords] at member
    split at member
    · rcases ih member with same | ⟨inside, word⟩
      · exact .inl same
      · exact .inr ⟨List.mem_cons_of_mem d inside, word⟩
    · next word =>
      rcases List.mem_append.mp member with early | late
      · split at early
        · exact .inl (List.mem_singleton.mp early)
        · cases early
      · rcases List.mem_cons.mp late with rfl | later
        · exact .inr ⟨List.mem_cons_self, by simpa using word⟩
        · rcases ih later with same | ⟨inside, word'⟩
          · exact .inl same
          · exact .inr ⟨List.mem_cons_of_mem d inside, word'⟩

theorem mem_trim {c : α} (member : c ∈ trim trimmed text) : c ∈ text := by
  rw [trim, trimEnd, List.mem_reverse] at member
  have inside := (List.dropWhile_sublist trimmed).mem member
  rw [List.mem_reverse] at inside
  exact (List.dropWhile_sublist trimmed).mem inside

theorem mem_collapse {spaced : Bool} {c : α}
    (member : c ∈ collapse isSpace space spaced text) :
    c = space ∨ c ∈ text ∧ isSpace c = false := by
  induction text generalizing spaced with
  | nil => cases member
  | cons d rest ih =>
    have later : ∀ {spaced : Bool}, c ∈ collapse isSpace space spaced rest →
        c = space ∨ c ∈ d :: rest ∧ isSpace c = false := by
      intro spaced inside
      rcases ih inside with same | ⟨inside, word⟩
      · exact .inl same
      · exact .inr ⟨List.mem_cons_of_mem d inside, word⟩
    rw [collapse] at member
    split at member
    · split at member
      · exact later member
      · rcases List.mem_cons.mp member with same | inside
        · exact .inl same
        · exact later inside
    · next word =>
      rcases List.mem_cons.mp member with rfl | inside
      · exact .inr ⟨List.mem_cons_self, by simpa using word⟩
      · exact later inside

end

/-! ## Other units -/

section

variable {isSpace' : β → Bool} {space' : β} {code : α → List β}

/-- Units of a word are kept as they are. -/
theorem joinWords_word {word rest : List β} (letters : ∀ u ∈ word, isSpace' u = false) :
    joinWords isSpace' space' true false (word ++ rest) =
      word ++ joinWords isSpace' space' true false rest := by
  induction word with
  | nil => rfl
  | cons u word ih =>
    rw [List.forall_mem_cons] at letters
    rw [List.cons_append, joinWords, letters.1, ih letters.2]
    rfl

/-- Words may be joined before or after their units are encoded, when a space is encoded as one
space and a letter as letters. -/
theorem joinWords_flatMap {text : List α} (one : code space = [space'])
    (spaces : ∀ c ∈ text, isSpace c → ∃ u, code c = [u] ∧ isSpace' u)
    (letters : ∀ c ∈ text, isSpace c = false →
      ∃ u word, code c = u :: word ∧ ∀ v ∈ u :: word, isSpace' v = false) (begun gap : Bool) :
    joinWords isSpace' space' begun gap (text.flatMap code) =
      (joinWords isSpace space begun gap text).flatMap code := by
  induction text generalizing begun gap with
  | nil => rfl
  | cons c rest ih =>
    rw [List.forall_mem_cons] at spaces letters
    have next := ih spaces.2 letters.2
    rw [List.flatMap_cons, joinWords]
    cases kind : isSpace c with
    | true =>
      rcases spaces.1 kind with ⟨u, encoded, blank⟩
      rw [encoded, List.singleton_append, joinWords, blank]
      exact next begun true
    | false =>
      rcases letters.1 kind with ⟨u, word, encoded, inside⟩
      have first := (List.forall_mem_cons.mp inside).1
      have others := (List.forall_mem_cons.mp inside).2
      rw [encoded, List.cons_append, joinWords, first]
      simp only [Bool.false_eq_true, if_false]
      rw [joinWords_word others, next, List.flatMap_append, List.flatMap_cons, encoded]
      cases begun with
      | false => rfl
      | true =>
        cases gap with
        | false => rfl
        | true => simp [one]

end

end Keychain.Words
