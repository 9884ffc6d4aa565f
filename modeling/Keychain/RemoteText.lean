import Keychain.Go.Errors
import Keychain.Lib.Words
import Keychain.Python.Http
import Keychain.Python.Privy
import Keychain.TypeScript.Http

/-!
Remote text before it enters an error, in Go, Python and TypeScript.

Each port replaces the ASCII control characters by spaces, joins the words with one space and
cuts the text to 256 units. None lets an ASCII control character, U+2028 or U+2029 through
(`sanitized_harmless`). The controls from U+0080 to U+009F are not replaced: Go and TypeScript
keep the line break U+0085 inside a text. The ports agree on every text that none of them reads
another space in (`sanitizers_agree`).
-/

namespace Keychain

open Words

/-- A unit that is neither an ASCII control character nor U+2028 nor U+2029. The controls from
U+0080 to U+009F, the line break U+0085 among them, are not excluded. -/
def Uncontrolled (n : ℕ) : Prop := 0x20 ≤ n ∧ n ≠ 0x7f ∧ n ≠ 0x2028 ∧ n ≠ 0x2029

instance decidableUncontrolled (n : ℕ) : Decidable (Uncontrolled n) :=
  inferInstanceAs (Decidable (_ ∧ _))

/-- The cleaned text, cut to 256 units. -/
def cut {α : Type} (placeholder marker text : List α) : List α :=
  if text = [] then placeholder
  else if text.length ≤ 256 then text
  else text.take 256 ++ marker

def placeholder : String := "[empty remote response]"

def marker : String := " [truncated]"

namespace Go

theorem collapseWhitespace_eq (spaced : Bool) (text : List Char) :
    collapseWhitespace spaced text = collapse inWhitespaceRun ' ' spaced text := by
  induction text generalizing spaced with
  | nil => rfl
  | cons c rest ih =>
    rw [collapseWhitespace, collapse, ih, ih]

/-- The text with spaces for its control characters. -/
def uncontrolled (text : List Char) : List Char :=
  text.map fun r => if isDisallowedASCIIControl r then ' ' else r

/-- What is left before the text is cut. -/
def normalized (text : List Char) : List Char :=
  trim isWhitespace (collapse inWhitespaceRun ' ' false (uncontrolled text))

theorem sanitizeRemoteResponse_eq (text : List Char) :
    (sanitizeRemoteResponse text).toList =
      cut placeholder.toList marker.toList (normalized text) := by
  have left : trimSpace (String.ofList (collapseWhitespace false (uncontrolled text))) =
      String.ofList (normalized text) := by
    rw [trimSpace, String.toList_ofList, collapseWhitespace_eq]
    rfl
  have blank : String.ofList (normalized text) = "" ↔ normalized text = [] := by
    rw [← String.toList_eq_nil_iff, String.toList_ofList]
  rw [sanitizeRemoteResponse, sanitizeRemoteResponseN, cut]
  simp only [uncontrolled] at left
  simp only [left, blank, String.length_ofList, String.toList_ofList]
  split
  · rfl
  · split
    · rw [String.toList_ofList]
    · rw [String.toList_append, String.toList_ofList]
      rfl

theorem mem_uncontrolled {text : List Char} {c : Char} (member : c ∈ uncontrolled text) :
    c = ' ' ∨ c ∈ text ∧ isDisallowedASCIIControl c = false := by
  rcases List.mem_map.mp member with ⟨r, inside, rfl⟩
  split
  · exact .inl rfl
  · next allowed => exact .inr ⟨inside, by simpa using allowed⟩

/-- A character that is left is no ASCII control character. -/
theorem uncontrolled_of_mem {text : List Char} {c : Char} (member : c ∈ normalized text) :
    Uncontrolled c.toNat := by
  rcases mem_collapse (mem_trim member) with rfl | ⟨inside, word⟩
  · rw [Uncontrolled]
    decide
  · rcases mem_uncontrolled inside with rfl | ⟨-, allowed⟩
    · cases word
    · simp only [isDisallowedASCIIControl, inWhitespaceRun, Bool.or_eq_false_iff,
        decide_eq_false_iff_not, Bool.and_eq_false_iff] at allowed word
      rw [Uncontrolled]
      omega

/-- Without U+0085, which is trimmed but not collapsed, the words are joined. -/
theorem normalized_eq {text : List Char} (known : ∀ c ∈ text, c.toNat ≠ 0x85) :
    normalized text = joinWords inWhitespaceRun ' ' false false (uncontrolled text) := by
  apply trim_collapse rfl
  intro c member word
  rcases mem_uncontrolled member with rfl | ⟨inside, allowed⟩
  · cases word
  · have known' := known c inside
    simp only [isDisallowedASCIIControl, inWhitespaceRun, isWhitespace, Bool.or_eq_false_iff,
      decide_eq_false_iff_not, Bool.and_eq_false_iff] at allowed word ⊢
    omega

end Go

namespace Python

theorem strJoinWords_eq (begun gap : Bool) (points : List (Fin 0x110000)) :
    Str.joinWords begun gap points = joinWords Str.isSpace Str.space begun gap points := by
  induction points generalizing begun gap with
  | nil => rfl
  | cons n rest ih => rw [Str.joinWords, joinWords, ih, ih]

def uncontrolled (points : List (Fin 0x110000)) : List (Fin 0x110000) :=
  points.map fun n => if isControl n then Str.space else n

/-- What is left before the text is cut. -/
def normalized (text : Str) : List (Fin 0x110000) :=
  joinWords Str.isSpace Str.space false false (uncontrolled text.points)

theorem sanitizeRemoteErrorResponse_eq (text : Str) :
    (sanitizeRemoteErrorResponse text).points =
      cut (Str.ofString placeholder).points (Str.ofString marker).points (normalized text) := by
  have joined : Str.joinWords false false (uncontrolled text.points) = normalized text :=
    strJoinWords_eq false false _
  simp only [uncontrolled] at joined
  simp only [sanitizeRemoteErrorResponse, joined, cut]
  split
  · rfl
  · split
    · rfl
    · rfl

theorem mem_uncontrolled {points : List (Fin 0x110000)} {n : Fin 0x110000}
    (member : n ∈ uncontrolled points) : n = Str.space ∨ n ∈ points ∧ isControl n = false := by
  rcases List.mem_map.mp member with ⟨r, inside, rfl⟩
  split
  · exact .inl rfl
  · next allowed => exact .inr ⟨inside, by simpa using allowed⟩

theorem uncontrolled_of_mem {text : Str} {n : Fin 0x110000} (member : n ∈ normalized text) :
    Uncontrolled n.val := by
  rcases mem_joinWords member with rfl | ⟨inside, word⟩
  · rw [Uncontrolled]
    decide
  · rcases mem_uncontrolled inside with rfl | ⟨-, allowed⟩
    · cases word
    · simp only [isControl, Str.isSpace, Bool.or_eq_false_iff, decide_eq_false_iff_not,
        Bool.and_eq_false_iff] at allowed word
      rw [Uncontrolled]
      omega

end Python

namespace TypeScript

theorem collapseSpaces_eq (spaced : Bool) (units : List UInt16) :
    collapseSpaces spaced units = collapse JsString.isSpace 0x20 spaced units := by
  induction units generalizing spaced with
  | nil => rfl
  | cons unit rest ih => rw [collapseSpaces, collapse, ih, ih]

/-- What is left before the text is cut. -/
def normalized (text : JsString) : List UInt16 :=
  joinWords JsString.isSpace 0x20 false false (replaceDisallowedControlChars text).codeUnits

theorem sanitizeRemoteErrorResponse_eq (text : JsString) :
    (sanitizeRemoteErrorResponse text).codeUnits =
      cut (JsString.ofString placeholder).codeUnits (JsString.ofString marker).codeUnits
        (normalized text) := by
  have left : JsString.trim ⟨collapseSpaces false (replaceDisallowedControlChars text).codeUnits⟩ =
      ⟨normalized text⟩ := by
    have joined := trim_collapse (show JsString.isSpace 0x20 = true from rfl)
      (fun c (_ : c ∈ (replaceDisallowedControlChars text).codeUnits) word => word) false
    rw [JsString.trim, collapseSpaces_eq, normalized, ← joined]
    rfl
  simp only [sanitizeRemoteErrorResponse, left, List.isEmpty_iff, cut]
  split
  · rfl
  · split
    · rfl
    · rfl

theorem uncontrolled_of_mem {text : JsString} {unit : UInt16} (member : unit ∈ normalized text) :
    Uncontrolled unit.toNat := by
  rcases mem_joinWords member with rfl | ⟨inside, word⟩
  · rw [Uncontrolled]
    decide
  · rcases List.mem_map.mp inside with ⟨r, -, rfl⟩
    split at word
    · cases word
    · next allowed =>
      rw [if_neg allowed]
      simp only [isDisallowedAsciiControl, JsString.isSpace, Bool.or_eq_false_iff,
        Bool.or_eq_true, Bool.and_eq_true, decide_eq_true_eq, decide_eq_false_iff_not,
        Bool.and_eq_false_iff] at allowed word
      rw [Uncontrolled]
      omega

end TypeScript

/-! ## No ASCII control character is let through -/

/-- Units without ASCII control characters, at least one of them and no more than a cut text
has. -/
def Harmless (units : List ℕ) : Prop :=
  (∀ n ∈ units, Uncontrolled n) ∧ units ≠ [] ∧ units.length ≤ 268

/-- A text is harmless when the words in it are uncontrolled and it is cut to 256 units. -/
theorem harmless_cut {α : Type} {value : α → ℕ} {alone added text : List α}
    (printed : ∀ c ∈ text, Uncontrolled (value c)) (alone_harmless : Harmless (alone.map value))
    (marked : ∀ c ∈ added, Uncontrolled (value c)) (short : added.length = 12) :
    Harmless ((cut alone added text).map value) := by
  unfold cut
  split
  · exact alone_harmless
  · next some_ =>
    split
    · next fits =>
      refine ⟨List.forall_mem_map.mpr printed, ?_, ?_⟩
      · rw [ne_eq, List.map_eq_nil_iff]
        exact some_
      · rw [List.length_map]
        omega
    · next long =>
      refine ⟨List.forall_mem_map.mpr fun c member => ?_, ?_, ?_⟩
      · rcases List.mem_append.mp member with kept | late
        · exact printed c (List.mem_of_mem_take kept)
        · exact marked c late
      · rw [ne_eq, List.map_eq_nil_iff, List.append_eq_nil_iff]
        intro none
        rw [none.2] at short
        cases short
      · rw [List.length_map, List.length_append, List.length_take, short]
        omega

theorem harmless_placeholder : Harmless (placeholder.toList.map Char.toNat) := by
  refine ⟨?_, ?_, ?_⟩
  · decide +kernel
  · decide +kernel
  · decide +kernel

theorem uncontrolled_marker : ∀ c ∈ marker.toList, Uncontrolled c.toNat := by
  have ascii : ∀ n ∈ marker.toList.map Char.toNat, Uncontrolled n := by decide +kernel
  exact List.forall_mem_map.mp ascii

theorem marker_length : marker.toList.length = 12 := by decide +kernel

theorem basic_texts : (∀ c ∈ placeholder.toList, c.toNat < 0x10000) ∧
    ∀ c ∈ marker.toList, c.toNat < 0x10000 := by
  have basic : ∀ {text : List Char}, (∀ n ∈ text.map Char.toNat, n < 0x10000) →
      ∀ c ∈ text, c.toNat < 0x10000 := List.forall_mem_map.mp
  refine ⟨basic ?_, basic ?_⟩
  · decide +kernel
  · decide +kernel

/-- Whatever a provider answers with, what enters an error holds no ASCII control character (so
no line feed and no carriage return), neither U+2028 nor U+2029, is not empty and has at most
268 units. -/
theorem sanitized_harmless :
    (∀ text : List Char, Harmless ((Go.sanitizeRemoteResponse text).toList.map Char.toNat)) ∧
    (∀ text : Python.Str,
      Harmless ((Python.sanitizeRemoteErrorResponse text).points.map Fin.val)) ∧
    ∀ text : TypeScript.JsString,
      Harmless ((TypeScript.sanitizeRemoteErrorResponse text).codeUnits.map UInt16.toNat) := by
  refine ⟨?_, ?_, ?_⟩
  · intro text
    rw [Go.sanitizeRemoteResponse_eq]
    exact harmless_cut (fun _ => Go.uncontrolled_of_mem) harmless_placeholder uncontrolled_marker
      marker_length
  · intro text
    rw [Python.sanitizeRemoteErrorResponse_eq, Python.Str.points_ofString,
      Python.Str.points_ofString]
    refine harmless_cut (fun _ => Python.uncontrolled_of_mem) ?_ ?_ ?_
    · rw [List.map_map]
      exact harmless_placeholder
    · exact List.forall_mem_map.mpr uncontrolled_marker
    · rfl
  · intro text
    rw [TypeScript.sanitizeRemoteErrorResponse_eq]
    refine harmless_cut (fun _ => TypeScript.uncontrolled_of_mem) ⟨?_, ?_, ?_⟩ ?_ ?_
    · decide +kernel
    · decide +kernel
    · decide +kernel
    · have ascii : ∀ n ∈ (TypeScript.JsString.ofString marker).codeUnits.map UInt16.toNat,
          Uncontrolled n := by decide +kernel
      exact List.forall_mem_map.mp ascii
    · rfl

/-- U+0085 is trimmed but neither replaced nor collapsed. -/
example : Go.sanitizeRemoteResponse ['a', '\u0085', 'b'] = "a\u0085b" := by decide +kernel

/-! ## Agreement -/

/-- The ports read the same spaces in the text. -/
def Known (text : List Char) : Prop := ∀ c ∈ text, c.toNat ≠ 0x85 ∧ c.toNat ≠ 0xFEFF

/-- A character that is left in place of a control character, or none. -/
theorem allowed_of_mem {text : List Char} (known : Known text) {c : Char}
    (member : c ∈ Go.uncontrolled text) : c.toNat ≠ 0x85 ∧ c.toNat ≠ 0xFEFF ∧
      ¬ c.toNat ≤ 0x08 ∧ c.toNat ≠ 0x0b ∧ c.toNat ≠ 0x0c ∧ ¬ (0x0e ≤ c.toNat ∧ c.toNat ≤ 0x1f) := by
  rcases Go.mem_uncontrolled member with rfl | ⟨inside, allowed⟩
  · decide
  · have known' := known c inside
    simp only [Go.isDisallowedASCIIControl, Bool.or_eq_false_iff, decide_eq_false_iff_not,
      Bool.and_eq_false_iff] at allowed
    omega

/-- Cutting commutes with encoding each unit by one. -/
theorem cut_map {α β : Type} {f : α → β} {alone added text : List α} :
    (cut alone added text).map f = cut (alone.map f) (added.map f) (text.map f) := by
  unfold cut
  simp only [List.map_eq_nil_iff, List.length_map]
  split
  · rfl
  · split
    · rfl
    · rw [List.map_append, List.map_take]

namespace Python

open Str (pointOf)

theorem uncontrolled_ofString (text : List Char) :
    uncontrolled (text.map pointOf) = (Go.uncontrolled text).map pointOf := by
  rw [uncontrolled, Go.uncontrolled, List.map_map, List.map_map]
  apply List.map_congr_left
  intro c _
  simp only [Function.comp_def]
  have same : isControl (pointOf c) = Go.isDisallowedASCIIControl c := rfl
  rw [same]
  split
  · rfl
  · rfl

theorem normalized_ofString {text : String} (known : Known text.toList) :
    normalized (.ofString text) = (Go.normalized text.toList).map pointOf := by
  have spaces : ∀ c ∈ Go.uncontrolled text.toList,
      Str.isSpace (pointOf c) = Go.inWhitespaceRun c := by
    intro c member
    have allowed := allowed_of_mem known member
    have value : (pointOf c).val = c.toNat := rfl
    rw [Bool.eq_iff_iff]
    simp only [Str.isSpace, Go.inWhitespaceRun, value, Bool.or_eq_true, Bool.and_eq_true,
      decide_eq_true_eq]
    omega
  rw [normalized, Str.points_ofString, uncontrolled_ofString, List.map_eq_flatMap,
    Go.normalized_eq fun c member => (known c member).1, List.map_eq_flatMap]
  refine joinWords_flatMap ?_ ?_ ?_ false false
  · rfl
  · intro c member space
    exact ⟨_, rfl, (spaces c member).trans space⟩
  · intro c member word
    refine ⟨_, [], rfl, ?_⟩
    intro v only
    rw [List.mem_singleton.mp only, spaces c member]
    exact word

end Python

namespace TypeScript

/-- The code units of a character that is no space and no control character are letters. -/
theorem units_of_letter {c : Char} (word : Go.inWhitespaceRun c = false)
    (printed : ¬ c.toNat ≤ 0x1f) :
    ∃ unit units, codeUnitsOf c = unit :: units ∧
      ∀ u ∈ unit :: units, JsString.isSpace u = false := by
  by_cases small : c.toNat < 0x10000
  · refine ⟨_, [], if_pos small, ?_⟩
    intro u only
    rw [List.mem_singleton.mp only]
    simp only [Go.inWhitespaceRun, Bool.or_eq_false_iff, decide_eq_false_iff_not,
      Bool.and_eq_false_iff] at word
    simp only [JsString.isSpace, toNat_ofNat small, Bool.or_eq_false_iff, decide_eq_false_iff_not,
      Bool.and_eq_false_iff]
    omega
  · rcases codeUnitsOf_pair small with ⟨lead, trail, units, isLead, isTrail, -⟩
    refine ⟨lead, [trail], units, ?_⟩
    intro u member
    have high : 0xD800 ≤ u.toNat ∧ u.toNat ≤ 0xDFFF := by
      simp only [isLeadSurrogate, isTrailSurrogate, Bool.and_eq_true, decide_eq_true_eq] at *
      simp only [List.mem_cons, List.not_mem_nil, or_false] at member
      rcases member with rfl | rfl
      · omega
      · omega
    simp only [JsString.isSpace, Bool.or_eq_false_iff, decide_eq_false_iff_not,
      Bool.and_eq_false_iff]
    omega

theorem replace_ofString (text : List Char) :
    (text.flatMap codeUnitsOf).map (fun unit =>
      if isDisallowedAsciiControl unit.toNat then 0x20 else unit) =
      (Go.uncontrolled text).flatMap codeUnitsOf := by
  have each : ∀ c : Char, (codeUnitsOf c).map (fun unit =>
      if isDisallowedAsciiControl unit.toNat then 0x20 else unit) =
      codeUnitsOf (if Go.isDisallowedASCIIControl c then ' ' else c) := by
    intro c
    by_cases small : c.toNat < 0x10000
    · have same : isDisallowedAsciiControl (UInt16.ofNat c.toNat).toNat =
          Go.isDisallowedASCIIControl c := by
        rw [toNat_ofNat small]
        rfl
      rw [codeUnitsOf, if_pos small, List.map_singleton, same]
      split
      · rfl
      · rw [codeUnitsOf, if_pos small]
    · have printed : Go.isDisallowedASCIIControl c = false := by
        simp only [Go.isDisallowedASCIIControl, Bool.or_eq_false_iff, decide_eq_false_iff_not,
          Bool.and_eq_false_iff]
        omega
      rcases codeUnitsOf_pair small with ⟨lead, trail, units, isLead, isTrail, -⟩
      have high : ¬ isDisallowedAsciiControl lead.toNat ∧
          ¬ isDisallowedAsciiControl trail.toNat := by
        simp only [isLeadSurrogate, isTrailSurrogate, Bool.and_eq_true, decide_eq_true_eq] at *
        simp only [isDisallowedAsciiControl, Bool.or_eq_true, decide_eq_true_eq,
          Bool.and_eq_true]
        omega
      rw [printed, units]
      simp only [List.map_cons, List.map_nil, if_neg high.1, if_neg high.2, Bool.false_eq_true,
        if_false, units]
  rw [Go.uncontrolled, List.flatMap_map, List.map_flatMap]
  exact List.flatMap_congr fun c _ => each c

theorem normalized_ofString {text : String} (known : Known text.toList) :
    normalized (.ofString text) = (Go.normalized text.toList).flatMap codeUnitsOf := by
  have replaced : (replaceDisallowedControlChars (.ofString text)).codeUnits =
      (Go.uncontrolled text.toList).flatMap codeUnitsOf := replace_ofString text.toList
  rw [normalized, replaced, Go.normalized_eq fun c member => (known c member).1]
  refine joinWords_flatMap ?_ ?_ ?_ false false
  · rfl
  · intro c member space
    simp only [Go.inWhitespaceRun, Bool.or_eq_true, Bool.and_eq_true, decide_eq_true_eq] at space
    have small : c.toNat < 0x10000 := by omega
    refine ⟨_, if_pos small, ?_⟩
    simp only [JsString.isSpace, toNat_ofNat small, Bool.or_eq_true, Bool.and_eq_true,
      decide_eq_true_eq]
    omega
  · intro c member word
    have allowed := allowed_of_mem known member
    apply units_of_letter word
    simp only [Go.inWhitespaceRun, Bool.or_eq_false_iff, decide_eq_false_iff_not,
      Bool.and_eq_false_iff] at word
    omega

/-- Every character has a code unit. -/
theorem length_le_flatMap (text : List Char) : text.length ≤ (text.flatMap codeUnitsOf).length := by
  induction text with
  | nil => exact Nat.le_refl 0
  | cons c text ih =>
    have one : 1 ≤ (codeUnitsOf c).length := by
      rw [codeUnitsOf]
      split
      · exact Nat.le_refl 1
      · exact Nat.le_succ 1
    rw [List.flatMap_cons, List.length_append, List.length_cons]
    omega

theorem flatMap_basic {text : List Char} (basic : ∀ c ∈ text, c.toNat < 0x10000) :
    text.flatMap codeUnitsOf = text.map fun c => UInt16.ofNat c.toNat := by
  rw [List.map_eq_flatMap]
  exact List.flatMap_congr fun c member => if_pos (basic c member)

/-- What is cut from a text is part of it. -/
theorem mem_cut {alone added text : List Char} {c : Char} (member : c ∈ cut alone added text) :
    c ∈ alone ∨ c ∈ text ∨ c ∈ added := by
  unfold cut at member
  split at member
  · exact .inl member
  · split at member
    · exact .inr (.inl member)
    · rcases List.mem_append.mp member with kept | late
      · exact .inr (.inl (List.mem_of_mem_take kept))
      · exact .inr (.inr late)

/-- When every character is one code unit, it does not matter which of them are counted. -/
theorem cut_flatMap_basic {alone added text : List Char} (words : ∀ c ∈ alone, c.toNat < 0x10000)
    (words' : ∀ c ∈ added, c.toNat < 0x10000) (basic : ∀ c ∈ text, c.toNat < 0x10000) :
    cut (alone.flatMap codeUnitsOf) (added.flatMap codeUnitsOf) (text.flatMap codeUnitsOf) =
      (cut alone added text).flatMap codeUnitsOf := by
  have all : ∀ c ∈ cut alone added text, c.toNat < 0x10000 := by
    intro c member
    rcases mem_cut member with one | one | one
    · exact words c one
    · exact basic c one
    · exact words' c one
  rw [flatMap_basic words, flatMap_basic words', flatMap_basic basic, flatMap_basic all, cut_map]

/-- A text that is short in code units is not cut. -/
theorem cut_flatMap_short {alone added text : List Char} (few : added.length = 12)
    (short : ((cut alone added text).flatMap codeUnitsOf).length ≤ 256) :
    cut (alone.flatMap codeUnitsOf) (added.flatMap codeUnitsOf) (text.flatMap codeUnitsOf) =
      (cut alone added text).flatMap codeUnitsOf := by
  by_cases blank : text = []
  · rw [blank]
    rfl
  · have fits : text.length ≤ 256 := by
      by_contra long
      have units := length_le_flatMap (cut alone added text)
      rw [cut, if_neg blank, if_neg long] at units short
      rw [List.length_append, List.length_take, few] at units
      omega
    have filled : ¬ text.flatMap codeUnitsOf = [] := by
      intro none
      have length := length_le_flatMap text
      rw [none] at length
      exact blank (List.length_eq_zero_iff.mp (Nat.le_zero.mp length))
    have whole : cut alone added text = text := by rw [cut, if_neg blank, if_pos fits]
    rw [whole] at short ⊢
    rw [cut, if_neg filled, if_pos short]

end TypeScript

/-- Go, Python and TypeScript clean a text to the same text, when it holds neither U+0085 nor
U+FEFF; in TypeScript when the cleaned text has at most 256 code units or no character needs
two. -/
theorem sanitizers_agree (text : String) (known : Known text.toList) :
    Python.sanitizeRemoteErrorResponse (.ofString text) =
      .ofString (Go.sanitizeRemoteResponse text.toList) ∧
    (((TypeScript.JsString.ofString
        (Go.sanitizeRemoteResponse text.toList)).codeUnits.length ≤ 256 ∨
      ∀ c ∈ text.toList, c.toNat < 0x10000) →
      TypeScript.sanitizeRemoteErrorResponse (.ofString text) =
        .ofString (Go.sanitizeRemoteResponse text.toList)) := by
  constructor
  · apply Python.Str.eq_of_points
    rw [Python.sanitizeRemoteErrorResponse_eq, Python.normalized_ofString known,
      Python.Str.points_ofString, Python.Str.points_ofString, Python.Str.points_ofString,
      Go.sanitizeRemoteResponse_eq, cut_map]
  · intro alike
    have units : (TypeScript.sanitizeRemoteErrorResponse (.ofString text)).codeUnits =
        (TypeScript.JsString.ofString (Go.sanitizeRemoteResponse text.toList)).codeUnits := by
      simp only [TypeScript.JsString.ofString] at alike
      rw [TypeScript.sanitizeRemoteErrorResponse_eq, TypeScript.normalized_ofString known]
      simp only [TypeScript.JsString.ofString]
      rw [Go.sanitizeRemoteResponse_eq] at alike ⊢
      rcases alike with short | basic
      · exact TypeScript.cut_flatMap_short marker_length short
      · refine TypeScript.cut_flatMap_basic basic_texts.1 basic_texts.2 ?_
        intro c member
        rcases mem_collapse (mem_trim member) with rfl | ⟨inside, -⟩
        · decide
        · rcases Go.mem_uncontrolled inside with rfl | ⟨inside', -⟩
          · decide
          · exact basic c inside'
    exact TypeScript.JsString.eq_of_codeUnits units

/-- A text with a tab, a newline and a character of two code units. -/
theorem sanitizers_agree_tabbed :
    TypeScript.sanitizeRemoteErrorResponse (.ofString "bad\tkey \n😀") =
      .ofString (Go.sanitizeRemoteResponse "bad\tkey \n😀".toList) := by
  refine (sanitizers_agree "bad\tkey \n😀" ?_).2 (.inl ?_)
  · have known : ∀ n ∈ "bad\tkey \n😀".toList.map Char.toNat, n ≠ 0x85 ∧ n ≠ 0xFEFF := by
      decide +kernel
    exact List.forall_mem_map.mp known
  · decide +kernel

end Keychain
