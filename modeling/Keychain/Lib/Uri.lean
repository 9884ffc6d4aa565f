import Mathlib.Data.List.Forall2
import Mathlib.Data.List.TakeWhile

/-!
References as a client takes them apart: the components, the segments of the path, the
removal of dot segments and percent-decoding.

A client that follows the WHATWG standard takes a percent-encoded dot for a dot as well. The
main result, `exists_removeDotSegments_append_iff`, is for both standards: segments appended
to a path stay where they are if and only if none of them is a dot segment.
-/

namespace Keychain.Uri

/-- A part of a reference, or a segment of its path. -/
abbrev Segment := List Char

inductive Standard where
  | rfc3986
  | whatwg
  deriving DecidableEq

/-! ## Components -/

structure Reference where
  scheme : Option Segment
  authority : Option Segment
  path : List Char
  query : Option (List Char)
  fragment : Option (List Char)
  deriving DecidableEq

/-- What stands before the first `c`, and what stands behind it. -/
def cut (c : Char) : List Char → List Char × Option (List Char)
  | [] => ([], none)
  | d :: rest => if d = c then ([], some rest) else (d :: (cut c rest).1, (cut c rest).2)

/-- A query or a fragment begins. -/
def isMark (c : Char) : Bool := c == '?' || c == '#'

/-- The scheme and the authority and the path. -/
def hierarchy (text : List Char) : List Char := text.takeWhile fun c => !isMark c

/-- A scheme ends with a colon, which stands before every slash. -/
def splitScheme (text : List Char) : Option Segment × List Char :=
  match cut ':' text with
  | (_, none) => (none, text)
  | (name, some rest) => if name ≠ [] ∧ '/' ∉ name then (some name, rest) else (none, text)

/-- An authority stands behind two slashes and before the next one. -/
def splitAuthority : List Char → Option Segment × List Char
  | '/' :: '/' :: rest => (some (rest.takeWhile (· ≠ '/')), rest.dropWhile (· ≠ '/'))
  | path => (none, path)

def parse (text : List Char) : Reference where
  scheme := (splitScheme (hierarchy text)).1
  authority := (splitAuthority (splitScheme (hierarchy text)).2).1
  path := (splitAuthority (splitScheme (hierarchy text)).2).2
  query := (cut '?' (cut '#' text).1).2
  fragment := (cut '#' text).2

section

variable {c : Char} {text more : List Char}

theorem cut_of_not_mem (absent : c ∉ text) : cut c text = (text, none) := by
  induction text with
  | nil => rfl
  | cons d rest ih =>
    rw [List.mem_cons, not_or] at absent
    rw [cut, if_neg (Ne.symm absent.1), ih absent.2]

theorem cut_append_of_mem (present : c ∈ text) :
    cut c (text ++ more) = ((cut c text).1, (cut c text).2.map (· ++ more)) := by
  induction text with
  | nil => exact absurd present List.not_mem_nil
  | cons d rest ih =>
    rw [List.cons_append, cut, cut]
    by_cases same : d = c
    · rw [if_pos same, if_pos same]
      rfl
    · have later : c ∈ rest := List.mem_of_ne_of_mem (Ne.symm same) present
      rw [if_neg same, if_neg same, ih later]

/-- A slash before the first `c` stands in what the `c` ends. -/
theorem cut_append_slash (absent : c ∉ text) (other : '/' ≠ c) :
    ∃ rest, cut c (text ++ '/' :: more) = (text ++ '/' :: (cut c more).1, rest) := by
  induction text with
  | nil =>
    refine ⟨(cut c more).2, ?_⟩
    rw [List.nil_append, cut, if_neg other, List.nil_append]
  | cons d text ih =>
    rw [List.mem_cons, not_or] at absent
    obtain ⟨rest, parts⟩ := ih absent.2
    refine ⟨rest, ?_⟩
    rw [List.cons_append, cut, if_neg (Ne.symm absent.1), parts, List.cons_append]

theorem hierarchy_of_plain (plain : ∀ c ∈ text, isMark c = false) : hierarchy text = text := by
  rw [hierarchy, List.takeWhile_eq_self_iff]
  intro c member
  rw [plain c member, Bool.not_false]

/-- What is appended to a query or a fragment belongs to it. -/
theorem hierarchy_append_of_marked (marked : ∃ c ∈ text, isMark c = true) :
    hierarchy (text ++ more) = hierarchy text := by
  rw [hierarchy, hierarchy]
  induction text with
  | nil =>
    obtain ⟨c, member, -⟩ := marked
    exact absurd member List.not_mem_nil
  | cons d rest ih =>
    rw [List.cons_append, List.takeWhile_cons, List.takeWhile_cons]
    by_cases mark : isMark d = true
    · rw [mark]
      rfl
    · obtain ⟨c, member, isMark'⟩ := marked
      rcases List.mem_cons.mp member with rfl | member
      · exact absurd isMark' mark
      · rw [ih ⟨c, member, isMark'⟩]

theorem splitScheme_append :
    splitScheme (text ++ '/' :: more) =
      ((splitScheme text).1, (splitScheme text).2 ++ '/' :: more) := by
  rw [splitScheme, splitScheme]
  by_cases colon : ':' ∈ text
  · rw [cut_append_of_mem colon]
    rcases cut ':' text with ⟨name, _ | rest⟩
    · rfl
    · by_cases named : name ≠ [] ∧ '/' ∉ name
      · simp only [Option.map_some, if_pos named]
      · simp only [Option.map_some, if_neg named]
  · rw [cut_of_not_mem colon]
    obtain ⟨rest, parts⟩ := @cut_append_slash ':' text more colon (by decide)
    have unnamed : ¬ (text ++ '/' :: (cut ':' more).1 ≠ [] ∧
        '/' ∉ text ++ '/' :: (cut ':' more).1) :=
      fun named => named.2 (List.mem_append_right _ List.mem_cons_self)
    rw [parts]
    rcases rest with _ | rest
    · rfl
    · simp only [if_neg unnamed]

theorem splitAuthority_of_single (single : ∀ rest, text ≠ '/' :: '/' :: rest) :
    splitAuthority text = (none, text) := by
  rw [splitAuthority]
  exact single

/-- A slash ends an authority, if nothing did before. -/
theorem takeWhile_dropWhile_append_slash :
    (text ++ '/' :: more).takeWhile (· ≠ '/') = text.takeWhile (· ≠ '/') ∧
      (text ++ '/' :: more).dropWhile (· ≠ '/') = text.dropWhile (· ≠ '/') ++ '/' :: more := by
  induction text with
  | nil => exact ⟨rfl, rfl⟩
  | cons d rest ih =>
    by_cases slash : d = '/'
    · subst slash
      exact ⟨rfl, rfl⟩
    · simp only [List.cons_append, List.takeWhile_cons, List.dropWhile_cons, ne_eq, slash,
        not_false_eq_true, decide_true, if_true, List.cons.injEq, true_and]
      exact ih

theorem splitAuthority_append (solid : text.getLast? ≠ some '/') (first : more.head? ≠ some '/') :
    splitAuthority (text ++ '/' :: more) =
      ((splitAuthority text).1, (splitAuthority text).2 ++ '/' :: more) := by
  by_cases double : ∃ rest, text = '/' :: '/' :: rest
  · obtain ⟨rest, rfl⟩ := double
    rw [List.cons_append, List.cons_append, splitAuthority, splitAuthority,
      takeWhile_dropWhile_append_slash.1, takeWhile_dropWhile_append_slash.2]
  · rw [not_exists] at double
    rw [splitAuthority_of_single double, splitAuthority_of_single]
    intro rest same
    -- the second slash would be the last of the text, or the first of what follows
    rcases text with _ | ⟨d, _ | ⟨e, text⟩⟩
    · exact first (by rw [(List.cons.inj same).2]; rfl)
    · exact solid (by rw [(List.cons.inj same).1]; rfl)
    · rw [List.cons_append, List.cons_append, List.cons.injEq, List.cons.injEq] at same
      exact double text (by rw [same.1, same.2.1])

theorem cut_suffix {rest : List Char} (found : (cut c text).2 = some rest) : rest <:+ text := by
  induction text with
  | nil => cases found
  | cons d text ih =>
    rw [cut] at found
    split_ifs at found
    · cases found
      exact List.suffix_cons d _
    · exact (ih found).trans (List.suffix_cons d text)

theorem splitScheme_suffix : (splitScheme text).2 <:+ text := by
  rw [splitScheme]
  split
  · exact List.suffix_refl _
  · rename_i name rest parts
    split
    · exact cut_suffix (by rw [parts])
    · exact List.suffix_refl _

theorem not_mem_of_plain (plain : ∀ c ∈ text, isMark c = false) : '?' ∉ text ∧ '#' ∉ text :=
  ⟨fun member => absurd (plain _ member) (by decide),
    fun member => absurd (plain _ member) (by decide)⟩

theorem parse_of_plain (plain : ∀ c ∈ text, isMark c = false) :
    (parse text).query = none ∧ (parse text).fragment = none := by
  obtain ⟨noQuery, noFragment⟩ := not_mem_of_plain plain
  constructor
  · rw [parse, cut_of_not_mem noFragment, cut_of_not_mem noQuery]
  · rw [parse, cut_of_not_mem noFragment]

/-- A path grows by what is appended behind a slash. -/
theorem parse_append (plain : ∀ c ∈ text, isMark c = false) (plain' : ∀ c ∈ more, isMark c = false)
    (solid : text.getLast? ≠ some '/') (first : more.head? ≠ some '/') :
    parse (text ++ '/' :: more) =
      { parse text with path := (parse text).path ++ '/' :: more } := by
  have whole : ∀ c ∈ text ++ '/' :: more, isMark c = false := by
    intro c member
    rw [List.mem_append, List.mem_cons] at member
    rcases member with member | rfl | member
    · exact plain c member
    · rfl
    · exact plain' c member
  have solid' : (splitScheme text).2.getLast? ≠ some '/' := by
    intro last
    have suffix : (splitScheme text).2 <:+ text := splitScheme_suffix
    obtain ⟨front, parts⟩ := suffix
    rw [← parts, List.getLast?_append, last] at solid
    exact solid rfl
  have none := parse_of_plain plain
  have none' := parse_of_plain whole
  simp only [parse] at none none' ⊢
  rw [none.1, none.2, none'.1, none'.2, hierarchy_of_plain whole, hierarchy_of_plain plain,
    splitScheme_append, splitAuthority_append solid' first]

theorem path_append_of_marked (marked : ∃ c ∈ text, isMark c = true) :
    (parse (text ++ more)).path = (parse text).path := by
  rw [parse, parse, hierarchy_append_of_marked marked]

end

/-! ## Segments -/

/-- The segments of a path, behind its first slash. -/
def pathSegments : List Char → List Segment
  | [] => []
  | '/' :: rest => rest.splitOn '/'
  | path => path.splitOn '/'

/-- The segments that stand for the place where they stand. -/
def singleDots : Standard → List Segment
  | .rfc3986 => [".".toList]
  | .whatwg => [".".toList, "%2e".toList, "%2E".toList]

/-- The segments that stand for the place above. -/
def doubleDots : Standard → List Segment
  | .rfc3986 => ["..".toList]
  | .whatwg =>
    ["..".toList, ".%2e".toList, ".%2E".toList, "%2e.".toList, "%2E.".toList, "%2e%2e".toList,
      "%2e%2E".toList, "%2E%2e".toList, "%2E%2E".toList]

def isSingleDot (standard : Standard) (segment : Segment) : Bool :=
  (singleDots standard).contains segment

def isDoubleDot (standard : Standard) (segment : Segment) : Bool :=
  (doubleDots standard).contains segment

def isDot (standard : Standard) (segment : Segment) : Bool :=
  isSingleDot standard segment || isDoubleDot standard segment

/-- The place that a segment leads to. -/
def enter (standard : Standard) (place : List Segment) (segment : Segment) : List Segment :=
  if isDoubleDot standard segment then place.dropLast
  else if isSingleDot standard segment then place
  else place ++ [segment]

/-- The place that a path leads to. -/
def resolve (standard : Standard) (segments : List Segment) : List Segment :=
  segments.foldl (enter standard) []

/-- The segments without dot segments. Behind a dot segment at the end, the path ends with a
slash. -/
def removeDotSegments (standard : Standard) (segments : List Segment) : List Segment :=
  resolve standard segments ++
    if segments.getLast?.any (isDot standard) then [[]] else []

section

variable {standard : Standard} {segment : Segment} {segments place base : List Segment}
  {path more : List Char}

theorem pathSegments_of_ne {c : Char} (other : c ≠ '/') :
    pathSegments (c :: path) = (c :: path).splitOn '/' := by
  rw [pathSegments]
  · exact List.cons_ne_nil c path
  · intro rest same
    exact other (List.cons.inj same).1

theorem pathSegments_append :
    pathSegments (path ++ '/' :: more) = pathSegments path ++ more.splitOn '/' := by
  match path with
  | [] => rfl
  | c :: path =>
    by_cases slash : c = '/'
    · subst slash
      exact List.splitOn_append_cons_self ..
    · rw [List.cons_append, pathSegments_of_ne slash, pathSegments_of_ne slash, ← List.cons_append]
      exact List.splitOn_append_cons_self ..

theorem enter_of_not_isDot (plain : isDot standard segment = false) :
    enter standard place segment = place ++ [segment] := by
  rw [isDot, Bool.or_eq_false_iff] at plain
  rw [enter, plain.1, plain.2]
  rfl

theorem foldl_enter_of_not_isDot (plain : ∀ segment ∈ segments, isDot standard segment = false) :
    segments.foldl (enter standard) place = place ++ segments := by
  induction segments generalizing place with
  | nil => exact (List.append_nil _).symm
  | cons segment segments ih =>
    rw [List.forall_mem_cons] at plain
    rw [List.foldl_cons, enter_of_not_isDot plain.1, ih plain.2, List.append_assoc,
      List.singleton_append]

theorem length_enter_of_isDot (dot : isDot standard segment = true) :
    (enter standard place segment).length ≤ place.length := by
  rw [enter]
  split_ifs with double single
  · rw [List.length_dropLast]
    omega
  · exact le_refl _
  · rw [isDot, Bool.or_eq_true] at dot
    rcases dot with dot | dot
    · exact absurd dot single
    · exact absurd dot double

theorem length_enter_le : (enter standard place segment).length ≤ place.length + 1 := by
  cases dot : isDot standard segment with
  | true => exact Nat.le_succ_of_le (length_enter_of_isDot dot)
  | false => rw [enter_of_not_isDot dot, List.length_append, List.length_singleton]

theorem length_foldl_enter_le :
    (segments.foldl (enter standard) place).length ≤ place.length + segments.length := by
  induction segments generalizing place with
  | nil => exact le_refl _
  | cons segment segments ih =>
    have step : (enter standard place segment).length ≤ place.length + 1 := length_enter_le
    have rest : (segments.foldl (enter standard) (enter standard place segment)).length ≤
        (enter standard place segment).length + segments.length := ih
    rw [List.foldl_cons, List.length_cons]
    omega

/-- A dot segment leaves a shorter path. -/
theorem length_foldl_enter_lt (dot : ∃ segment ∈ segments, isDot standard segment = true) :
    (segments.foldl (enter standard) place).length < place.length + segments.length := by
  induction segments generalizing place with
  | nil =>
    obtain ⟨segment, member, -⟩ := dot
    exact absurd member List.not_mem_nil
  | cons segment segments ih =>
    rw [List.foldl_cons, List.length_cons]
    cases here : isDot standard segment with
    | true =>
      have step : (enter standard place segment).length ≤ place.length :=
        length_enter_of_isDot here
      have rest : (segments.foldl (enter standard) (enter standard place segment)).length ≤
          (enter standard place segment).length + segments.length := length_foldl_enter_le
      omega
    | false =>
      obtain ⟨other, member, dot⟩ := dot
      have later : other ∈ segments := by
        rcases List.mem_cons.mp member with rfl | later
        · rw [here] at dot
          cases dot
        · exact later
      have rest : (segments.foldl (enter standard) (enter standard place segment)).length <
          (enter standard place segment).length + segments.length := ih ⟨other, later, dot⟩
      have step : (enter standard place segment).length ≤ place.length + 1 := length_enter_le
      omega

theorem resolve_append :
    resolve standard (base ++ segments) =
      segments.foldl (enter standard) (resolve standard base) :=
  List.foldl_append

theorem removeDotSegments_concat {last : Segment} :
    removeDotSegments standard (segments ++ [last]) =
      resolve standard (segments ++ [last]) ++ if isDot standard last then [[]] else [] := by
  rw [removeDotSegments, List.getLast?_concat, Option.any_some]

/-- Every one of the appended segments is kept if none of them is a dot segment. -/
theorem removeDotSegments_append_of_not_isDot (nonempty : segments ≠ [])
    (plain : ∀ segment ∈ segments, isDot standard segment = false) :
    removeDotSegments standard (base ++ segments) = resolve standard base ++ segments := by
  rcases List.eq_nil_or_concat' segments with none | ⟨front, last, rfl⟩
  · exact absurd none nonempty
  · have here := plain last (List.mem_append_right front List.mem_cons_self)
    rw [← List.append_assoc, removeDotSegments_concat, here, List.append_assoc, resolve_append,
      foldl_enter_of_not_isDot plain]
    exact List.append_nil _

section

variable {α : Type} {reads : Segment → α → Prop} {encode : α → Segment}

theorem forall₂_reads_concat {read : List Segment} {front : List α} {last : α}
    (all : List.Forall₂ reads read (front ++ [last])) :
    ∃ begun ended, read = begun ++ [ended] ∧ reads ended last := by
  rw [← List.forall₂_reverse_iff, List.reverse_concat, List.forall₂_cons_right_iff] at all
  obtain ⟨ended, begun, own, -, parts⟩ := all
  refine ⟨begun.reverse, ended, ?_, own⟩
  rw [← List.reverse_cons, ← parts, List.reverse_reverse]

/-- Segments that are appended to a path stay behind the place that the path leads to, each
read as the input it is made of, if and only if none of them is a dot segment. -/
theorem exists_removeDotSegments_append_iff {fixed : List Segment} {inputs : List α}
    (own : ∀ input, reads (encode input) input)
    (visible : ∀ input, isDot standard (encode input) = true → ¬ reads [] input)
    (plain : ∀ segment ∈ fixed, isDot standard segment = false) (nonempty : inputs ≠ []) :
    (∃ read, removeDotSegments standard (base ++ (fixed ++ inputs.map encode)) =
        resolve standard base ++ (fixed ++ read) ∧ List.Forall₂ reads read inputs) ↔
      ∀ input ∈ inputs, isDot standard (encode input) = false := by
  constructor
  · intro stays
    obtain ⟨read, removed, all⟩ := stays
    rcases List.eq_nil_or_concat' inputs with none | ⟨front, last, rfl⟩
    · exact absurd none nonempty
    have place : resolve standard (base ++ fixed) = resolve standard base ++ fixed := by
      rw [resolve_append, foldl_enter_of_not_isDot plain]
    rw [← List.append_assoc, List.map_append, List.map_singleton, ← List.append_assoc,
      removeDotSegments_concat, List.append_assoc, resolve_append, place, ← List.append_assoc]
      at removed
    cases ends : isDot standard (encode last) with
    | true =>
      -- a dot segment at the end leaves an empty segment there
      obtain ⟨begun, ended, rfl, reading⟩ := forall₂_reads_concat all
      rw [ends, if_pos rfl, ← List.append_assoc] at removed
      have blank : [] = ended := (List.append_singleton_inj.mp removed).2
      exact absurd (blank ▸ reading) (visible last ends)
    | false =>
      -- any other takes a segment away
      rw [ends, if_neg Bool.false_ne_true, List.append_nil] at removed
      intro input member
      by_contra dot
      have shorter := @length_foldl_enter_lt standard _ (resolve standard base ++ fixed)
        ⟨encode input, List.mem_map_of_mem member, Bool.not_eq_false _ ▸ dot⟩
      rw [List.map_append, List.map_singleton, removed, List.length_append, all.length_eq]
        at shorter
      simp at shorter
  · intro undotted
    refine ⟨inputs.map encode, ?_, ?_⟩
    · apply removeDotSegments_append_of_not_isDot
      · exact List.append_ne_nil_of_right_ne_nil _ (mt List.map_eq_nil_iff.mp nonempty)
      · intro segment member
        rcases List.mem_append.mp member with member | member
        · exact plain segment member
        · obtain ⟨input, given, rfl⟩ := List.mem_map.mp member
          exact undotted input given
    · rw [List.forall₂_map_left_iff]
      exact List.forall₂_same.mpr fun input _ => own input

end

end

/-! ## Percent-decoding -/

def hexDigit (c : Char) : Option ℕ :=
  if '0' ≤ c ∧ c ≤ '9' then some (c.toNat - 48)
  else if 'A' ≤ c ∧ c ≤ 'F' then some (c.toNat - 55)
  else if 'a' ≤ c ∧ c ≤ 'f' then some (c.toNat - 87)
  else none

/-- The bytes that a segment stands for. A percent sign that no two hexadecimal digits follow
stands for itself. -/
def percentDecode : Segment → List UInt8
  | '%' :: high :: low :: rest =>
    match hexDigit high, hexDigit low with
    | some m, some n => UInt8.ofNat (16 * m + n) :: percentDecode rest
    | _, _ => 0x25 :: percentDecode (high :: low :: rest)
  | c :: rest => String.utf8EncodeChar c ++ percentDecode rest
  | [] => []

theorem percentDecode_cons {c : Char} {rest : Segment} (plain : c ≠ '%') :
    percentDecode (c :: rest) = String.utf8EncodeChar c ++ percentDecode rest := by
  rw [percentDecode]
  intro high low tail escape
  exact absurd escape plain

theorem percentDecode_escape {high low : Char} {m n : ℕ} {rest : Segment}
    (first : hexDigit high = some m) (second : hexDigit low = some n) :
    percentDecode ('%' :: high :: low :: rest) =
      UInt8.ofNat (16 * m + n) :: percentDecode rest := by
  rw [percentDecode, first, second]

theorem percentDecode_of_isDot {standard : Standard} {segment : Segment}
    (dot : isDot standard segment = true) :
    percentDecode segment = [0x2e] ∨ percentDecode segment = [0x2e, 0x2e] := by
  have single : ∀ segment ∈ singleDots standard, percentDecode segment = [0x2e] := by
    cases standard <;> decide +kernel
  have double : ∀ segment ∈ doubleDots standard, percentDecode segment = [0x2e, 0x2e] := by
    cases standard <;> decide +kernel
  rw [isDot, Bool.or_eq_true] at dot
  rcases dot with dot | dot
  · exact .inl (single segment (List.contains_iff_mem.mp dot))
  · exact .inr (double segment (List.contains_iff_mem.mp dot))

/-- An encoding that decodes byte by byte decodes. -/
theorem percentDecode_flatMap {code : UInt8 → Segment}
    (each : ∀ byte rest, percentDecode (code byte ++ rest) = byte :: percentDecode rest)
    (bytes : List UInt8) : percentDecode (bytes.flatMap code) = bytes := by
  induction bytes with
  | nil => rw [List.flatMap_nil, percentDecode]
  | cons byte bytes ih => rw [List.flatMap_cons, each, ih]

end Keychain.Uri
