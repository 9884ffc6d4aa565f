import Mathlib.Data.List.Induction
import Mathlib.Order.Bounds.Basic
import Keychain.Lib.Best
import Keychain.Rust.Ledger.Dashboard

/-!
Which Ledger the dashboard talks to: `select_ledger` for a path the caller named, and
`sole_ledger` when it named none.

`sharedPrefixLen_isGreatest` says what the prefix match measures, and everything about
the two functions follows from it. A path that is attached is selected; otherwise the
one best match is, if it covers four fifths of the requested path
(`selectLedger_eq_some_iff`). How much of its own path the match covers is not asked.
`soleLedger` compares every candidate with the first one only (`accepts_iff`), and
`sameDevice` is not transitive.
-/

namespace Keychain.Rust.Ledger

/-! ## The shared prefix -/

def delimiters : Bytes := utf8 "/:@\\"

/-- The first `k` bytes are the same in both. -/
def IsCommonPrefix (a b : Bytes) (k : ℕ) : Prop :=
  k ≤ a.length ∧ k ≤ b.length ∧ a.take k = b.take k

/-- The first `k` bytes end just after a delimiter, or are none. -/
def EndsAtDelimiter (bytes : Bytes) (k : ℕ) : Prop :=
  k = 0 ∨ ∃ byte ∈ delimiters, bytes[k - 1]? = some byte

section

variable {a b : Bytes} {k : ℕ}

/-- The bytes two paths begin with. -/
def commonBytes (a b : Bytes) : Bytes :=
  ((a.zip b).takeWhile fun (x, y) => x = y).map Prod.fst

theorem commonBytes_cons {x y : UInt8} :
    commonBytes (x :: a) (y :: b) = if x = y then x :: commonBytes a b else [] := by
  by_cases same : x = y
  · simp [commonBytes, same]
  · simp [commonBytes, same]

theorem commonBytes_eq_take : commonBytes a b = a.take (commonBytes a b).length := by
  induction a generalizing b with
  | nil => rfl
  | cons x a ih =>
    cases b with
    | nil => rfl
    | cons y b =>
      rw [commonBytes_cons]
      split
      · rw [List.length_cons, List.take_succ_cons, ← ih]
      · rfl

theorem le_length_commonBytes_iff : k ≤ (commonBytes a b).length ↔ IsCommonPrefix a b k := by
  induction k generalizing a b with
  | zero => simp [IsCommonPrefix]
  | succ k ih =>
    rcases a with _ | ⟨x, a⟩
    · simp [IsCommonPrefix, commonBytes]
    rcases b with _ | ⟨y, b⟩
    · simp [IsCommonPrefix, commonBytes]
    rw [commonBytes_cons]
    split
    · next same =>
      rw [List.length_cons, Nat.succ_le_succ_iff, ih]
      simp [IsCommonPrefix, same]
    · next distinct => simp [IsCommonPrefix, distinct]

/-- The length up to the last entry that satisfies `d`. -/
def cutBack (d : UInt8 → Bool) (bytes : Bytes) : ℕ :=
  bytes.length - (bytes.reverse.takeWhile fun byte => !d byte).length

theorem cutBack_isGreatest {d : UInt8 → Bool} {bytes : Bytes} :
    IsGreatest {k | k ≤ bytes.length ∧ (k = 0 ∨ ∃ byte, bytes[k - 1]? = some byte ∧ d byte = true)}
      (cutBack d bytes) := by
  induction bytes using List.reverseRecOn with
  | nil => simp [cutBack, IsGreatest, upperBounds]
  | append_singleton bytes last ih =>
    by_cases delimits : d last = true
    · have whole : cutBack d (bytes ++ [last]) = bytes.length + 1 := by
        simp [cutBack, delimits]
      rw [whole]
      constructor
      · exact ⟨by simp, .inr ⟨last, by simp, delimits⟩⟩
      · intro k bounded
        simpa using bounded.1
    · have shorter : cutBack d (bytes ++ [last]) = cutBack d bytes := by
        simp [cutBack, delimits]
      rw [shorter]
      have earlier : ∀ k, k ≤ bytes.length → k ≠ 0 → (bytes ++ [last])[k - 1]? = bytes[k - 1]? := by
        intro k bounded positive
        exact List.getElem?_append_left (by omega)
      constructor
      · have least : cutBack d bytes ≤ bytes.length := ih.1.1
        refine ⟨by simp; omega, ?_⟩
        rcases ih.1.2 with zero | ⟨byte, found, ends⟩
        · exact .inl zero
        · by_cases zero : cutBack d bytes = 0
          · exact .inl zero
          · exact .inr ⟨byte, by rw [earlier _ least zero, found], ends⟩
      · intro k given
        rcases given with ⟨bounded, zero | ⟨byte, found, ends⟩⟩
        · omega
        · by_cases zero : k = 0
          · omega
          have inside : k ≤ bytes.length := by
            simp only [List.length_append, List.length_singleton] at bounded
            by_contra beyond
            have full : k - 1 = bytes.length := by omega
            rw [full] at found
            simp only [List.getElem?_concat_length, Option.some.injEq] at found
            exact delimits (found ▸ ends)
          rw [earlier k inside zero] at found
          exact ih.2 ⟨inside, .inr ⟨byte, found, ends⟩⟩

end

variable {a b : String}

theorem sharedPrefixLen_eq :
    sharedPrefixLen a b = cutBack (delimiters.contains ·) (commonBytes (utf8 a) (utf8 b)) := rfl

/-- The longest common prefix that ends at a delimiter. -/
theorem sharedPrefixLen_isGreatest :
    IsGreatest {k | IsCommonPrefix (utf8 a) (utf8 b) k ∧ EndsAtDelimiter (utf8 a) k}
      (sharedPrefixLen a b) := by
  have same : {k | IsCommonPrefix (utf8 a) (utf8 b) k ∧ EndsAtDelimiter (utf8 a) k} =
      {k | k ≤ (commonBytes (utf8 a) (utf8 b)).length ∧ (k = 0 ∨
        ∃ byte, (commonBytes (utf8 a) (utf8 b))[k - 1]? = some byte ∧
          delimiters.contains byte = true)} := by
    ext k
    simp only [Set.mem_ofPred_eq, le_length_commonBytes_iff, EndsAtDelimiter, List.contains_iff_mem]
    apply and_congr_right
    intro common
    have bounded := le_length_commonBytes_iff.mpr common
    by_cases zero : k = 0
    · simp [zero]
    · have at_last : (commonBytes (utf8 a) (utf8 b))[k - 1]? = (utf8 a)[k - 1]? := by
        rw [commonBytes_eq_take, List.getElem?_take_of_lt (by omega)]
      simp only [zero, at_last, false_or]
      constructor
      · intro given
        rcases given with ⟨byte, delimits, found⟩
        exact ⟨byte, found, delimits⟩
      · intro given
        rcases given with ⟨byte, found, delimits⟩
        exact ⟨byte, delimits, found⟩
  rw [same, sharedPrefixLen_eq]
  exact cutBack_isGreatest

theorem IsCommonPrefix.symm {a b : Bytes} {k : ℕ} (common : IsCommonPrefix a b k) :
    IsCommonPrefix b a k :=
  ⟨common.2.1, common.1, common.2.2.symm⟩

theorem IsCommonPrefix.endsAtDelimiter {a b : Bytes} {k : ℕ} (common : IsCommonPrefix a b k)
    (ends : EndsAtDelimiter a k) : EndsAtDelimiter b k := by
  rcases ends with zero | ⟨byte, delimits, found⟩
  · exact .inl zero
  · by_cases zero : k = 0
    · exact .inl zero
    · refine .inr ⟨byte, delimits, ?_⟩
      have inside : k - 1 < k := by omega
      rw [← List.getElem?_take_of_lt inside, ← common.2.2, List.getElem?_take_of_lt inside]
      exact found

theorem sharedPrefixLen_comm : sharedPrefixLen a b = sharedPrefixLen b a := by
  have least : ∀ a b, sharedPrefixLen a b ≤ sharedPrefixLen b a := by
    intro a b
    have here : IsCommonPrefix (utf8 a) (utf8 b) _ ∧ EndsAtDelimiter (utf8 a) _ :=
      (sharedPrefixLen_isGreatest (a := a) (b := b)).1
    exact sharedPrefixLen_isGreatest.2 ⟨here.1.symm, here.1.endsAtDelimiter here.2⟩
  exact Nat.le_antisymm (least a b) (least b a)

/-! ## Slicing -/

/-- `bytes[..stop]`; `none` is the panic. -/
def sliceTo (bytes : Bytes) (stop : ℕ) : Option Bytes :=
  if stop ≤ bytes.length then some (bytes.take stop) else none

/-- `shared_prefix_len` step by step: count the equal bytes, slice them off the first
path and look for the last delimiter from the end. -/
def sharedPrefixLenSliced (a b : String) : Option ℕ := do
  let common := ((utf8 a).zip (utf8 b)).takeWhile fun (x, y) => x = y
  let shared ← sliceTo (utf8 a) common.length
  pure ((shared.reverse.findIdx? delimiters.contains).elim 0 fun i => shared.length - i)

/-- Cutting back is looking for the last delimiter from the end. -/
theorem cutBack_eq_elim {d : UInt8 → Bool} {bytes : Bytes} :
    cutBack d bytes = (bytes.reverse.findIdx? d).elim 0 fun i => bytes.length - i := by
  have found : ∀ reversed : Bytes,
      reversed.length - (reversed.takeWhile fun byte => !d byte).length =
      (reversed.findIdx? d).elim 0 fun i => reversed.length - i := by
    intro reversed
    induction reversed with
    | nil => rfl
    | cons byte reversed ih =>
      rw [List.findIdx?_cons]
      by_cases delimits : d byte = true
      · simp [delimits]
      · cases at_rest : reversed.findIdx? d with
        | none => simpa [delimits, at_rest] using ih
        | some i => simpa [delimits, at_rest] using ih
  rw [cutBack, ← @List.length_reverse _ bytes]
  exact found bytes.reverse

/-- The slice never panics. -/
theorem sharedPrefixLenSliced_eq : sharedPrefixLenSliced a b = some (sharedPrefixLen a b) := by
  have length : (((utf8 a).zip (utf8 b)).takeWhile fun (x, y) => x = y).length =
      (commonBytes (utf8 a) (utf8 b)).length := by
    rw [commonBytes, List.length_map]
  have inside : (commonBytes (utf8 a) (utf8 b)).length ≤ (utf8 a).length :=
    (le_length_commonBytes_iff.mp (Nat.le_refl _)).1
  rw [sharedPrefixLenSliced, length, sliceTo, if_pos inside, ← commonBytes_eq_take,
    sharedPrefixLen_eq, cutBack_eq_elim]
  rfl

/-! ## A path the caller named -/

variable {available permuted : List String} {want : String}

/-- The match covers four fifths of the requested path. -/
def Covers (path want : String) : Prop :=
  meetsSiblingThreshold (sharedPrefixLen path want) want = true

theorem covers_iff {path : String} :
    Covers path want ↔ 4 * (utf8 want).length ≤ 5 * sharedPrefixLen path want := by
  simp [Covers, meetsSiblingThreshold, Nat.mul_comm]

theorem selectLedger_eq_some_of_mem (attached : want ∈ available) {i : ℕ} :
    selectLedger available want = some i ↔
      available[i]? = some want ∧ ∀ j < i, available[j]? ≠ some want := by
  have listed : (available.idxOf? want).isSome := List.isSome_idxOf?.mpr attached
  rcases Option.isSome_iff_exists.mp listed with ⟨first, exact⟩
  have selected : selectLedger available want = available.idxOf? want := by
    rw [selectLedger, exact]
  rw [selected, List.idxOf?_eq_some_iff]
  constructor
  · intro given
    rcases given with ⟨inside, same, earlier⟩
    refine ⟨List.getElem?_eq_some_iff.mpr ⟨inside, same⟩, ?_⟩
    intro j before found
    rcases List.getElem?_eq_some_iff.mp found with ⟨_, equal⟩
    exact earlier j before equal
  · intro given
    rcases given with ⟨found, earlier⟩
    rcases List.getElem?_eq_some_iff.mp found with ⟨inside, same⟩
    refine ⟨inside, same, ?_⟩
    intro j before equal
    exact earlier j before (List.getElem?_eq_some_iff.mpr ⟨by omega, equal⟩)

/-- Without such a path the one best match is selected, if it covers enough of it. -/
theorem selectLedger_eq_some_iff (absent : want ∉ available) {i : ℕ} :
    selectLedger available want = some i ↔
      ∃ path, IsBest (sharedPrefixLen · want) available i path ∧ Covers path want := by
  have unlisted : available.idxOf? want = none := List.idxOf?_eq_none_iff.mpr absent
  have matching : ∀ path, (available.zipIdx.filter fun entry => sharedPrefixLen entry.1 want =
      (available.map (sharedPrefixLen · want)).foldl max 0) = [(path, i)] ↔
      IsBest (sharedPrefixLen · want) available i path :=
    fun path => @filter_eq_singleton_iff_isBest String (sharedPrefixLen · want) available i path
  have highest : ∀ path, IsBest (sharedPrefixLen · want) available i path →
      sharedPrefixLen path want = (available.map (sharedPrefixLen · want)).foldl max 0 := by
    intro path best
    have only := (matching path).mpr best
    have member : (path, i) ∈ [(path, i)] := List.mem_singleton_self _
    rw [← only, List.mem_filter] at member
    simpa using member.2
  rw [selectLedger, unlisted]
  simp only
  constructor
  · intro selected
    split_ifs at selected with enough
    split at selected
    · next path idx only =>
      cases selected
      have best := (matching path).mp only
      exact ⟨path, best, by rw [Covers, highest path best]; exact enough⟩
    · cases selected
  · intro given
    rcases given with ⟨path, best, enough⟩
    rw [Covers, highest path best] at enough
    have only := (matching path).mpr best
    rw [if_pos enough]
    split
    · next path' idx only' =>
      cases only'.symm.trans only
      rfl
    · next ambiguous => exact absurd only (ambiguous path i)

/-- The path that is selected. -/
def selectedPath (available : List String) (want : String) : Option String :=
  (selectLedger available want).bind fun i => available[i]?

theorem selectedPath_of_mem (attached : want ∈ available) :
    selectedPath available want = some want := by
  have listed : (available.idxOf? want).isSome := List.isSome_idxOf?.mpr attached
  rcases Option.isSome_iff_exists.mp listed with ⟨i, exact⟩
  have selected : selectLedger available want = some i := by rw [selectLedger, exact]
  have found := ((selectLedger_eq_some_of_mem attached).mp selected).1
  rw [selectedPath, selected, Option.bind_some, found]

theorem selectedPath_eq_some_iff (absent : want ∉ available) {path : String} :
    selectedPath available want = some path ↔
      (∃ i, IsBest (sharedPrefixLen · want) available i path) ∧ Covers path want := by
  rw [selectedPath, Option.bind_eq_some_iff]
  simp only [selectLedger_eq_some_iff absent]
  constructor
  · intro given
    rcases given with ⟨i, ⟨best, isBest, enough⟩, found⟩
    cases isBest.1.symm.trans found
    exact ⟨⟨i, isBest⟩, enough⟩
  · intro given
    rcases given with ⟨⟨i, isBest⟩, enough⟩
    exact ⟨i, ⟨path, isBest, enough⟩, isBest.1⟩

/-- The order of enumeration does not matter. -/
theorem selectedPath_perm (same : permuted.Perm available) :
    selectedPath permuted want = selectedPath available want := by
  by_cases attached : want ∈ available
  · rw [selectedPath_of_mem attached, selectedPath_of_mem (same.mem_iff.mpr attached)]
  · have absent : want ∉ permuted := fun member => attached (same.mem_iff.mp member)
    apply Option.ext
    intro path
    rw [selectedPath_eq_some_iff attached, selectedPath_eq_some_iff absent,
      exists_isBest_congr_perm same]

/-- Which device is selected: an attached path where it first stands, and otherwise
the entry whose common prefix with the requested path, cut back to its last delimiter,
is longer than that of every other entry and covers four fifths of the request. -/
theorem selectLedger_exact (available : List String) (want : String) :
    (want ∈ available → ∀ i, selectLedger available want = some i ↔
      available[i]? = some want ∧ ∀ j < i, available[j]? ≠ some want) ∧
    (want ∉ available → ∀ i, selectLedger available want = some i ↔
      ∃ path, available[i]? = some path ∧
        (∀ j other, available[j]? = some other → j ≠ i →
          sharedPrefixLen other want < sharedPrefixLen path want) ∧
        4 * (utf8 want).length ≤ 5 * sharedPrefixLen path want) ∧
    (∀ path, IsGreatest
      {k | IsCommonPrefix (utf8 path) (utf8 want) k ∧ EndsAtDelimiter (utf8 path) k}
      (sharedPrefixLen path want)) ∧
    (∀ permuted, permuted.Perm available →
      selectedPath permuted want = selectedPath available want) ∧
    ∀ path, sharedPrefixLenSliced path want = some (sharedPrefixLen path want) := by
  refine ⟨?_, ?_, ?_, ?_, ?_⟩
  · intro attached i
    exact selectLedger_eq_some_of_mem attached
  · intro absent i
    rw [selectLedger_eq_some_iff absent]
    simp only [IsBest, covers_iff, and_assoc]
  · intro path
    exact sharedPrefixLen_isGreatest
  · intro permuted same
    exact selectedPath_perm same
  · intro path
    exact sharedPrefixLenSliced_eq

/-- A device that is not the requested one is a sibling interface of it exactly when
the one best match, covering four fifths of the request, covers as much of its own
path. -/
theorem selectLedger_siblings_iff (available : List String) (want : String) :
    (∀ i path, selectLedger available want = some i → available[i]? = some path →
      path ≠ want → isSiblingInterface path want = true) ↔
    (want ∈ available ∨ ∀ (i : ℕ) path, available[i]? = some path →
      (∀ j other, available[j]? = some other → j ≠ i →
        sharedPrefixLen other want < sharedPrefixLen path want) →
      4 * (utf8 want).length ≤ 5 * sharedPrefixLen path want →
      4 * (utf8 path).length ≤ 5 * sharedPrefixLen path want) := by
  have sibling : ∀ path, isSiblingInterface path want = true ↔
      4 * (utf8 path).length ≤ 5 * sharedPrefixLen path want ∧ Covers path want := by
    intro path
    simp [isSiblingInterface, meetsSiblingThreshold, Covers, Nat.mul_comm]
  by_cases attached : want ∈ available
  · apply iff_of_true
    · intro i path selected found other
      have exact := ((selectLedger_eq_some_of_mem attached).mp selected).1
      cases exact.symm.trans found
      exact absurd rfl other
    · exact .inl attached
  · constructor
    · intro siblings
      refine .inr fun i path found beats enough => ?_
      have covers := covers_iff.mpr enough
      have selected := (selectLedger_eq_some_iff attached).mpr ⟨path, ⟨found, beats⟩, covers⟩
      have other : path ≠ want := fun same => attached (same ▸ List.mem_of_getElem? found)
      exact ((sibling path).mp (siblings i path selected found other)).1
    · intro covered i path selected found _
      rcases (selectLedger_eq_some_iff attached).mp selected with ⟨best, isBest, enough⟩
      cases isBest.1.symm.trans found
      rcases covered with listed | covered
      · exact absurd listed attached
      · exact (sibling path).mpr ⟨covered i path isBest.1 isBest.2 (covers_iff.mp enough), enough⟩

/-- The directory of a device is taken for the device. -/
theorem directory_selects_device :
    selectLedger ["/dev/hidraw2"] "/dev/" = some 0 ∧
      isSiblingInterface "/dev/hidraw2" "/dev/" = false ∧
      ¬ ∀ (available : List String) (want : String) (i : ℕ) (path : String),
        selectLedger available want = some i → available[i]? = some path → path ≠ want →
          isSiblingInterface path want = true := by
  have selected : selectLedger ["/dev/hidraw2"] "/dev/" = some 0 := by decide +kernel
  have distinct : isSiblingInterface "/dev/hidraw2" "/dev/" = false := by decide +kernel
  refine ⟨selected, distinct, ?_⟩
  intro always
  have siblings := always ["/dev/hidraw2"] "/dev/" 0 "/dev/hidraw2" selected rfl (by decide)
  rw [distinct] at siblings
  cases siblings

/-! ## No path -/

theorem sameDevice_comm {a b : Candidate} : sameDevice a b = sameDevice b a := by
  have paths : isSiblingInterface a.path b.path = isSiblingInterface b.path a.path := by
    simp only [isSiblingInterface, sharedPrefixLen_comm (a := a.path), Bool.and_comm]
  rcases a with ⟨path, serial⟩
  rcases b with ⟨path', serial'⟩
  simp only at paths
  unfold sameDevice
  rw [paths]
  cases serial with
  | none => cases serial' <;> rfl
  | some x =>
    cases serial' with
    | none => rfl
    | some y =>
      have serials : (x ≠ "" ∧ y ≠ "" ∧ x ≠ y) ↔ (y ≠ "" ∧ x ≠ "" ∧ y ≠ x) := by
        rw [ne_comm (a := x) (b := y)]
        exact and_left_comm
      simp only [serials]

/-- `soleLedger` resolves to a device. -/
def Accepts (candidates : List Candidate) : Prop := ∃ i, soleLedger candidates = .ok i

section

variable {candidates permuted : List Candidate}

/-- One turn of the loop of `soleLedger`. -/
def grouped (devices : List (Candidate × ℕ)) (c : Candidate × ℕ) : List (Candidate × ℕ) :=
  if devices.any (sameDevice c.1 ·.1) then devices else devices ++ [c]

theorem exists_foldl_grouped (rest devices : List (Candidate × ℕ)) :
    ∃ more, rest.foldl grouped devices = devices ++ more := by
  induction rest generalizing devices with
  | nil => exact ⟨[], by simp⟩
  | cons c rest ih =>
    rcases ih (grouped devices c) with ⟨more, grown⟩
    rw [List.foldl_cons, grown]
    unfold grouped
    split
    · exact ⟨more, rfl⟩
    · exact ⟨c :: more, by simp⟩

/-- The first candidate stays alone when every other one is the same device. -/
theorem foldl_grouped_eq_iff {first : Candidate × ℕ} {rest : List (Candidate × ℕ)} :
    rest.foldl grouped [first] = [first] ↔ ∀ c ∈ rest, sameDevice c.1 first.1 = true := by
  induction rest with
  | nil => simp
  | cons c rest ih =>
    rw [List.foldl_cons, List.forall_mem_cons]
    by_cases same : sameDevice c.1 first.1 = true
    · have alone : grouped [first] c = [first] := by simp [grouped, same]
      rw [alone, ih]
      simp [same]
    · have joined : grouped [first] c = [first, c] := by simp [grouped, same]
      rcases exists_foldl_grouped rest [first, c] with ⟨more, grown⟩
      rw [joined, grown]
      simp [same]

/-- Every candidate is compared with the first one, and with no other. -/
theorem accepts_iff :
    Accepts candidates ↔
      ∃ first rest, candidates = first :: rest ∧ ∀ c ∈ rest, sameDevice c first = true := by
  cases candidates with
  | nil => simp [Accepts, soleLedger]
  | cons first rest =>
    have devices : distinctDevices (first :: rest) =
        (rest.zipIdx 1).foldl grouped [(first, 0)] := rfl
    have others : (∀ c ∈ rest.zipIdx 1, sameDevice c.1 first = true) ↔
        ∀ c ∈ rest, sameDevice c first = true := by
      constructor
      · intro all c member
        rcases List.mem_iff_getElem?.mp member with ⟨i, found⟩
        exact all (c, 1 + i) (List.mk_add_mem_zipIdx_iff_getElem?.mpr found)
      · intro all c member
        exact all c.1 (List.fst_mem_of_mem_zipIdx member)
    rcases exists_foldl_grouped (rest.zipIdx 1) [(first, 0)] with ⟨more, grown⟩
    have alone : Accepts (first :: rest) ↔ (rest.zipIdx 1).foldl grouped [(first, 0)] =
        [(first, 0)] := by
      rw [Accepts, soleLedger, if_neg (List.cons_ne_nil _ _), devices, grown]
      cases more with
      | nil => simp
      | cons c more => simp
    rw [alone, foldl_grouped_eq_iff, others]
    constructor
    · intro all
      exact ⟨first, rest, rfl, all⟩
    · intro given
      rcases given with ⟨first', rest', listed, all⟩
      cases listed
      exact all

theorem pairwise_sameDevice_perm (same : permuted.Perm candidates)
    (all : candidates.Pairwise fun a b => sameDevice a b = true) :
    permuted.Pairwise fun a b => sameDevice a b = true := by
  have symmetric : ∀ {a b : Candidate}, sameDevice a b = true → sameDevice b a = true := by
    intro a b holds
    rw [sameDevice_comm]
    exact holds
  exact (same.pairwise_iff symmetric).mpr all

theorem accepts_of_pairwise (some : candidates ≠ [])
    (all : candidates.Pairwise fun a b => sameDevice a b = true) : Accepts candidates := by
  cases candidates with
  | nil => exact absurd rfl some
  | cons first rest =>
    refine accepts_iff.mpr ⟨first, rest, rfl, ?_⟩
    intro c member
    rw [sameDevice_comm]
    exact (List.pairwise_cons.mp all).1 c member

/-- The verdict does not depend on the order of enumeration, and says that all
candidates are one device, exactly when no candidate is the same device as each of the
others while two of these are not the same device. -/
theorem soleLedger_order_free_iff (candidates : List Candidate) :
    ((∀ permuted, permuted.Perm candidates → (Accepts permuted ↔ Accepts candidates)) ∧
      (Accepts candidates → candidates.Pairwise fun a b => sameDevice a b = true)) ↔
    ∀ hub others, candidates.Perm (hub :: others) →
      (∀ c ∈ others, sameDevice c hub = true) →
        others.Pairwise fun a b => sameDevice a b = true := by
  constructor
  · intro given hub others listed joined
    rcases given with ⟨orderFree, sound⟩
    have accepted : Accepts (hub :: others) := accepts_iff.mpr ⟨hub, others, rfl, joined⟩
    have all := sound ((orderFree (hub :: others) listed.symm).mp accepted)
    exact (List.pairwise_cons.mp (pairwise_sameDevice_perm listed.symm all)).2
  · intro transitive
    have sound : ∀ permuted, permuted.Perm candidates → Accepts permuted →
        permuted.Pairwise fun a b => sameDevice a b = true := by
      intro permuted same accepted
      rcases accepts_iff.mp accepted with ⟨hub, others, rfl, joined⟩
      apply List.pairwise_cons.mpr
      refine ⟨?_, transitive hub others same.symm joined⟩
      intro c member
      rw [sameDevice_comm]
      exact joined c member
    have nonempty : ∀ {listed : List Candidate}, Accepts listed → listed ≠ [] := by
      intro listed accepted
      rcases accepts_iff.mp accepted with ⟨hub, others, rfl, -⟩
      exact List.cons_ne_nil _ _
    refine ⟨?_, sound candidates (.refl _)⟩
    intro permuted same
    constructor
    · intro accepted
      have all := pairwise_sameDevice_perm same.symm (sound permuted same accepted)
      apply accepts_of_pairwise _ all
      intro empty
      rw [empty] at same
      exact nonempty accepted same.eq_nil
    · intro accepted
      have all := pairwise_sameDevice_perm same (sound candidates (.refl _) accepted)
      apply accepts_of_pairwise _ all
      intro empty
      rw [empty] at same
      exact nonempty accepted same.symm.eq_nil

end

/-! ## Three interfaces, two serials -/

/-- An interface for which the platform reports no serial. -/
def unnumbered : Candidate := ⟨"IOService:/usb/ledger@01100000/IOUSBHostInterface@0", none⟩

def firstNumbered : Candidate :=
  ⟨"IOService:/usb/ledger@01100000/IOUSBHostInterface@1", some "0001"⟩

def secondNumbered : Candidate :=
  ⟨"IOService:/usb/ledger@01100000/IOUSBHostInterface@2", some "0002"⟩

/-- Two devices with serials of their own are resolved to the interface without one
if it is enumerated first, and are told apart if it is not. -/
theorem unnumbered_joins_devices :
    soleLedger [unnumbered, firstNumbered, secondNumbered] = .ok 0 ∧
      soleLedger [firstNumbered, unnumbered, secondNumbered] = .error (multipleDevicesError 2) ∧
      sameDevice firstNumbered secondNumbered = false ∧
      ¬ ∀ candidates : List Candidate,
        (∀ permuted, permuted.Perm candidates → (Accepts permuted ↔ Accepts candidates)) ∧
          (Accepts candidates → candidates.Pairwise fun a b => sameDevice a b = true) := by
  have accepted : soleLedger [unnumbered, firstNumbered, secondNumbered] = .ok 0 := by
    decide +kernel
  have refused : soleLedger [firstNumbered, unnumbered, secondNumbered] =
      .error (multipleDevicesError 2) := by
    decide +kernel
  have distinct : sameDevice firstNumbered secondNumbered = false := by decide +kernel
  refine ⟨accepted, refused, distinct, ?_⟩
  intro always
  have swapped : [firstNumbered, unnumbered, secondNumbered].Perm
      [unnumbered, firstNumbered, secondNumbered] := List.Perm.swap _ _ _
  have alike := (always [unnumbered, firstNumbered, secondNumbered]).1 _ swapped
  rcases alike.mpr ⟨0, accepted⟩ with ⟨i, resolved⟩
  cases refused.symm.trans resolved

end Keychain.Rust.Ledger
