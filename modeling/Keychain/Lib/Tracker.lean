import Mathlib.Data.List.Basic
import Keychain.Lib.Transition

/-!
A slot that tracks concurrent calls by the values they put into it.

A call puts its value in once and takes it out once, unless it is cancelled. The slot
does not know calls: it appends a value and erases the first equal one. Beside it the
system here keeps what the slot stands for, the calls in flight in the order in which
they set their values. `step_faithful_iff` says which step leaves the slot true to that
record, and `faithful_along_iff` which run does.
-/

namespace Keychain.Tracker

open Transition

variable {C α σ : Type}

/-- The operations of a slot of type `σ`. -/
structure Slot (α σ : Type) where
  ids : σ → List α
  set : α → σ → σ
  clear : α → σ → σ

/-- Values are appended and the first equal one is removed. -/
structure Slot.ByValue [DecidableEq α] (slot : Slot α σ) : Prop where
  ids_set : ∀ id s, slot.ids (slot.set id s) = slot.ids s ++ [id]
  ids_clear : ∀ id s, slot.ids (slot.clear id s) = (slot.ids s).erase id

inductive Event (C α : Type) where
  | set (call : C) (id : α)
  | clear (call : C)
  | cancel (call : C)
  deriving DecidableEq

/-- The slot, and what it stands for. -/
structure Calls (C α σ : Type) where
  slot : σ
  /-- The calls that have set and not cleared, oldest first. -/
  inFlight : List (C × α)
  started : List C
  cancelled : List C

namespace Calls

/-- No call has begun. -/
def start (s : σ) : Calls C α σ := ⟨s, [], [], []⟩

/-- The slot lists the ids of the calls in flight, oldest first. -/
def Faithful (slot : Slot α σ) (calls : Calls C α σ) : Prop :=
  slot.ids calls.slot = calls.inFlight.map Prod.snd

/-- Every call in flight that set between a call with the same id and this one has that
id too. -/
def Unmixed (calls : Calls C α σ) (call : C) : Prop :=
  ∀ older other between id after,
    calls.inFlight = older ++ (other, id) :: (between ++ (call, id) :: after) →
    ∀ c ∈ between, c.2 = id

end Calls

section

variable [DecidableEq C]

/-- A call sets once; it clears what it has set, unless it is cancelled. -/
def step (slot : Slot α σ) (calls : Calls C α σ) : Event C α → Option (Calls C α σ)
  | .set call id =>
    if call ∈ calls.started then none
    else some {
      slot := slot.set id calls.slot
      inFlight := calls.inFlight ++ [(call, id)]
      started := call :: calls.started
      cancelled := calls.cancelled }
  | .clear call =>
    if call ∈ calls.cancelled then none
    else (calls.inFlight.lookup call).map fun id => { calls with
      slot := slot.clear id calls.slot
      inFlight := calls.inFlight.eraseP (·.1 = call) }
  | .cancel call =>
    if call ∈ calls.cancelled ∨ call ∉ calls.inFlight.map Prod.fst then none
    else some { calls with cancelled := call :: calls.cancelled }

/-- No call is in flight twice, and every one has started. -/
structure Valid (calls : Calls C α σ) : Prop where
  distinct : (calls.inFlight.map Prod.fst).Nodup
  began : ∀ call ∈ calls.inFlight.map Prod.fst, call ∈ calls.started

variable {slot : Slot α σ} {calls calls' : Calls C α σ}

/-- What a step that clears finds and leaves. -/
theorem step_clear {call : C} (stepped : step slot calls (.clear call) = some calls') :
    ∃ before id after, calls.inFlight = before ++ (call, id) :: after ∧
      (∀ c ∈ before, c.1 ≠ call) ∧ calls'.inFlight = before ++ after ∧
      calls'.slot = slot.clear id calls.slot ∧ calls'.started = calls.started := by
  rw [step] at stepped
  split_ifs at stepped
  obtain ⟨id, found, rfl⟩ := Option.map_eq_some_iff.mp stepped
  obtain ⟨before, after, listed, others⟩ := List.lookup_eq_some_iff.mp found
  have earlier : ∀ c ∈ before, c.1 ≠ call := by
    intro c member same
    have distinct := others c member
    simp [same] at distinct
  refine ⟨before, id, after, listed, earlier, ?_, rfl, rfl⟩
  simp only [listed]
  rw [List.eraseP_append_right _ (by simpa using earlier)]
  simp

omit [DecidableEq C] in
theorem valid_start {s : σ} : Valid (Calls.start s : Calls C α σ) where
  distinct := List.nodup_nil
  began := by simp [Calls.start]

theorem valid_step {event : Event C α} (valid : Valid calls)
    (stepped : step slot calls event = some calls') : Valid calls' := by
  cases event with
  | set call id =>
    rw [step] at stepped
    split_ifs at stepped with fresh
    cases stepped
    constructor
    · simp only [List.map_append, List.map_cons, List.map_nil]
      refine List.nodup_append.mpr ⟨valid.distinct, by simp, ?_⟩
      intro other member other' last same
      rw [List.mem_singleton] at last
      exact fresh (valid.began call (last ▸ same ▸ member))
    · intro other member
      simp only [List.map_append, List.map_cons, List.map_nil, List.mem_append,
        List.mem_singleton] at member
      rcases member with member | rfl
      · exact List.mem_cons_of_mem _ (valid.began other member)
      · exact List.mem_cons_self
  | clear call =>
    obtain ⟨before, id, after, listed, -, left, -, started⟩ := step_clear stepped
    have sub : calls'.inFlight.Sublist calls.inFlight := by
      rw [left, listed]
      exact List.Sublist.append_left (List.sublist_cons_self _ _) before
    constructor
    · exact valid.distinct.sublist (sub.map _)
    · intro other member
      rw [started]
      exact valid.began other ((sub.map _).subset member)
  | cancel call =>
    rw [step] at stepped
    split_ifs at stepped
    cases stepped
    exact ⟨valid.distinct, valid.began⟩

end

/-! ## Removal by value -/

section

variable {a : α}

theorem append_singleton_eq_cons_iff {between : List α} :
    between ++ [a] = a :: between ↔ ∀ x ∈ between, x = a := by
  induction between with
  | nil => simp
  | cons b between ih =>
    rw [List.cons_append, List.cons.injEq, List.forall_mem_cons]
    constructor
    · intro given
      obtain ⟨rfl, rest⟩ := given
      exact ⟨rfl, ih.mp rest⟩
    · intro given
      obtain ⟨rfl, rest⟩ := given
      exact ⟨rfl, ih.mpr rest⟩

/-- What follows any `a` also follows the first one. -/
theorem mem_of_first_split {older between older' between' : List α} {x : α}
    (first : a ∉ older) (split : older ++ a :: between = older' ++ a :: between')
    (member : x ∈ between') : x ∈ between := by
  rcases List.append_eq_append_iff.mp split with ⟨more, rfl, rest⟩ | ⟨more, rfl, rest⟩
  · cases more with
    | nil =>
      cases rest
      exact member
    | cons b more =>
      cases rest
      simp [member]
  · cases more with
    | nil =>
      cases rest
      exact member
    | cons b more =>
      cases rest
      exact absurd (by simp) first

/-- Erasing the first `a` has the effect of removing a later one exactly when only
`a` stands between them. -/
theorem erase_append_cons_eq_iff [DecidableEq α] {before after : List α} :
    (before ++ a :: after).erase a = before ++ after ↔
      ∀ older between, before = older ++ a :: between → ∀ x ∈ between, x = a := by
  by_cases earlier : a ∈ before
  · obtain ⟨older, between, rfl, first⟩ := List.eq_append_cons_of_mem earlier
    have erased : (older ++ a :: between ++ a :: after).erase a =
        older ++ (between ++ [a] ++ after) := by
      rw [List.append_assoc, List.erase_append_right _ first, List.cons_append,
        List.erase_cons_head, List.append_assoc]
      rfl
    have wanted : older ++ a :: between ++ after = older ++ (a :: between ++ after) :=
      List.append_assoc _ _ _
    rw [erased, wanted, List.append_cancel_left_eq, List.append_cancel_right_eq,
      append_singleton_eq_cons_iff]
    constructor
    · intro only older' between' split x member
      exact only x (mem_of_first_split first split member)
    · intro all
      exact all older between rfl
  · have alone : (before ++ a :: after).erase a = before ++ after := by
      rw [List.erase_append_right _ earlier, List.erase_cons_head]
    refine iff_of_true alone ?_
    intro older between split
    exact absurd (split ▸ by simp) earlier

end

/-! ## Steps and runs -/

section

variable [DecidableEq C] [DecidableEq α] {slot : Slot α σ} {calls calls' : Calls C α σ}

omit [DecidableEq C] [DecidableEq α] in
/-- A call stands in one place. -/
theorem split_unique {before after before' after' : List (C × α)} {call : C} {id id' : α}
    (distinct : ((before ++ (call, id) :: after).map Prod.fst).Nodup)
    (split : before ++ (call, id) :: after = before' ++ (call, id') :: after') :
    before = before' ∧ id = id' := by
  rcases List.append_eq_append_iff.mp split with ⟨more, rfl, rest⟩ | ⟨more, rfl, rest⟩
  · cases more with
    | nil =>
      cases rest
      exact ⟨by simp, rfl⟩
    | cons c more =>
      cases rest
      simp [List.nodup_append] at distinct
  · cases more with
    | nil =>
      cases rest
      exact ⟨by simp, rfl⟩
    | cons c more =>
      cases rest
      simp [List.nodup_append] at distinct

omit [DecidableEq C] [DecidableEq α] in
/-- The condition in terms of the ids before the call. -/
theorem unmixed_iff {before after : List (C × α)} {call : C} {id : α} (valid : Valid calls)
    (listed : calls.inFlight = before ++ (call, id) :: after) :
    calls.Unmixed call ↔ ∀ older between, before.map Prod.snd = older ++ id :: between →
      ∀ x ∈ between, x = id := by
  constructor
  · intro unmixed older between split x member
    obtain ⟨older', rest, rfl, rfl, tail⟩ := List.map_eq_append_iff.mp split
    obtain ⟨⟨other, _⟩, between', rfl, rfl, rfl⟩ := List.map_eq_cons_iff.mp tail
    obtain ⟨c, inBetween, rfl⟩ := List.mem_map.mp member
    exact unmixed older' other between' _ after (by rw [listed]; simp) c inBetween
  · intro unmixed older other between id' after' split c member
    have distinct := valid.distinct
    rw [listed] at split distinct
    have shifted : older ++ (other, id') :: (between ++ (call, id') :: after') =
        (older ++ (other, id') :: between) ++ (call, id') :: after' := by simp
    obtain ⟨rfl, rfl⟩ := split_unique distinct (split.trans shifted)
    exact unmixed (older.map Prod.snd) (between.map Prod.snd) (by simp) c.2
      (List.mem_map_of_mem member)

/-- A step keeps the slot true unless it clears the id of a call that has others
between itself and an older call with the same id. -/
theorem step_faithful_iff (byValue : slot.ByValue) {event : Event C α} (valid : Valid calls)
    (faithful : calls.Faithful slot) (stepped : step slot calls event = some calls') :
    calls'.Faithful slot ↔ ∀ call, event = .clear call → calls.Unmixed call := by
  unfold Calls.Faithful at faithful ⊢
  cases event with
  | set call id =>
    rw [step] at stepped
    split_ifs at stepped
    cases stepped
    simp [byValue.ids_set, faithful]
  | clear call =>
    obtain ⟨before, id, after, listed, earlier, left, cleared, -⟩ := step_clear stepped
    have erases : (slot.ids calls'.slot = calls'.inFlight.map Prod.snd) ↔
        ∀ older between, before.map Prod.snd = older ++ id :: between → ∀ x ∈ between, x = id := by
      rw [cleared, byValue.ids_clear, faithful, listed, left]
      simp only [List.map_append, List.map_cons]
      exact erase_append_cons_eq_iff
    rw [erases, ← unmixed_iff valid listed]
    simp
  | cancel call =>
    rw [step] at stepped
    split_ifs at stepped
    cases stepped
    simp [faithful]

omit [DecidableEq α] in
theorem valid_of_run {s : σ} {events : List (Event C α)}
    (ran : run (step slot) (Calls.start s) events = some calls) : Valid calls :=
  run_invariant (fun _ => True) (fun _ _ _ _ valid stepped => valid_step valid stepped)
    valid_start (fun _ _ => trivial) ran

/-- At every step of the run that clears, the calls are unmixed. -/
def ClearsUnmixed (slot : Slot α σ) (first : Calls C α σ) (events : List (Event C α)) : Prop :=
  ∀ before call after reached, events = before ++ .clear call :: after →
    run (step slot) first before = some reached → reached.Unmixed call

/-- The slot lists the calls in flight in every state a run goes through exactly when
the run clears unmixed calls only. -/
theorem faithful_along_iff (byValue : slot.ByValue) {s : σ} (empty : slot.ids s = [])
    {events : List (Event C α)} (ran : run (step slot) (Calls.start s) events = some calls) :
    (∀ before after reached, events = before ++ after →
        run (step slot) (Calls.start s) before = some reached → reached.Faithful slot) ↔
      ClearsUnmixed slot (Calls.start s) events := by
  constructor
  · intro faithful before call after reached split ran'
    rw [split] at ran
    obtain ⟨next, stepped, ran''⟩ := step_of_run ran ran'
    have here := faithful before (.clear call :: after) reached split ran'
    have there := faithful (before ++ [.clear call]) after next (by simp [split]) ran''
    exact (step_faithful_iff byValue (valid_of_run ran') here stepped).mp there
      call rfl
  · intro unmixed before after reached split ran'
    refine run_invariant_along (I := fun calls => calls.Faithful slot) ?_ empty ran'
    intro before' event after' u v split' reached' faithful stepped
    apply (step_faithful_iff byValue (valid_of_run reached') faithful stepped).mpr
    intro call same
    subst same
    exact unmixed before' call (after' ++ after) u (by rw [split, split']; simp) reached'

end

end Keychain.Tracker
