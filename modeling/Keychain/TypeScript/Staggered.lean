import Keychain.Lib.FanOut
import Keychain.TypeScript.Runtime

/-!
Signing a list of items side by side: `signBatchStaggered` of `core/batch.ts`.

The callback of every item is an asynchronous function, and `Promise.all` gathers what they
resolve to. A run interleaves their steps with the abort signal. It takes the callbacks in any
order, which allows more runs than the event loop has. The time that a delay takes is not
modelled: an item may leave its delay whenever it is in it.

The callbacks are a fan (`Keychain.Lib.FanOut`): before `fn` is called a worker waits. `wiring`
tells which callback an event moves.
-/

namespace Keychain.TypeScript.Staggered

open FanOut

variable {TItem TResult Thrown : Type}

structure State (TItem TResult Thrown : Type) where
  fan : Fan TItem TResult Thrown
  /-- Whether the call has found the signal unfired. -/
  begun : Bool
  /-- Whether the signal has fired. -/
  aborted : Bool

inductive Event (TResult Thrown : Type) where
  | begin
  /-- `map` calls the callback of the next item. -/
  | enter
  /-- An item finds the signal unfired and calls `fn`. -/
  | resume (index : ℕ)
  /-- An item finds that the signal has fired. -/
  | cut (index : ℕ)
  /-- The promise of `fn` settles. -/
  | settle (index : ℕ) (reply : Except Thrown TResult)
  | abort

def initial (items : List TItem) : State TItem TResult Thrown where
  fan := FanOut.initial items
  begun := false
  aborted := false

/-- `reason` is what the signal fires with. -/
def step (items : List TItem) (reason : Thrown) (s : State TItem TResult Thrown) :
    Event TResult Thrown → Option (State TItem TResult Thrown)
  | .begin => if s.begun ∨ s.aborted then none else some { s with begun := true }
  | .enter =>
    if s.begun then (FanOut.step items s.fan .start).map fun fan => { s with fan := fan } else none
  | .resume index =>
    if s.aborted then none
    else (FanOut.step items s.fan (.call index)).map fun fan => { s with fan := fan }
  | .cut index =>
    if s.aborted ∧ s.fan.phase index = .waiting then
      (FanOut.step items s.fan (.fail index reason)).map fun fan => { s with fan := fan }
    else
      none
  | .settle index (.error error) =>
    if s.fan.phase index = .calling then
      (FanOut.step items s.fan (.fail index error)).map fun fan => { s with fan := fan }
    else
      none
  | .settle index (.ok result) =>
    (FanOut.step items s.fan (.store index result)).map fun fan => { s with fan := fan }
  | .abort => if s.aborted then none else some { s with aborted := true }

/-- `Promise.all` -/
def promiseAll (items : List TItem) (fan : Fan TItem TResult Thrown) :
    Option (Except Thrown (List TResult)) :=
  match fan.failed with
  | some error => some (.error error)
  | none =>
    if ∀ i < items.length, fan.phase i = .ended then some (.ok (fan.slots.filterMap id)) else none

/-- What the promise of `signBatchStaggered` has settled with. -/
def signBatchStaggered (items : List TItem) (reason : Thrown) (s : State TItem TResult Thrown) :
    Option (Except Thrown (List TResult)) :=
  if s.begun then promiseAll items s.fan else if s.aborted then some (.error reason) else none

/-! ## What a step does -/

variable {items : List TItem} {reason : Thrown} {s t : State TItem TResult Thrown}
  {e : Event TResult Thrown}

/-- What an event is to the callbacks. -/
def moveOf (reason : Thrown) : Event TResult Thrown → Option (Move TResult Thrown)
  | .enter => some .start
  | .resume index => some (.call index)
  | .cut index => some (.fail index reason)
  | .settle index (.error error) => some (.fail index error)
  | .settle index (.ok result) => some (.store index result)
  | .begin | .abort => none

inductive Moves (items : List TItem) (reason : Thrown) (s : State TItem TResult Thrown) :
    Event TResult Thrown → State TItem TResult Thrown → Prop where
  | begun (fresh : s.begun = false) (unfired : s.aborted = false) :
    Moves items reason s .begin { s with begun := true }
  | entered {fan : Fan TItem TResult Thrown} (begun : s.begun = true)
    (moved : FanOut.step items s.fan .start = some fan) :
    Moves items reason s .enter { s with fan := fan }
  | resumed {index : ℕ} {fan : Fan TItem TResult Thrown} (unfired : s.aborted = false)
    (moved : FanOut.step items s.fan (.call index) = some fan) :
    Moves items reason s (.resume index) { s with fan := fan }
  | cut {index : ℕ} {fan : Fan TItem TResult Thrown} (fired : s.aborted = true)
    (moved : FanOut.step items s.fan (.fail index reason) = some fan) :
    Moves items reason s (.cut index) { s with fan := fan }
  | rejected {index : ℕ} {error : Thrown} {fan : Fan TItem TResult Thrown}
    (here : s.fan.phase index = .calling)
    (moved : FanOut.step items s.fan (.fail index error) = some fan) :
    Moves items reason s (.settle index (.error error)) { s with fan := fan }
  | resolved {index : ℕ} {result : TResult} {fan : Fan TItem TResult Thrown}
    (moved : FanOut.step items s.fan (.store index result) = some fan) :
    Moves items reason s (.settle index (.ok result)) { s with fan := fan }
  | aborted (unfired : s.aborted = false) : Moves items reason s .abort { s with aborted := true }

theorem moves_of_step (stepped : step items reason s e = some t) : Moves items reason s e t := by
  cases e with
  | begin =>
    simp only [step, Option.ite_none_left_eq_some, Option.some.injEq, not_or] at stepped
    obtain ⟨⟨fresh, unfired⟩, rfl⟩ := stepped
    exact .begun (Bool.eq_false_iff.mpr fresh) (Bool.eq_false_iff.mpr unfired)
  | enter =>
    simp only [step, Option.ite_none_right_eq_some, Option.map_eq_some_iff] at stepped
    obtain ⟨begun, fan, moved, rfl⟩ := stepped
    exact .entered begun moved
  | resume index =>
    simp only [step, Option.ite_none_left_eq_some, Option.map_eq_some_iff] at stepped
    obtain ⟨unfired, fan, moved, rfl⟩ := stepped
    exact .resumed (Bool.eq_false_iff.mpr unfired) moved
  | cut index =>
    simp only [step, Option.ite_none_right_eq_some, Option.map_eq_some_iff] at stepped
    obtain ⟨⟨fired, -⟩, fan, moved, rfl⟩ := stepped
    exact .cut fired moved
  | settle index reply =>
    cases reply with
    | error error =>
      simp only [step, Option.ite_none_right_eq_some, Option.map_eq_some_iff] at stepped
      obtain ⟨here, fan, moved, rfl⟩ := stepped
      exact .rejected here moved
    | ok result =>
      obtain ⟨fan, moved, rfl⟩ := Option.map_eq_some_iff.mp stepped
      exact .resolved moved
  | abort =>
    simp only [step, Option.ite_none_left_eq_some, Option.some.injEq] at stepped
    obtain ⟨unfired, rfl⟩ := stepped
    exact .aborted (Bool.eq_false_iff.mpr unfired)

/-! ## What a run keeps -/

/-- How the events reach the callbacks. -/
def wiring (reason : Thrown) : Wiring (Event TResult Thrown) TResult Thrown where
  moveOf := moveOf reason
  answer := .settle
  cut := .cut
  reason := reason
  stop := .abort
  stores e index result stored := by
    unfold moveOf at stored
    split at stored <;> cases stored
    rfl
  fails e index error failed := by
    unfold moveOf at failed
    split at failed <;> cases failed
    · exact .inr ⟨rfl, rfl⟩
    · exact .inl rfl

/-- The steps still to come that no callback takes: the call's and the signal's. -/
def State.rest (s : State TItem TResult Thrown) : ℕ :=
  (if s.begun then 0 else 1) + (if s.aborted then 0 else 1)

/-- How the callbacks stand, by the events so far. -/
structure Kept (items : List TItem) (reason : Thrown) (events : List (Event TResult Thrown))
    (s : State TItem TResult Thrown) : Prop where
  fan : FanOut.Kept items ((wiring reason).trace events) s.fan
  aborted : s.aborted = true ↔ .abort ∈ events
  waits : s.begun = false → s.fan.next = 0
  /-- No item is cut short before the signal fires, -/
  cause : ∀ before i after, events = before ++ .cut i :: after → .abort ∈ before
  /-- and no `fn` is called after. -/
  silent : ∀ before i after, events = before ++ .resume i :: after → .abort ∉ before
  handed : ∀ i, s.fan.phase i = .ended → i ∈ s.fan.calls.map Prod.snd ∨ s.aborted = true
  spent : events.length + (total items.length s.fan Phase.left + s.rest) ≤ 3 * items.length + 2

variable {events : List (Event TResult Thrown)} {fan : Fan TItem TResult Thrown}

theorem kept_initial : Kept items reason ([] : List (Event TResult Thrown)) (initial items) where
  fan := FanOut.kept_initial
  aborted := by simp [initial]
  waits _ := rfl
  cause := by simp
  silent := by simp
  handed := by simp [initial, FanOut.initial]
  spent := Wiring.spent_initial

theorem Moves.advances (moved : Moves items reason s e t) :
    (wiring reason).Advances items s.fan e t.fan := by
  cases moved with
  | begun fresh unfired => rfl
  | entered begun moved => exact moved
  | resumed unfired moved => exact moved
  | cut fired moved => exact moved
  | rejected here moved => exact moved
  | resolved moved => exact moved
  | aborted unfired => rfl

theorem Moves.falls (moved : Moves items reason s e t) :
    (wiring reason).Falls e s.rest t.rest := by
  cases moved with
  | begun fresh unfired =>
    simp only [Wiring.Falls, wiring, moveOf, State.rest, fresh, if_true, Bool.false_eq_true,
      if_false]
    omega
  | entered begun moved => rfl
  | resumed unfired moved => rfl
  | cut fired moved => rfl
  | rejected here moved => rfl
  | resolved moved => rfl
  | aborted unfired =>
    simp only [Wiring.Falls, wiring, moveOf, State.rest, unfired, if_true, Bool.false_eq_true,
      if_false]
    omega

theorem Kept.aborted_of_moves (kept : Kept items reason events s)
    (moved : Moves items reason s e t) : t.aborted = true ↔ .abort ∈ events ++ [e] := by
  rw [List.mem_append, List.mem_singleton]
  cases moved with
  | aborted unfired => simp
  | begun fresh unfired => simpa using kept.aborted
  | entered begun moved => simpa using kept.aborted
  | resumed unfired moved => simpa using kept.aborted
  | cut fired moved => simpa using kept.aborted
  | rejected here moved => simpa using kept.aborted
  | resolved moved => simpa using kept.aborted

theorem Kept.waits_of_moves (kept : Kept items reason events s)
    (moved : Moves items reason s e t) : t.begun = false → t.fan.next = 0 := by
  intro fresh
  cases moved with
  | begun _ unfired => cases fresh
  | entered begun moved => cases begun.symm.trans fresh
  | resumed unfired moved =>
    cases FanOut.moves_of_step moved
    exact kept.waits fresh
  | cut fired moved =>
    cases FanOut.moves_of_step moved
    exact kept.waits fresh
  | rejected here moved =>
    cases FanOut.moves_of_step moved
    exact kept.waits fresh
  | resolved moved =>
    cases FanOut.moves_of_step moved
    exact kept.waits fresh
  | aborted unfired => exact kept.waits fresh

theorem Kept.cause_of_moves (kept : Kept items reason events s)
    (moved : Moves items reason s e t) :
    ∀ before i after, events ++ [e] = before ++ .cut i :: after → .abort ∈ before := by
  intro before i after split
  rcases Transition.split_append_singleton split with ⟨-, rfl, rfl⟩ | ⟨rest, -, earlier⟩
  · cases moved with
    | cut fired moved => exact kept.aborted.mp fired
  · exact kept.cause before i rest earlier

theorem Kept.silent_of_moves (kept : Kept items reason events s)
    (moved : Moves items reason s e t) :
    ∀ before i after, events ++ [e] = before ++ .resume i :: after → .abort ∉ before := by
  intro before i after split
  rcases Transition.split_append_singleton split with ⟨-, rfl, rfl⟩ | ⟨rest, -, earlier⟩
  · cases moved with
    | resumed unfired moved => exact kept.aborted.not.mp (by simp [unfired])
  · exact kept.silent before i rest earlier

/-- Only an item that the signal has cut short ends without a call of `fn`. -/
theorem Kept.handed_of_moves (kept : Kept items reason events s)
    (moved : Moves items reason s e t) :
    ∀ i, t.fan.phase i = .ended → i ∈ t.fan.calls.map Prod.snd ∨ t.aborted = true := by
  have before := kept.handed
  cases moved with
  | begun fresh unfired => exact before
  | entered begun moved =>
    cases FanOut.moves_of_step moved
    exact forall_enter (P := fun i phase => phase = .ended →
      i ∈ s.fan.calls.map Prod.snd ∨ s.aborted = true) (fun i _ => before i) (by simp)
  | @resumed index fan unfired moved =>
    cases FanOut.moves_of_step moved with
    | @called _ item here own =>
      refine forall_enter (P := fun j phase => phase = .ended →
        j ∈ (s.fan.calls ++ [(item, index)]).map Prod.snd ∨ s.aborted = true)
        (fun j _ finished => (before j finished).imp_left fun member => ?_) (by simp)
      rw [List.map_append]
      exact List.mem_append_left _ member
  | cut fired moved => exact fun _ _ => .inr fired
  | rejected here moved =>
    have called := kept.fan.calling _ here
    cases FanOut.moves_of_step moved
    exact forall_enter (P := fun i phase => phase = .ended →
      i ∈ s.fan.calls.map Prod.snd ∨ s.aborted = true) (fun i _ => before i) fun _ => .inl called
  | resolved moved =>
    cases FanOut.moves_of_step moved with
    | stored here =>
      exact forall_enter (P := fun i phase => phase = .ended →
        i ∈ s.fan.calls.map Prod.snd ∨ s.aborted = true) (fun i _ => before i)
        fun _ => .inl (kept.fan.calling _ here)
  | aborted unfired => exact fun _ _ => .inr rfl

theorem Kept.step (kept : Kept items reason events s) (moved : Moves items reason s e t) :
    Kept items reason (events ++ [e]) t where
  fan := Wiring.kept_append kept.fan moved.advances
  aborted := kept.aborted_of_moves moved
  waits := kept.waits_of_moves moved
  cause := kept.cause_of_moves moved
  silent := kept.silent_of_moves moved
  handed := kept.handed_of_moves moved
  spent := Wiring.spent_append kept.fan moved.advances moved.falls kept.spent

theorem kept_run
    (ran : Transition.run (step items reason) (initial items) events = some s) :
    Kept items reason events s :=
  Transition.run_history (fun _ _ _ _ kept stepped => kept.step (moves_of_step stepped))
    kept_initial ran

/-! ## What the promise settles with -/

/-- `fn` was called with every item, and the results are in the order of the items. -/
abbrev Collected (items : List TItem) (reason : Thrown) (events : List (Event TResult Thrown))
    (calls : List (TItem × ℕ)) (results : List TResult) : Prop :=
  (wiring reason).Collected items events calls results

/-- The error is what the first of the callbacks to fail was rejected with: an error of `fn`, or
the reason of a signal that had fired. -/
abbrev FirstFailure (reason : Thrown) (events : List (Event TResult Thrown))
    (error : Thrown) : Prop :=
  (wiring reason).FirstFailure events error

theorem promiseAll_eq_ok {results : List TResult}
    (settled : promiseAll items fan = some (.ok results)) :
    fan.failed = none ∧ (∀ i < items.length, fan.phase i = .ended) ∧
      results = fan.slots.filterMap id := by
  unfold promiseAll at settled
  split at settled
  · cases settled
  · next fine =>
    simp only [Option.ite_none_right_eq_some, Option.some.injEq, Except.ok.injEq] at settled
    exact ⟨fine, settled.1, settled.2.symm⟩

theorem promiseAll_eq_error {error : Thrown}
    (settled : promiseAll items fan = some (.error error)) : fan.failed = some error := by
  unfold promiseAll at settled
  split at settled
  · next first =>
    cases settled
    exact first
  · simp only [Option.ite_none_right_eq_some, Option.some.injEq, reduceCtorEq, and_false] at settled

theorem Kept.collected {results : List TResult} (kept : Kept items reason events s)
    (settled : promiseAll items s.fan = some (.ok results)) :
    Collected items reason events s.fan.calls results := by
  obtain ⟨fine, finished, rfl⟩ := promiseAll_eq_ok settled
  obtain ⟨results, slots, collected⟩ := Wiring.exists_collected kept.fan fine finished
  have returned : s.fan.slots.filterMap id = results := by
    rw [slots, List.filterMap_map]
    exact List.filterMap_some
  rwa [returned]

theorem Kept.firstFailure {error : Thrown} (kept : Kept items reason events s)
    (settled : promiseAll items s.fan = some (.error error)) :
    FirstFailure reason events error :=
  Wiring.firstFailure kept.fan (fun before i after split => .inl (kept.cause before i after split))
    (promiseAll_eq_error settled)

/-- The first item is rejected before the second one leaves its delay. -/
def rejectedFirst : List (Event ℕ String) :=
  [.begin, .enter, .resume 0, .enter, .settle 0 (.error "declined"), .resume 1, .settle 1 (.ok 7)]

theorem promiseAll_stays {settled : Except Thrown (List TResult)}
    (kept : Kept items reason events s) (before : promiseAll items s.fan = some settled)
    (moved : Moves items reason s e t) : promiseAll items t.fan = some settled := by
  have onward : ∀ {move fan}, FanOut.step items s.fan move = some fan →
      promiseAll items fan = some settled := by
    intro move fan moved
    cases settled with
    | error error =>
      have first := promiseAll_eq_error before
      have after : fan.failed = some error := by
        cases FanOut.moves_of_step moved with
        | failed here => exact (congrArg (Option.or · _) first).trans (Option.some_or ..)
        | _ => exact first
      rw [promiseAll, after]
    | ok results =>
      obtain ⟨-, finished, -⟩ := promiseAll_eq_ok before
      exact absurd moved (kept.fan.stuck finished)
  cases moved with
  | begun fresh unfired => exact before
  | entered begun moved => exact onward moved
  | resumed unfired moved => exact onward moved
  | cut fired moved => exact onward moved
  | rejected here moved => exact onward moved
  | resolved moved => exact onward moved
  | aborted unfired => exact before

theorem settled_stays {settled : Except Thrown (List TResult)} (kept : Kept items reason events s)
    (before : signBatchStaggered items reason s = some settled) (moved : Moves items reason s e t) :
    signBatchStaggered items reason t = some settled := by
  unfold signBatchStaggered at before ⊢
  split at before
  · next begun =>
    have still : t.begun = true := by cases moved <;> first | exact begun | rfl
    rw [if_pos still]
    exact promiseAll_stays kept before moved
  · next fresh =>
    simp only [Option.ite_none_right_eq_some] at before
    obtain ⟨fired, same⟩ := before
    have still : t.begun = false ∧ t.aborted = true := by
      cases moved with
      | begun _ unfired => cases unfired.symm.trans fired
      | entered begun moved => exact absurd begun fresh
      | aborted unfired => cases unfired.symm.trans fired
      | _ => exact ⟨Bool.eq_false_iff.mpr fresh, fired⟩
    rw [if_neg (Bool.eq_false_iff.mp still.1), if_pos still.2, same]

/-- Some step other than the signal's is possible, that of `fn` with any reply. -/
def Ready (items : List TItem) (reason : Thrown) (s : State TItem TResult Thrown) : Prop :=
  (∃ t, step items reason s .begin = some t) ∨ (∃ t, step items reason s .enter = some t) ∨
    (∃ i t, step items reason s (.resume i) = some t) ∨
    (∃ i t, step items reason s (.cut i) = some t) ∨
    ∃ i, ∀ reply, ∃ t, step items reason s (.settle i reply) = some t

theorem ready_of_waiting {i : ℕ} (kept : Kept items reason events s)
    (here : s.fan.phase i = .waiting) : Ready items reason s := by
  have inside := kept.fan.inside (i := i) (by simp [here])
  cases fired : s.aborted with
  | true =>
    refine .inr (.inr (.inr (.inl ⟨i, ?_⟩)))
    rw [step, if_pos ⟨fired, here⟩, FanOut.step, if_pos (.inl here)]
    exact ⟨_, rfl⟩
  | false =>
    refine .inr (.inr (.inl ⟨i, ?_⟩))
    rw [step, if_neg (Bool.eq_false_iff.mp fired), FanOut.step, if_pos here,
      List.getElem?_eq_getElem inside]
    exact ⟨_, rfl⟩

theorem ready_of_pending (kept : Kept items reason events s)
    (pending : signBatchStaggered items reason s = none) : Ready items reason s := by
  unfold signBatchStaggered at pending
  split at pending
  · next begun =>
    obtain ⟨i, inside, apart⟩ : ∃ i, i < items.length ∧ s.fan.phase i ≠ .ended := by
      by_contra all
      push Not at all
      rw [promiseAll, if_pos all] at pending
      split at pending <;> cases pending
    cases here : s.fan.phase i with
    | ended => exact absurd here apart
    | waiting => exact ready_of_waiting kept here
    | calling =>
      refine .inr (.inr (.inr (.inr ⟨i, fun reply => ?_⟩)))
      cases reply with
      | error error =>
        rw [step, if_pos here, FanOut.step, if_pos (.inr here)]
        exact ⟨_, rfl⟩
      | ok result =>
        rw [step, FanOut.step, if_pos here]
        exact ⟨_, rfl⟩
    | unstarted =>
      have later : s.fan.next ≤ i :=
        Nat.le_of_not_lt fun started => (kept.fan.started i).mpr started here
      refine .inr (.inl ?_)
      rw [step, if_pos begun, FanOut.step, if_pos (later.trans_lt inside)]
      exact ⟨_, rfl⟩
  · next fresh =>
    rw [ite_eq_right_iff] at pending
    have unfired : ¬ s.aborted = true := fun fired => by cases pending fired
    refine .inl ?_
    rw [step, if_neg (not_or.mpr ⟨fresh, unfired⟩)]
    exact ⟨_, rfl⟩

/-- The promise settles after at most three steps for each item, one of the call and one of the
signal; until then some step is possible, and whatever comes after does not change it. -/
theorem staggered_settles
    (ran : Transition.run (step items reason) (initial items) events = some s) :
    events.length ≤ 3 * items.length + 2 ∧
    (signBatchStaggered items reason s = none → Ready items reason s) ∧
    ∀ settled more t, signBatchStaggered items reason s = some settled →
      Transition.run (step items reason) s more = some t →
      signBatchStaggered items reason t = some settled := by
  have kept := kept_run ran
  refine ⟨(Nat.le_add_right _ _).trans kept.spent, ready_of_pending kept,
    fun settled more t before further => ?_⟩
  refine (Transition.run_history (I := fun more t => Kept items reason (events ++ more) t ∧
    signBatchStaggered items reason t = some settled) ?_ ⟨?_, before⟩ further).2
  · intro later e u v both stepped
    have moved := moves_of_step stepped
    rw [← List.append_assoc]
    exact ⟨both.1.step moved, settled_stays both.1 both.2 moved⟩
  · rwa [List.append_nil]

theorem staggered_settles_rejectedFirst :
    ∃ s t, Transition.run (step ["a", "b"] "aborted") (initial ["a", "b"])
        (rejectedFirst.take 5) = some s ∧
      Transition.run (step ["a", "b"] "aborted") s (rejectedFirst.drop 5) = some t ∧
      signBatchStaggered ["a", "b"] "aborted" t = some (.error "declined") := by
  refine ⟨_, _, rfl, rfl, ?_⟩
  exact (staggered_settles (show Transition.run (step ["a", "b"] "aborted") (initial ["a", "b"])
    (rejectedFirst.take 5) = some _ from rfl)).2.2 (.error "declined") (rejectedFirst.drop 5) _
      rfl rfl

/-! ## The plain way -/

/-- For an `fn` that answers by the item alone and a signal that does not fire, the promise
settles as calling `fn` on one item after the other ends, and with the error of an item. -/
theorem staggered_agrees
    (ran : Transition.run (step items reason) (initial items) events = some s)
    (fn : TItem → Except Thrown TResult)
    (byItem : ∀ i reply, .settle i reply ∈ events → ∃ item, items[i]? = some item ∧
      reply = fn item)
    (waits : .abort ∉ events) {settled : Except Thrown (List TResult)}
    (finished : signBatchStaggered items reason s = some settled) :
    (∀ results, settled = .ok results ↔ items.mapM fn = .ok results) ∧
      ∀ error, settled = .error error → ∃ item ∈ items, fn item = .error error := by
  have kept := kept_run ran
  have unfired := kept.aborted.not.mpr waits
  have gathered : promiseAll items s.fan = some settled := by
    unfold signBatchStaggered at finished
    split at finished
    · exact finished
    · cases finished
  exact (wiring reason).agrees byItem waits
    (fun results returned => kept.collected (gathered.trans (congrArg some returned)))
    fun error failed => kept.firstFailure (gathered.trans (congrArg some failed))

/-- Both items are signed, the second one first. -/
def crossed : List (Event ℕ String) :=
  [.begin, .enter, .resume 0, .enter, .resume 1, .settle 1 (.ok 1), .settle 0 (.ok 1)]

theorem staggered_agrees_crossed :
    ∃ s, Transition.run (step ["a", "b"] "aborted") (initial ["a", "b"]) crossed = some s ∧
      signBatchStaggered ["a", "b"] "aborted" s = some (.ok [1, 1]) ∧
      ["a", "b"].mapM (fun item => (.ok item.length : Except String ℕ)) = .ok [1, 1] := by
  refine ⟨_, rfl, rfl, ?_⟩
  refine ((staggered_agrees (show Transition.run (step ["a", "b"] "aborted") (initial ["a", "b"])
    crossed = some _ from rfl) (fun item => .ok item.length) ?_ ?_ rfl).1 _).mp rfl
  · intro i reply settled
    simp only [crossed, List.mem_cons, reduceCtorEq, Event.settle.injEq, List.not_mem_nil,
      or_false, false_or] at settled
    rcases settled with ⟨rfl, rfl⟩ | ⟨rfl, rfl⟩
    · exact ⟨"b", rfl, rfl⟩
    · exact ⟨"a", rfl, rfl⟩
  · simp [crossed]

end Keychain.TypeScript.Staggered
