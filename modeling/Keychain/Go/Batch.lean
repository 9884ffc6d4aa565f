import Keychain.Go.Send
import Keychain.Lib.FanOut

/-!
`core/batch.go`: signing a batch through a group of goroutines.

`SignMessages` and `SignTransactions` hand one function for each item to an `errgroup` and
wait for it. A run interleaves the steps of the loop, of the functions and of the caller, who
may end the context at any time. The time that `stagger` measures is not modelled: a function
may leave it whenever it is in it, and early only when the context is done. A signer with
provider-side effects gets its transactions one by one (`signTransactionsSequential`).

The functions are a fan (`Keychain.Lib.FanOut`): in `stagger` a worker waits, and it calls the
signer. `moves_of_step` says once what a step can do, `wiring` which worker it moves, and `Kept`
what a run keeps.
-/

namespace Keychain.Go.Batch

open FanOut

/-- `BatchOptions`; the delay is in nanoseconds. -/
structure BatchOptions where
  maxConcurrency : Int
  requestDelay : Int

/-- How many functions may run at once. -/
def BatchOptions.limit (opts : BatchOptions) : Option ℕ :=
  if 0 < opts.maxConcurrency then some opts.maxConcurrency.toNat else none

/-- A group of the package `errgroup`, as a parameter. -/
structure Errgroup where
  State : Type
  withContext : State
  setLimit : State → Int → State
  /-- `Go`, which is `none` while it blocks. -/
  go : State → Option State
  /-- A function that `Go` started returns. -/
  returned : State → Option Error → State
  /-- Whether the group has cancelled the context derived for it. -/
  cancelled : State → Bool
  wait : State → Option Error

/-- What the documentation of `errgroup` speaks of. -/
structure GroupView where
  limit : Option ℕ
  /-- the functions that run -/
  active : ℕ
  /-- the first error returned -/
  first : Option Error
  deriving DecidableEq

/-- The documented behaviour: a limit on the functions that run, the first error kept, and the
context cancelled by it. -/
structure Errgroup.Documented (group : Errgroup) (view : group.State → GroupView) : Prop where
  withContext : view group.withContext = ⟨none, 0, none⟩
  setLimit : ∀ s (n : Int), 0 < n →
    view (group.setLimit s n) = { view s with limit := some n.toNat }
  blocks : ∀ s, group.go s = none ↔ ∃ n, (view s).limit = some n ∧ n ≤ (view s).active
  go : ∀ s t, group.go s = some t → view t = { view s with active := (view s).active + 1 }
  returned : ∀ s err, view (group.returned s err) =
    { view s with active := (view s).active - 1, first := (view s).first.or err }
  cancelled : ∀ s, group.cancelled s = (view s).first.isSome
  wait : ∀ s, group.wait s = (view s).first

/-- A batch under way. -/
structure State (group : Errgroup) (α β : Type) where
  fan : Fan α β Error
  group : group.State
  /-- Whether the caller's context is done. -/
  done : Bool
  result : Option (Except Error (List β))

inductive Event (β : Type) where
  /-- The loop hands the next function to `Go`. -/
  | spawn
  /-- `stagger` lets a function go on to the signer. -/
  | pace (i : ℕ)
  /-- `stagger` finds the context done. -/
  | cut (i : ℕ)
  | answer (i : ℕ) (reply : Except Error β)
  /-- The caller's context ends. -/
  | cancel
  | wait

/-- The error of a `stagger` that was cut short. -/
def batchCancelled : Error := newSignerError .httpError "batch signing cancelled"

/-- `stagger`, by whether the context is done before the target time of the item. -/
def stagger (finished : Bool) (index : ℕ) (delay : Int) : Option Error :=
  if delay ≤ 0 ∨ index = 0 then none
  else if finished then some batchCancelled
  else none

variable {group : Errgroup} {α β : Type}

/-- The group a batch starts with. -/
def newGroup (group : Errgroup) (opts : BatchOptions) : group.State :=
  if 0 < opts.maxConcurrency then group.setLimit group.withContext opts.maxConcurrency
  else group.withContext

def initial (group : Errgroup) (items : List α) (opts : BatchOptions) : State group α β where
  fan := FanOut.initial items
  group := newGroup group opts
  done := false
  result := none

/-- A function returns to the group. -/
def State.leave (s : State group α β) (err : Option Error) (fan : Fan α β Error) :
    State group α β :=
  { s with fan := fan, group := group.returned s.group err }

/-- The slice `out`, which starts with zero values. -/
def out (zero : β) (fan : Fan α β Error) : List β := fan.slots.map (·.getD zero)

/-- What is returned after the group has been waited for. -/
def settled (first : Option Error) (out : List β) : Except Error (List β) :=
  match first with
  | some err => .error err
  | none => .ok out

def step (items : List α) (zero : β) (opts : BatchOptions) (s : State group α β) :
    Event β → Option (State group α β)
  | .spawn => do
    let fan ← FanOut.step items s.fan .start
    let started ← group.go s.group
    some { s with fan := fan, group := started }
  | .pace i => (FanOut.step items s.fan (.call i)).map fun fan => { s with fan := fan }
  | .cut i =>
    if s.fan.phase i = .waiting then do
      let err ← stagger (s.done || group.cancelled s.group) i opts.requestDelay
      (FanOut.step items s.fan (.fail i err)).map (s.leave (some err))
    else
      none
  | .answer i (.error err) =>
    if s.fan.phase i = .calling then
      (FanOut.step items s.fan (.fail i err)).map (s.leave (some err))
    else
      none
  | .answer i (.ok signed) => (FanOut.step items s.fan (.store i signed)).map (s.leave none)
  | .cancel => if s.done then none else some { s with done := true }
  | .wait =>
    if s.result.isNone ∧ s.fan.next = items.length ∧
        ∀ i < items.length, s.fan.phase i = .ended then
      some { s with result := some (settled (group.wait s.group) (out zero s.fan)) }
    else
      none

/-- `SignMessages` -/
def signMessages (group : Errgroup) (messages : List Bytes) (opts : BatchOptions) :
    State group Bytes Signature → Event Signature → Option (State group Bytes Signature) :=
  step messages Signature.default opts

/-- `SignTransactions`, for a signer that reports no provider-side effects -/
def signTransactions (group : Errgroup) (txs : List VersionedTransaction) (opts : BatchOptions) :
    State group VersionedTransaction SignedTransaction → Event SignedTransaction →
      Option (State group VersionedTransaction SignedTransaction) :=
  step txs ⟨"", Signature.default, .incomplete⟩ opts

/-- `signTransactionsSequential`, from the item `i` on; what was signed is returned with an error
too. -/
def signTransactionsSequential (opts : BatchOptions) (finished : ℕ → Bool)
    (signTransaction : ℕ → α → Except Error β) (i : ℕ) : List α → List β × Option Error
  | [] => ([], none)
  | tx :: txs =>
    match stagger (finished i) i opts.requestDelay with
    | some err => ([], some err)
    | none =>
      match signTransaction i tx with
      | .error err => ([], some err)
      | .ok signed =>
        (signTransactionsSequential opts finished signTransaction (i + 1) txs).map (signed :: ·) id

/-! ## What a step does -/

variable {items : List α} {zero : β} {opts : BatchOptions} {s t : State group α β} {e : Event β}

inductive Moves (items : List α) (zero : β) (opts : BatchOptions) (s : State group α β) :
    Event β → State group α β → Prop where
  | spawned {fan : Fan α β Error} {started : group.State}
    (moved : FanOut.step items s.fan .start = some fan)
    (allowed : group.go s.group = some started) :
    Moves items zero opts s .spawn { s with fan := fan, group := started }
  | paced {i : ℕ} {fan : Fan α β Error} (moved : FanOut.step items s.fan (.call i) = some fan) :
    Moves items zero opts s (.pace i) { s with fan := fan }
  | cut {i : ℕ} {fan : Fan α β Error} (finished : (s.done || group.cancelled s.group) = true)
    (moved : FanOut.step items s.fan (.fail i batchCancelled) = some fan) :
    Moves items zero opts s (.cut i) (s.leave (some batchCancelled) fan)
  | failed {i : ℕ} {err : Error} {fan : Fan α β Error}
    (moved : FanOut.step items s.fan (.fail i err) = some fan) :
    Moves items zero opts s (.answer i (.error err)) (s.leave (some err) fan)
  | signed {i : ℕ} {signed : β} {fan : Fan α β Error}
    (moved : FanOut.step items s.fan (.store i signed) = some fan) :
    Moves items zero opts s (.answer i (.ok signed)) (s.leave none fan)
  | cancelled (live : s.done = false) : Moves items zero opts s .cancel { s with done := true }
  | waited (open_ : s.result = none) (all : s.fan.next = items.length)
    (finished : ∀ i < items.length, s.fan.phase i = .ended) :
    Moves items zero opts s .wait
      { s with result := some (settled (group.wait s.group) (out zero s.fan)) }

theorem stagger_eq_some {finished : Bool} {index : ℕ} {delay : Int} {err : Error}
    (early : stagger finished index delay = some err) :
    finished = true ∧ err = batchCancelled := by
  unfold stagger at early
  split at early
  · cases early
  · simp only [Option.ite_none_right_eq_some, Option.some.injEq] at early
    exact ⟨early.1, early.2.symm⟩

theorem moves_of_step (stepped : step items zero opts s e = some t) :
    Moves items zero opts s e t := by
  cases e with
  | spawn =>
    simp only [step, Option.bind_eq_bind, Option.bind_eq_some_iff, Option.some.injEq] at stepped
    obtain ⟨fan, moved, started, allowed, rfl⟩ := stepped
    exact .spawned moved allowed
  | pace i =>
    obtain ⟨fan, moved, rfl⟩ := Option.map_eq_some_iff.mp stepped
    exact .paced moved
  | cut i =>
    simp only [step, Option.ite_none_right_eq_some] at stepped
    obtain ⟨-, stepped⟩ := stepped
    obtain ⟨err, early, stepped⟩ := Option.bind_eq_some_iff.mp stepped
    obtain ⟨fan, moved, rfl⟩ := Option.map_eq_some_iff.mp stepped
    obtain ⟨finished, rfl⟩ := stagger_eq_some early
    exact .cut finished moved
  | answer i reply =>
    cases reply with
    | error err =>
      simp only [step, Option.ite_none_right_eq_some, Option.map_eq_some_iff] at stepped
      obtain ⟨-, fan, moved, rfl⟩ := stepped
      exact .failed moved
    | ok signed =>
      obtain ⟨fan, moved, rfl⟩ := Option.map_eq_some_iff.mp stepped
      exact .signed moved
  | cancel =>
    simp only [step, Option.ite_none_left_eq_some, Option.some.injEq] at stepped
    obtain ⟨live, rfl⟩ := stepped
    exact .cancelled (Bool.eq_false_iff.mpr live)
  | wait =>
    simp only [step, Option.ite_none_right_eq_some, Option.some.injEq] at stepped
    obtain ⟨⟨open_, all, finished⟩, rfl⟩ := stepped
    exact .waited (Option.isNone_iff_eq_none.mp open_) all finished

/-! ## What a run keeps -/

/-- What an event is to the functions. -/
def moveOf : Event β → Option (Move β Error)
  | .spawn => some .start
  | .pace i => some (.call i)
  | .cut i => some (.fail i batchCancelled)
  | .answer i (.error err) => some (.fail i err)
  | .answer i (.ok signed) => some (.store i signed)
  | .cancel | .wait => none

/-- How the events of a batch reach its functions. -/
def wiring : Wiring (Event β) β Error where
  moveOf := moveOf
  answer := .answer
  cut := .cut
  reason := batchCancelled
  stop := .cancel
  stores e i signed stored := by
    unfold moveOf at stored
    split at stored <;> cases stored
    rfl
  fails e i err failed := by
    unfold moveOf at failed
    split at failed <;> cases failed
    · exact .inr ⟨rfl, rfl⟩
    · exact .inl rfl

/-- The steps still to come that no function takes: the end of the batch and the caller's. -/
def State.rest (s : State group α β) : ℕ :=
  (if s.result.isNone then 1 else 0) + (if s.done then 0 else 1)

/-- How a batch stands, by the events so far. -/
structure Kept (view : group.State → GroupView) (items : List α) (zero : β) (opts : BatchOptions)
    (events : List (Event β)) (s : State group α β) : Prop where
  fan : FanOut.Kept items (wiring.trace events) s.fan
  first : (view s.group).first = s.fan.failed
  active : (view s.group).active = total items.length s.fan Phase.running
  limit : (view s.group).limit = opts.limit
  within : ∀ n, opts.limit = some n → (view s.group).active ≤ n
  done : s.done = true ↔ .cancel ∈ events
  /-- No `stagger` is cut short before the caller is done or a function has failed. -/
  cause : wiring.Caused events
  closed : ∀ result, s.result = some result →
    s.fan.next = items.length ∧ (∀ i < items.length, s.fan.phase i = .ended) ∧
      result = settled s.fan.failed (out zero s.fan)
  spent : events.length + (total items.length s.fan Phase.left + s.rest) ≤ 3 * items.length + 2

variable {view : group.State → GroupView} {events : List (Event β)} {fan : Fan α β Error}

theorem BatchOptions.limit_pos {n : ℕ} (limited : opts.limit = some n) : 0 < n := by
  simp only [BatchOptions.limit, Option.ite_none_right_eq_some, Option.some.injEq] at limited
  omega

theorem view_newGroup (documented : group.Documented view) :
    view (newGroup group opts) = ⟨opts.limit, 0, none⟩ := by
  unfold newGroup BatchOptions.limit
  split
  · next positive => rw [documented.setLimit _ _ positive, documented.withContext]
  · exact documented.withContext

theorem kept_initial (documented : group.Documented view) :
    Kept view items zero opts [] (initial group items opts) where
  fan := FanOut.kept_initial
  first := congrArg GroupView.first (view_newGroup documented)
  active := (congrArg GroupView.active (view_newGroup documented)).trans
    (total_initial (f := Phase.running)).symm
  limit := congrArg GroupView.limit (view_newGroup documented)
  within n _ := (congrArg GroupView.active (view_newGroup documented)).trans_le (Nat.zero_le n)
  done := by simp [initial]
  cause := by simp [Wiring.Caused]
  closed := by simp [initial]
  spent := Wiring.spent_initial

theorem Kept.first_of_moves (documented : group.Documented view)
    (kept : Kept view items zero opts events s) (moved : Moves items zero opts s e t) :
    (view t.group).first = t.fan.failed := by
  have before := kept.first
  cases moved with
  | spawned moved allowed =>
    cases FanOut.moves_of_step moved
    rwa [documented.go _ _ allowed]
  | paced moved =>
    cases FanOut.moves_of_step moved
    exact before
  | cut finished moved =>
    cases FanOut.moves_of_step moved
    rw [State.leave, documented.returned, before]
  | failed moved =>
    cases FanOut.moves_of_step moved
    rw [State.leave, documented.returned, before]
  | signed moved =>
    cases FanOut.moves_of_step moved
    rw [State.leave, documented.returned, before]
    exact Option.or_none
  | cancelled live => exact before
  | waited open_ all finished => exact before

theorem Kept.active_of_moves (documented : group.Documented view)
    (kept : Kept view items zero opts events s) (moved : Moves items zero opts s e t) :
    (view t.group).active = total items.length t.fan Phase.running := by
  have before := kept.active
  cases moved with
  | spawned moved allowed =>
    rw [documented.go _ _ allowed, kept.fan.running_of_step moved, before]
    rfl
  | paced moved =>
    rw [kept.fan.running_of_step moved, before]
    rfl
  | cut finished moved =>
    rw [State.leave, documented.returned, kept.fan.running_of_step moved, before]
    rfl
  | failed moved =>
    rw [State.leave, documented.returned, kept.fan.running_of_step moved, before]
    rfl
  | signed moved =>
    rw [State.leave, documented.returned, kept.fan.running_of_step moved, before]
    rfl
  | cancelled live => exact before
  | waited open_ all finished => exact before

theorem Kept.limit_of_moves (documented : group.Documented view)
    (kept : Kept view items zero opts events s) (moved : Moves items zero opts s e t) :
    (view t.group).limit = opts.limit := by
  have before := kept.limit
  cases moved with
  | spawned moved allowed => rwa [documented.go _ _ allowed]
  | paced moved => exact before
  | cut finished moved => rwa [State.leave, documented.returned]
  | failed moved => rwa [State.leave, documented.returned]
  | signed moved => rwa [State.leave, documented.returned]
  | cancelled live => exact before
  | waited open_ all finished => exact before

/-- The group lets no more functions run than its limit. -/
theorem Kept.within_of_moves (documented : group.Documented view)
    (kept : Kept view items zero opts events s) (moved : Moves items zero opts s e t) :
    ∀ n, opts.limit = some n → (view t.group).active ≤ n := by
  intro n limited
  have before := kept.within n limited
  have fewer : ∀ err, (view (group.returned s.group err)).active ≤ n := by
    intro err
    rw [documented.returned]
    exact (Nat.sub_le _ 1).trans before
  cases moved with
  | spawned moved allowed =>
    have room : ¬ n ≤ (view s.group).active := by
      intro full
      have blocked := (documented.blocks s.group).mpr ⟨n, kept.limit.trans limited, full⟩
      cases blocked.symm.trans allowed
    rw [documented.go _ _ allowed]
    exact Nat.lt_of_not_le room
  | paced moved => exact before
  | cut finished moved => exact fewer _
  | failed moved => exact fewer _
  | signed moved => exact fewer _
  | cancelled live => exact before
  | waited open_ all finished => exact before

theorem Kept.done_of_moves (kept : Kept view items zero opts events s)
    (moved : Moves items zero opts s e t) : t.done = true ↔ .cancel ∈ events ++ [e] := by
  rw [List.mem_append, List.mem_singleton]
  cases moved with
  | cancelled live => simp
  | spawned moved allowed => simpa using kept.done
  | paced moved => simpa using kept.done
  | cut finished moved => simpa [State.leave] using kept.done
  | failed moved => simpa [State.leave] using kept.done
  | signed moved => simpa [State.leave] using kept.done
  | waited open_ all finished => simpa using kept.done

theorem Kept.cause_of_moves (documented : group.Documented view)
    (kept : Kept view items zero opts events s) (moved : Moves items zero opts s e t) :
    wiring.Caused (events ++ [e]) := by
  refine Wiring.caused_append kept.cause fun i same => ?_
  subst same
  cases moved with
  | cut finished moved =>
    rcases (Bool.or_eq_true _ _).mp finished with done | cancelled
    · exact .inl (kept.done.mp done)
    · right
      rwa [documented.cancelled, kept.first, kept.fan.failed, Wiring.findSome?_trace] at cancelled

theorem Kept.closed_of_moves (documented : group.Documented view)
    (kept : Kept view items zero opts events s) (moved : Moves items zero opts s e t) :
    ∀ result, t.result = some result →
      t.fan.next = items.length ∧ (∀ i < items.length, t.fan.phase i = .ended) ∧
        result = settled t.fan.failed (out zero t.fan) := by
  intro result closed
  have stuck : ∀ {move fan}, s.result = some result → FanOut.step items s.fan move ≠ some fan :=
    fun closed => kept.fan.stuck (kept.closed result closed).2.1
  cases moved with
  | spawned moved allowed => exact absurd moved (stuck closed)
  | paced moved => exact absurd moved (stuck closed)
  | cut finished moved => exact absurd moved (stuck closed)
  | failed moved => exact absurd moved (stuck closed)
  | signed moved => exact absurd moved (stuck closed)
  | cancelled live => exact kept.closed result closed
  | waited open_ all finished =>
    cases closed
    refine ⟨all, finished, ?_⟩
    rw [documented.wait, kept.first]

theorem Moves.advances (moved : Moves items zero opts s e t) :
    wiring.Advances items s.fan e t.fan := by
  cases moved with
  | spawned moved allowed => exact moved
  | paced moved => exact moved
  | cut finished moved => exact moved
  | failed moved => exact moved
  | signed moved => exact moved
  | cancelled live => rfl
  | waited open_ all finished => rfl

theorem Moves.falls (moved : Moves items zero opts s e t) :
    wiring.Falls e s.rest t.rest := by
  cases moved with
  | spawned moved allowed => rfl
  | paced moved => rfl
  | cut finished moved => rfl
  | failed moved => rfl
  | signed moved => rfl
  | cancelled live =>
    simp only [Wiring.Falls, wiring, moveOf, State.rest, live, if_true, Bool.false_eq_true,
      if_false]
    omega
  | waited open_ all finished =>
    simp only [Wiring.Falls, wiring, moveOf, State.rest, open_, Option.isNone_none,
      Option.isNone_some, if_true, Bool.false_eq_true, if_false]
    omega

theorem Kept.step (documented : group.Documented view) (kept : Kept view items zero opts events s)
    (moved : Moves items zero opts s e t) : Kept view items zero opts (events ++ [e]) t where
  fan := Wiring.kept_append kept.fan moved.advances
  first := kept.first_of_moves documented moved
  active := kept.active_of_moves documented moved
  limit := kept.limit_of_moves documented moved
  within := kept.within_of_moves documented moved
  done := kept.done_of_moves moved
  cause := kept.cause_of_moves documented moved
  closed := kept.closed_of_moves documented moved
  spent := Wiring.spent_append kept.fan moved.advances moved.falls kept.spent

theorem kept_run (documented : group.Documented view)
    (ran : Transition.run (step items zero opts) (initial group items opts) events = some s) :
    Kept view items zero opts events s :=
  Transition.run_history (fun _ _ _ _ kept stepped => kept.step documented (moves_of_step stepped))
    (kept_initial documented) ran

/-! ## What a batch returns -/

/-- Every item was handed to the signer, and `out` holds its answers in the order of the
items. -/
abbrev Collected (items : List α) (events : List (Event β)) (calls : List (α × ℕ))
    (out : List β) : Prop :=
  wiring.Collected items events calls out

/-- The error is the first one that a function ended with: an answer of the signer, or a
`stagger` that the caller had cut short. -/
abbrev FirstFailure (events : List (Event β)) (err : Error) : Prop := wiring.FirstFailure events err

theorem settled_eq_ok {first : Option Error} {signed results : List β}
    (same : .ok results = settled first signed) : first = none ∧ results = signed := by
  cases first with
  | none => exact ⟨rfl, Except.ok.inj same⟩
  | some err => cases same

theorem settled_eq_error {first : Option Error} {signed : List β} {err : Error}
    (same : .error err = settled first signed) : first = some err := by
  cases first with
  | none => cases same
  | some other => exact congrArg some (Except.error.inj same).symm

theorem Kept.collected {results : List β} (kept : Kept view items zero opts events s)
    (finished : s.result = some (.ok results)) : Collected items events s.fan.calls results := by
  obtain ⟨-, ended, same⟩ := kept.closed _ finished
  obtain ⟨fine, rfl⟩ := settled_eq_ok same
  obtain ⟨results, slots, collected⟩ := Wiring.exists_collected kept.fan fine ended
  have returned : out zero s.fan = results := by
    rw [out, slots, List.map_map]
    exact List.map_id results
  rwa [returned]

theorem Kept.firstFailure {err : Error} (kept : Kept view items zero opts events s)
    (finished : s.result = some (.error err)) : FirstFailure events err := by
  obtain ⟨-, -, same⟩ := kept.closed _ finished
  exact Wiring.firstFailure kept.fan kept.cause (settled_eq_error same)

/-- Whatever the interleaving, the signer is called with an item at most once; a batch that
returns results has collected the answers in order, and one that returns an error returns its
first failure, never the cancellation that the failure itself has caused. -/
theorem batch_returns (documented : group.Documented view)
    (ran : Transition.run (step items zero opts) (initial group items opts) events = some s) :
    (∀ x ∈ s.fan.calls, items[x.2]? = some x.1) ∧ (s.fan.calls.map Prod.snd).Nodup ∧
    (∀ out, s.result = some (.ok out) → Collected items events s.fan.calls out) ∧
    (∀ err, s.result = some (.error err) → FirstFailure events err) := by
  have kept := kept_run documented ran
  exact ⟨kept.fan.own, kept.fan.once, fun _ => kept.collected, fun _ => kept.firstFailure⟩

/-- The view of a group in which another function runs, unless the limit is reached. -/
def GroupView.started (view : GroupView) : Option GroupView :=
  if view.limit.any (· ≤ view.active) then none else some { view with active := view.active + 1 }

theorem GroupView.eq_of_started {before after : GroupView} (running : before.started = some after) :
    after = { before with active := before.active + 1 } := by
  simp only [GroupView.started, Option.ite_none_left_eq_some, Option.some.injEq] at running
  exact running.2.symm

/-- A group that does what is documented and nothing else. -/
def counting : Errgroup where
  State := GroupView
  withContext := ⟨none, 0, none⟩
  setLimit s n := if 0 < n then { s with limit := some n.toNat } else s
  go := GroupView.started
  returned s err := { s with active := s.active - 1, first := s.first.or err }
  cancelled s := s.first.isSome
  wait s := s.first

theorem counting_documented : counting.Documented id where
  withContext := rfl
  setLimit _ _ limited := if_pos limited
  blocks s := by
    simp only [counting, GroupView.started, id, ite_eq_left_iff, reduceCtorEq, imp_false, not_not,
      Option.any_eq_true, decide_eq_true_eq]
  go _ _ := GroupView.eq_of_started
  returned _ _ := rfl
  cancelled _ := rfl
  wait _ := rfl

/-- The first item fails while the second one waits for its turn. -/
def declined : List (Event Signature) :=
  [.spawn, .spawn, .pace 0, .answer 0 (.error (newSignerError .signingFailed "declined")),
    .cut 1, .wait]

theorem batch_returns_declined :
    ∃ s, Transition.run (signMessages counting [[1], [2]] ⟨0, 50⟩)
        (initial counting [[1], [2]] ⟨0, 50⟩) declined = some s ∧
      s.result = some (.error (newSignerError .signingFailed "declined")) ∧
      FirstFailure declined (newSignerError .signingFailed "declined") := by
  refine ⟨_, rfl, rfl, ?_⟩
  exact (batch_returns counting_documented
    (show Transition.run (step [[1], [2]] Signature.default ⟨0, 50⟩)
      (initial counting [[1], [2]] ⟨0, 50⟩) declined = some _ from rfl)).2.2.2 _ rfl

/-! ## Progress -/

/-- Some step other than the caller's is possible, the signer's with any answer. -/
def Ready (items : List α) (zero : β) (opts : BatchOptions) (s : State group α β) : Prop :=
  (∃ t, step items zero opts s .spawn = some t) ∨
    (∃ i t, step items zero opts s (.pace i) = some t) ∨
    (∃ i, ∀ reply, ∃ t, step items zero opts s (.answer i reply) = some t) ∨
    ∃ t, step items zero opts s .wait = some t

theorem exists_spawn (documented : group.Documented view)
    (kept : Kept view items zero opts events s) (more : s.fan.next < items.length)
    (idle : total items.length s.fan Phase.running = 0) :
    ∃ t, step items zero opts s .spawn = some t := by
  rw [step, FanOut.step, if_pos more]
  cases allowed : group.go s.group with
  | some started => exact ⟨_, rfl⟩
  | none =>
    -- no function runs, so the limit does not block the loop
    obtain ⟨n, limited, reached⟩ := (documented.blocks _).mp allowed
    have positive := BatchOptions.limit_pos (kept.limit.symm.trans limited)
    rw [kept.active, idle] at reached
    omega

theorem ready_of_open (documented : group.Documented view)
    (kept : Kept view items zero opts events s) (open_ : s.result = none) :
    Ready items zero opts s := by
  by_cases signing : ∃ i, s.fan.phase i = .calling
  · obtain ⟨i, here⟩ := signing
    refine .inr (.inr (.inl ⟨i, fun reply => ?_⟩))
    cases reply with
    | error err =>
      rw [step, if_pos here, FanOut.step, if_pos (.inr here)]
      exact ⟨_, rfl⟩
    | ok signed =>
      rw [step, FanOut.step, if_pos here]
      exact ⟨_, rfl⟩
  by_cases staggering : ∃ i, s.fan.phase i = .waiting
  · obtain ⟨i, here⟩ := staggering
    have inside := kept.fan.inside (i := i) (by simp [here])
    refine .inr (.inl ⟨i, ?_⟩)
    rw [step, FanOut.step, if_pos here, List.getElem?_eq_getElem inside]
    exact ⟨_, rfl⟩
  obtain ⟨idle, ended⟩ := kept.fan.idle fun i =>
    ⟨fun here => staggering ⟨i, here⟩, fun here => signing ⟨i, here⟩⟩
  rcases Nat.lt_or_ge s.fan.next items.length with more | all
  · exact .inl (exists_spawn documented kept more idle)
  · refine .inr (.inr (.inr ?_))
    have last : s.fan.next = items.length := Nat.le_antisymm kept.fan.bounded all
    rw [step, if_pos ⟨Option.isNone_iff_eq_none.mpr open_, last, last ▸ ended⟩]
    exact ⟨_, rfl⟩

/-- Whatever the interleaving, no more functions run at once than `MaxConcurrency` allows, and a
batch that has not returned can go on; it returns after at most three steps for each item, one
more of its own and one of its caller. -/
theorem batch_progresses (documented : group.Documented view)
    (ran : Transition.run (step items zero opts) (initial group items opts) events = some s) :
    (∀ n, opts.limit = some n → total items.length s.fan Phase.running ≤ n) ∧
    events.length ≤ 3 * items.length + 2 ∧ (s.result = none → Ready items zero opts s) := by
  have kept := kept_run documented ran
  refine ⟨fun n limited => ?_, ?_, ready_of_open documented kept⟩
  · rw [← kept.active]
    exact kept.within n limited
  · exact (Nat.le_add_right _ _).trans kept.spent

theorem batch_progresses_declined :
    (∃ s, Transition.run (signMessages counting [[1], [2]] ⟨1, 50⟩)
        (initial counting [[1], [2]] ⟨1, 50⟩) [.spawn, .pace 0] = some s ∧
      total 2 s.fan Phase.running ≤ 1 ∧
      (s.result = none → Ready [[1], [2]] Signature.default ⟨1, 50⟩ s)) ∧
    ∃ s, Transition.run (signTransactions counting [emptyTransaction, emptyTransaction] ⟨1, 50⟩)
        (initial counting [emptyTransaction, emptyTransaction] ⟨1, 50⟩) [.spawn, .pace 0] = some s ∧
      total 2 s.fan Phase.running ≤ 1 := by
  constructor
  · obtain ⟨s, ran⟩ : ∃ s, Transition.run (signMessages counting [[1], [2]] ⟨1, 50⟩)
      (initial counting [[1], [2]] ⟨1, 50⟩) [.spawn, .pace 0] = some s := ⟨_, rfl⟩
    obtain ⟨few, -, ready⟩ := batch_progresses counting_documented ran
    exact ⟨s, ran, few 1 rfl, ready⟩
  · obtain ⟨s, ran⟩ : ∃ s, Transition.run
      (signTransactions counting [emptyTransaction, emptyTransaction] ⟨1, 50⟩)
      (initial counting [emptyTransaction, emptyTransaction] ⟨1, 50⟩) [.spawn, .pace 0] = some s :=
        ⟨_, rfl⟩
    exact ⟨s, ran, (batch_progresses counting_documented ran).1 1 rfl⟩

/-! ## The plain way -/

@[simp] theorem stagger_of_live (index : ℕ) (delay : Int) : stagger false index delay = none := by
  simp [stagger]

/-- While the caller waits, one transaction after the other is signed until one fails. -/
theorem signTransactionsSequential_eq (sign : α → Except Error β) (i : ℕ) (out : List β) :
    signTransactionsSequential opts (fun _ => false) (fun _ => sign) i items = (out, none) ↔
      items.mapM sign = .ok out := by
  induction items generalizing i out with
  | nil => simp [signTransactionsSequential, pure, Except.pure, eq_comm]
  | cons item items ih =>
    rw [signTransactionsSequential, stagger_of_live, List.mapM_cons]
    cases signed : sign item with
    | error err => simp [bind, Except.bind]
    | ok here =>
      refine ⟨fun same => ?_, fun plain => ?_⟩
      · obtain ⟨same, whole⟩ := Prod.ext_iff.mp same
        have rest := (ih (i + 1) _).mp (Prod.ext rfl whole)
        rw [rest]
        exact congrArg Except.ok same
      · cases rest : items.mapM sign with
        | error err =>
          rw [rest] at plain
          cases plain
        | ok signed =>
          rw [rest] at plain
          cases plain
          exact congrArg (Prod.map (here :: ·) id) ((ih (i + 1) signed).mpr rest)

/-- For a signer that answers by the item alone, and a caller that does not give up, the batch
returns what signing one item after the other returns, as `signTransactionsSequential` does, and
fails with the error of an item. -/
theorem batch_agrees (documented : group.Documented view)
    (ran : Transition.run (step items zero opts) (initial group items opts) events = some s)
    (sign : α → Except Error β)
    (byItem : ∀ i reply, .answer i reply ∈ events → ∃ item, items[i]? = some item ∧
      reply = sign item)
    (waits : .cancel ∉ events) {result : Except Error (List β)}
    (finished : s.result = some result) :
    (∀ out, result = .ok out ↔ items.mapM sign = .ok out) ∧
      (∀ err, result = .error err → ∃ item ∈ items, sign item = .error err) ∧
      ∀ out, result = .ok out ↔
        signTransactionsSequential opts (fun _ => false) (fun _ => sign) 0 items = (out, none) := by
  have kept := kept_run documented ran
  obtain ⟨agrees, fails⟩ := wiring.agrees byItem waits
    (fun out returned => kept.collected (finished.trans (congrArg some returned)))
    fun err failed => kept.firstFailure (finished.trans (congrArg some failed))
  refine ⟨agrees, fails, fun out => ?_⟩
  rw [signTransactionsSequential_eq]
  exact agrees out

/-- Both items are signed, the second one first. -/
def crossed : List (Event Signature) :=
  [.spawn, .spawn, .pace 1, .pace 0, .answer 1 (.ok filledSignature),
    .answer 0 (.ok filledSignature), .wait]

theorem batch_agrees_crossed :
    ∃ s, Transition.run (signMessages counting [[1], [2]] ⟨0, 0⟩)
        (initial counting [[1], [2]] ⟨0, 0⟩) crossed = some s ∧
      s.result = some (.ok [filledSignature, filledSignature]) ∧
      [[1], [2]].mapM (fun _ : Bytes => (.ok filledSignature : Except Error Signature)) =
        .ok [filledSignature, filledSignature] ∧
      signTransactionsSequential ⟨0, 0⟩ (fun _ => false)
          (fun _ (_ : Bytes) => .ok filledSignature) 0 [[1], [2]] =
        ([filledSignature, filledSignature], none) := by
  have byItem : ∀ i reply, Event.answer i reply ∈ crossed →
      ∃ item, [[1], [2]][i]? = some item ∧ reply = .ok filledSignature := by
    intro i reply answer
    simp only [crossed, List.mem_cons, reduceCtorEq, Event.answer.injEq, List.not_mem_nil,
      or_false, false_or] at answer
    rcases answer with ⟨rfl, rfl⟩ | ⟨rfl, rfl⟩
    · exact ⟨[2], rfl, rfl⟩
    · exact ⟨[1], rfl, rfl⟩
  refine ⟨_, rfl, rfl, ?_⟩
  obtain ⟨plain, -, sequential⟩ := batch_agrees counting_documented
    (show Transition.run (step [[1], [2]] Signature.default ⟨0, 0⟩)
      (initial counting [[1], [2]] ⟨0, 0⟩) crossed = some _ from rfl)
    (fun _ => .ok filledSignature) byItem (by simp [crossed]) rfl
  exact ⟨(plain _).mp rfl, (sequential _).mp rfl⟩

end Keychain.Go.Batch
