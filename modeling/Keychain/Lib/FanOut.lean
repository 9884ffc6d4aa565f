import Keychain.Lib.Transition
import Mathlib.Algebra.BigOperators.Group.Finset.Basic
import Mathlib.Data.List.Nodup
import Mathlib.Logic.Function.Basic

/-!
Work handed out item by item and gathered as it ends.

Every item of a list has a worker of its own. A worker waits, calls, and ends with a result,
which goes to the slot of its item, or with a failure, of which the first is kept. Workers run
side by side. Which one moves, when it may fail and what becomes of the results is left to the
system that runs them.

`Kept` ties a fan to the moves behind it (`Kept.step`), and `Kept.collected` says what has been
gathered once every worker has ended without a failure, which is what doing one item after the
other gathers (`agrees_mapM`). `total` counts over the workers: the
moves still to come (`Kept.left_lt`), and the workers that run (`Kept.running_of_step`).

`Wiring` tells which move an event of the system is. `Wiring.kept_append` and
`Wiring.spent_append` carry a fan and a bound on the events along, and
`Wiring.exists_collected`, `Wiring.firstFailure` and `Wiring.agrees` say what a run ends with.
-/

namespace Keychain.FanOut

inductive Phase where
  | unstarted
  | waiting
  | calling
  | ended
  deriving DecidableEq

/-- Workers for items of type `α`; `calls` records what has been called with. -/
structure Fan (α β ε : Type) where
  /-- the next item without a worker -/
  next : ℕ
  phase : ℕ → Phase
  slots : List (Option β)
  calls : List (α × ℕ)
  failed : Option ε

/-- What a worker does. -/
inductive Move (β ε : Type) where
  | start
  | call (i : ℕ)
  | fail (i : ℕ) (error : ε)
  | store (i : ℕ) (result : β)
  deriving DecidableEq

variable {α β ε : Type}

def initial (items : List α) : Fan α β ε where
  next := 0
  phase _ := .unstarted
  slots := List.replicate items.length none
  calls := []
  failed := none

def Fan.enter (fan : Fan α β ε) (i : ℕ) (phase : Phase) : Fan α β ε :=
  { fan with phase := Function.update fan.phase i phase }

def step (items : List α) (fan : Fan α β ε) : Move β ε → Option (Fan α β ε)
  | .start =>
    if fan.next < items.length then
      some { fan.enter fan.next .waiting with next := fan.next + 1 }
    else
      none
  | .call i =>
    if fan.phase i = .waiting then
      items[i]?.map fun item => { fan.enter i .calling with calls := fan.calls ++ [(item, i)] }
    else
      none
  | .fail i error =>
    if fan.phase i = .waiting ∨ fan.phase i = .calling then
      some { fan.enter i .ended with failed := fan.failed.or (some error) }
    else
      none
  | .store i result =>
    if fan.phase i = .calling then
      some { fan.enter i .ended with slots := fan.slots.set i (some result) }
    else
      none

/-! ## What a move does -/

variable {items : List α} {fan fan' : Fan α β ε} {move : Move β ε} {i j : ℕ} {phase : Phase}

@[simp] theorem enter_phase_self : (fan.enter i phase).phase i = phase := Function.update_self ..

theorem enter_phase_of_ne (apart : j ≠ i) : (fan.enter i phase).phase j = fan.phase j :=
  Function.update_of_ne apart ..

/-- What holds of the other workers where they are, and of one where it goes. -/
theorem forall_enter {P : ℕ → Phase → Prop} (others : ∀ j, j ≠ i → P j (fan.phase j))
    (now : P i phase) (j : ℕ) : P j ((fan.enter i phase).phase j) := by
  by_cases same : j = i
  · subst same
    rwa [enter_phase_self]
  · rw [enter_phase_of_ne same]
    exact others j same

inductive Moves (items : List α) (fan : Fan α β ε) : Move β ε → Fan α β ε → Prop where
  | started (more : fan.next < items.length) :
    Moves items fan .start { fan.enter fan.next .waiting with next := fan.next + 1 }
  | called {i : ℕ} {item : α} (here : fan.phase i = .waiting) (own : items[i]? = some item) :
    Moves items fan (.call i) { fan.enter i .calling with calls := fan.calls ++ [(item, i)] }
  | failed {i : ℕ} {error : ε} (here : fan.phase i = .waiting ∨ fan.phase i = .calling) :
    Moves items fan (.fail i error)
      { fan.enter i .ended with failed := fan.failed.or (some error) }
  | stored {i : ℕ} {result : β} (here : fan.phase i = .calling) :
    Moves items fan (.store i result)
      { fan.enter i .ended with slots := fan.slots.set i (some result) }

theorem moves_of_step (stepped : step items fan move = some fan') : Moves items fan move fan' := by
  cases move with
  | start =>
    simp only [step, Option.ite_none_right_eq_some, Option.some.injEq] at stepped
    obtain ⟨more, rfl⟩ := stepped
    exact .started more
  | call i =>
    simp only [step, Option.ite_none_right_eq_some, Option.map_eq_some_iff] at stepped
    obtain ⟨here, item, own, rfl⟩ := stepped
    exact .called here own
  | fail i error =>
    simp only [step, Option.ite_none_right_eq_some, Option.some.injEq] at stepped
    obtain ⟨here, rfl⟩ := stepped
    exact .failed here
  | store i result =>
    simp only [step, Option.ite_none_right_eq_some, Option.some.injEq] at stepped
    obtain ⟨here, rfl⟩ := stepped
    exact .stored here

/-! ## What the moves amount to -/

def Move.failure : Move β ε → Option ε
  | .fail _ error => some error
  | .start | .call _ | .store _ _ => none

/-- The worker that a move ends. -/
def Move.ends : Move β ε → Option ℕ
  | .fail i _ | .store i _ => some i
  | .start | .call _ => none

/-- The item has its result, or some worker has failed. -/
def Accounted (moves : List (Move β ε)) (slots : List (Option β)) (i : ℕ) : Prop :=
  (∃ result, slots[i]? = some (some result) ∧ .store i result ∈ moves) ∨
    (moves.findSome? Move.failure).isSome

/-- How a fan stands, by the moves so far. -/
structure Kept (items : List α) (moves : List (Move β ε)) (fan : Fan α β ε) : Prop where
  failed : fan.failed = moves.findSome? Move.failure
  started : ∀ i, fan.phase i ≠ .unstarted ↔ i < fan.next
  bounded : fan.next ≤ items.length
  length : fan.slots.length = items.length
  own : ∀ x ∈ fan.calls, items[x.2]? = some x.1
  once : (fan.calls.map Prod.snd).Nodup
  asked : ∀ i ∈ fan.calls.map Prod.snd, fan.phase i = .calling ∨ fan.phase i = .ended
  calling : ∀ i, fan.phase i = .calling → i ∈ fan.calls.map Prod.snd
  finished : ∀ i, fan.phase i = .ended ↔ i ∈ moves.filterMap Move.ends
  single : (moves.filterMap Move.ends).Nodup
  stored : ∀ i result, .store i result ∈ moves → i ∈ fan.calls.map Prod.snd
  ended : ∀ i, fan.phase i = .ended → Accounted moves fan.slots i

variable {moves : List (Move β ε)}

theorem findSome?_append_move : (moves ++ [move]).findSome? Move.failure =
    (moves.findSome? Move.failure).or move.failure := by
  rw [List.findSome?_append, List.findSome?_singleton]

theorem filterMap_append_move :
    (moves ++ [move]).filterMap Move.ends = moves.filterMap Move.ends ++ move.ends.toList := by
  rw [List.filterMap_append]
  cases move <;> rfl

theorem Accounted.append {slots slots' : List (Option β)} (accounted : Accounted moves slots i)
    (same : slots'[i]? = slots[i]?) : Accounted (moves ++ [move]) slots' i := by
  rcases accounted with ⟨result, slot, stored⟩ | failed
  · exact .inl ⟨result, same.trans slot, List.mem_append_left _ stored⟩
  · right
    rw [findSome?_append_move, Option.isSome_or, failed, Bool.true_or]

theorem kept_initial : Kept items [] (initial items : Fan α β ε) where
  failed := rfl
  started := by simp [initial]
  bounded := Nat.zero_le _
  length := List.length_replicate
  own := by simp [initial]
  once := List.nodup_nil
  asked := by simp [initial]
  calling := by simp [initial]
  finished := by simp [initial]
  single := List.nodup_nil
  stored := by simp
  ended := by simp [initial]

theorem Kept.unstarted (kept : Kept items moves fan) : fan.phase fan.next = .unstarted := by
  have unstarted := (kept.started fan.next).not.mpr (Nat.lt_irrefl _)
  rwa [not_not] at unstarted

theorem Kept.inside (kept : Kept items moves fan) (here : fan.phase i ≠ .unstarted) :
    i < items.length :=
  ((kept.started i).mp here).trans_le kept.bounded

/-! ## What a move keeps -/

theorem Kept.failed_of_moves (kept : Kept items moves fan) (moved : Moves items fan move fan') :
    fan'.failed = (moves ++ [move]).findSome? Move.failure := by
  rw [findSome?_append_move, ← kept.failed]
  cases moved with
  | failed here => rfl
  | _ => exact (Option.or_none).symm

theorem Kept.started_of_moves (kept : Kept items moves fan) (moved : Moves items fan move fan') :
    ∀ j, fan'.phase j ≠ .unstarted ↔ j < fan'.next := by
  cases moved with
  | started more =>
    refine forall_enter (P := fun j phase => phase ≠ .unstarted ↔ j < fan.next + 1)
      (fun j apart => ?_) (by simp)
    rw [kept.started j]
    omega
  | called here own =>
    exact forall_enter (P := fun j phase => phase ≠ .unstarted ↔ j < fan.next)
      (fun j _ => kept.started j) (by simp [← kept.started, here])
  | failed here =>
    exact forall_enter (P := fun j phase => phase ≠ .unstarted ↔ j < fan.next)
      (fun j _ => kept.started j)
      (by rcases here with here | here <;> simp [← kept.started, here])
  | stored here =>
    exact forall_enter (P := fun j phase => phase ≠ .unstarted ↔ j < fan.next)
      (fun j _ => kept.started j) (by simp [← kept.started, here])

theorem Kept.bounded_of_moves (kept : Kept items moves fan) (moved : Moves items fan move fan') :
    fan'.next ≤ items.length := by
  cases moved with
  | started more => exact more
  | _ => exact kept.bounded

theorem Kept.length_of_moves (kept : Kept items moves fan) (moved : Moves items fan move fan') :
    fan'.slots.length = items.length := by
  cases moved with
  | stored here => exact List.length_set.trans kept.length
  | _ => exact kept.length

theorem Kept.own_of_moves (kept : Kept items moves fan) (moved : Moves items fan move fan') :
    ∀ x ∈ fan'.calls, items[x.2]? = some x.1 := by
  cases moved with
  | called here own =>
    exact List.forall_mem_append.mpr ⟨kept.own, List.forall_mem_singleton.mpr own⟩
  | _ => exact kept.own

theorem Kept.once_of_moves (kept : Kept items moves fan) (moved : Moves items fan move fan') :
    (fan'.calls.map Prod.snd).Nodup := by
  cases moved with
  | @called i item here own =>
    have fresh : i ∉ fan.calls.map Prod.snd := by
      intro called
      have later := kept.asked i called
      simp [here] at later
    rw [List.map_append, List.map_singleton, ← List.concat_eq_append]
    exact (List.nodup_concat _ _).mpr ⟨fresh, kept.once⟩
  | _ => exact kept.once

theorem Kept.asked_of_moves (kept : Kept items moves fan) (moved : Moves items fan move fan') :
    ∀ j ∈ fan'.calls.map Prod.snd, fan'.phase j = .calling ∨ fan'.phase j = .ended := by
  cases moved with
  | started more =>
    refine forall_enter (P := fun j phase => j ∈ fan.calls.map Prod.snd →
      phase = .calling ∨ phase = .ended) (fun j _ => kept.asked j) fun called => ?_
    have later := kept.asked _ called
    simp [kept.unstarted] at later
  | @called i item here own =>
    refine forall_enter (P := fun j phase => j ∈ (fan.calls ++ [(item, i)]).map Prod.snd →
      phase = .calling ∨ phase = .ended) (fun j apart called => ?_) fun _ => .inl rfl
    rw [List.map_append, List.map_singleton, List.mem_append, List.mem_singleton] at called
    exact kept.asked j (called.resolve_right apart)
  | failed here =>
    exact forall_enter (P := fun j phase => j ∈ fan.calls.map Prod.snd →
      phase = .calling ∨ phase = .ended) (fun j _ => kept.asked j) fun _ => .inr rfl
  | stored here =>
    exact forall_enter (P := fun j phase => j ∈ fan.calls.map Prod.snd →
      phase = .calling ∨ phase = .ended) (fun j _ => kept.asked j) fun _ => .inr rfl

theorem Kept.calling_of_moves (kept : Kept items moves fan) (moved : Moves items fan move fan') :
    ∀ j, fan'.phase j = .calling → j ∈ fan'.calls.map Prod.snd := by
  cases moved with
  | @called i item here own =>
    refine forall_enter (P := fun j phase => phase = .calling →
      j ∈ (fan.calls ++ [(item, i)]).map Prod.snd) (fun j _ calls => ?_) fun _ => by simp
    rw [List.map_append]
    exact List.mem_append_left _ (kept.calling j calls)
  | started more =>
    exact forall_enter (P := fun j phase => phase = .calling → j ∈ fan.calls.map Prod.snd)
      (fun j _ => kept.calling j) (by simp)
  | failed here =>
    exact forall_enter (P := fun j phase => phase = .calling → j ∈ fan.calls.map Prod.snd)
      (fun j _ => kept.calling j) (by simp)
  | stored here =>
    exact forall_enter (P := fun j phase => phase = .calling → j ∈ fan.calls.map Prod.snd)
      (fun j _ => kept.calling j) (by simp)

/-- The workers that have ended are those that a move has ended. -/
theorem Kept.finished_of_moves (kept : Kept items moves fan) (moved : Moves items fan move fan') :
    ∀ j, fan'.phase j = .ended ↔ j ∈ (moves ++ [move]).filterMap Move.ends := by
  rw [filterMap_append_move]
  cases moved with
  | started more =>
    refine forall_enter (P := fun j phase => phase = .ended ↔ j ∈ moves.filterMap Move.ends ++ [])
      (fun j _ => ?_) ?_
    · rw [List.append_nil]
      exact kept.finished j
    · rw [List.append_nil, ← kept.finished, kept.unstarted]
      simp
  | called here own =>
    refine forall_enter (P := fun j phase => phase = .ended ↔ j ∈ moves.filterMap Move.ends ++ [])
      (fun j _ => ?_) ?_
    · rw [List.append_nil]
      exact kept.finished j
    · rw [List.append_nil, ← kept.finished, here]
      simp
  | @failed i error here =>
    refine forall_enter (P := fun j phase => phase = .ended ↔ j ∈ moves.filterMap Move.ends ++ [i])
      (fun j apart => ?_) (by simp)
    rw [List.mem_append, List.mem_singleton, or_iff_left apart]
    exact kept.finished j
  | @stored i result here =>
    refine forall_enter (P := fun j phase => phase = .ended ↔ j ∈ moves.filterMap Move.ends ++ [i])
      (fun j apart => ?_) (by simp)
    rw [List.mem_append, List.mem_singleton, or_iff_left apart]
    exact kept.finished j

theorem Kept.single_of_moves (kept : Kept items moves fan) (moved : Moves items fan move fan') :
    ((moves ++ [move]).filterMap Move.ends).Nodup := by
  have grow : ∀ i, fan.phase i ≠ .ended → (moves.filterMap Move.ends ++ [i]).Nodup := by
    intro i here
    rw [← List.concat_eq_append]
    refine (List.nodup_concat _ _).mpr ⟨fun earlier => ?_, kept.single⟩
    exact here ((kept.finished i).mpr earlier)
  rw [filterMap_append_move]
  cases moved with
  | started more => exact (List.append_nil _).symm ▸ kept.single
  | called here own => exact (List.append_nil _).symm ▸ kept.single
  | failed here => exact grow _ (by rcases here with here | here <;> simp [here])
  | stored here => exact grow _ (by simp [here])

theorem Kept.stored_of_moves (kept : Kept items moves fan) (moved : Moves items fan move fan') :
    ∀ j result, .store j result ∈ moves ++ [move] → j ∈ fan'.calls.map Prod.snd := by
  intro j result stored
  rcases List.mem_append.mp stored with earlier | now
  · have before := kept.stored j result earlier
    cases moved with
    | called here own =>
      rw [List.map_append]
      exact List.mem_append_left _ before
    | _ => exact before
  · cases List.mem_singleton.mp now
    cases moved with
    | stored here => exact kept.calling j here

theorem Kept.ended_of_moves (kept : Kept items moves fan) (moved : Moves items fan move fan') :
    ∀ j, fan'.phase j = .ended → Accounted (moves ++ [move]) fan'.slots j := by
  cases moved with
  | @failed i error here =>
    refine forall_enter (P := fun j phase => phase = .ended →
      Accounted (moves ++ [Move.fail i error]) fan.slots j)
      (fun j _ finished => (kept.ended j finished).append rfl) fun _ => .inr ?_
    rw [findSome?_append_move, Option.isSome_or, Move.failure, Option.isSome_some, Bool.or_true]
  | @stored i result here =>
    refine forall_enter (P := fun j phase => phase = .ended →
      Accounted (moves ++ [Move.store i result]) (fan.slots.set i (some result)) j)
      (fun j apart finished => (kept.ended j finished).append (List.getElem?_set_ne apart.symm))
      fun _ => .inl ⟨result, List.getElem?_set_self ?_, by simp⟩
    rw [kept.length]
    exact kept.inside (by simp [here])
  | started more =>
    exact forall_enter (P := fun j phase => phase = .ended →
      Accounted (moves ++ [Move.start]) fan.slots j)
      (fun j _ finished => (kept.ended j finished).append rfl) (by simp)
  | @called i item here own =>
    exact forall_enter (P := fun j phase => phase = .ended →
      Accounted (moves ++ [Move.call i]) fan.slots j)
      (fun j _ finished => (kept.ended j finished).append rfl) (by simp)

theorem Kept.step (kept : Kept items moves fan) (stepped : step items fan move = some fan') :
    Kept items (moves ++ [move]) fan' :=
  have moved := moves_of_step stepped
  { failed := kept.failed_of_moves moved
    started := kept.started_of_moves moved
    bounded := kept.bounded_of_moves moved
    length := kept.length_of_moves moved
    own := kept.own_of_moves moved
    once := kept.once_of_moves moved
    asked := kept.asked_of_moves moved
    calling := kept.calling_of_moves moved
    finished := kept.finished_of_moves moved
    single := kept.single_of_moves moved
    stored := kept.stored_of_moves moved
    ended := kept.ended_of_moves moved }

/-! ## What has been gathered -/

theorem exists_map_some {slots : List (Option β)} (all : ∀ slot ∈ slots, slot.isSome) :
    ∃ results : List β, slots = results.map some := by
  induction slots with
  | nil => exact ⟨[], rfl⟩
  | cons slot slots ih =>
    obtain ⟨here, rest⟩ := List.forall_mem_cons.mp all
    obtain ⟨result, rfl⟩ := Option.isSome_iff_exists.mp here
    obtain ⟨results, rfl⟩ := ih rest
    exact ⟨result :: results, rfl⟩

/-- Every item was called with once, and the results are in the order of the items. -/
structure Collected (items : List α) (moves : List (Move β ε)) (fan : Fan α β ε)
    (results : List β) : Prop where
  slots : fan.slots = results.map some
  calls : fan.calls.Perm items.zipIdx
  length : results.length = items.length
  own : ∀ i (inside : i < results.length), .store i results[i] ∈ moves

theorem Kept.calls_perm (kept : Kept items moves fan)
    (all : ∀ i < items.length, i ∈ fan.calls.map Prod.snd) : fan.calls.Perm items.zipIdx := by
  have distinct : (items.zipIdx.map Prod.snd).Nodup := by
    rw [List.zipIdx_map_snd]
    exact List.nodup_range'
  refine (List.perm_ext_iff_of_nodup kept.once.of_map distinct.of_map).mpr fun x => ?_
  obtain ⟨item, i⟩ := x
  rw [List.mem_zipIdx_iff_getElem?]
  refine ⟨kept.own (item, i), fun own => ?_⟩
  obtain ⟨⟨other, j⟩, called, same⟩ :=
    List.mem_map.mp (all i (List.getElem?_eq_some_iff.mp own).1)
  cases same
  cases (kept.own _ called).symm.trans own
  exact called

theorem Kept.collected (kept : Kept items moves fan) (fine : fan.failed = none)
    (finished : ∀ i < items.length, fan.phase i = .ended) :
    ∃ results, Collected items moves fan results := by
  have stored : ∀ i < items.length, ∃ result, fan.slots[i]? = some (some result) ∧
      .store i result ∈ moves := by
    intro i inside
    refine (kept.ended i (finished i inside)).resolve_right fun failed => ?_
    rw [← kept.failed, fine] at failed
    cases failed
  obtain ⟨results, slots⟩ : ∃ results : List β, fan.slots = results.map some := by
    refine exists_map_some fun slot member => ?_
    obtain ⟨i, found⟩ := List.mem_iff_getElem?.mp member
    obtain ⟨inside, -⟩ := List.getElem?_eq_some_iff.mp found
    obtain ⟨result, here, -⟩ := stored i (kept.length ▸ inside)
    cases found.symm.trans here
    rfl
  have length : results.length = items.length := by
    rw [← kept.length, slots, List.length_map]
  refine ⟨results, slots, kept.calls_perm fun i inside => ?_, length, fun i inside => ?_⟩
  · obtain ⟨result, -, store⟩ := stored i inside
    exact kept.stored i result store
  · obtain ⟨result, here, store⟩ := stored i (length ▸ inside)
    rw [slots, List.getElem?_map, List.getElem?_eq_getElem inside] at here
    cases here
    exact store

/-! ## The plain way -/

theorem mapM_eq_ok {f : α → Except ε β} {results : List β} (length : results.length = items.length)
    (each : ∀ (i : ℕ) (item : α) (result : β), items[i]? = some item →
      results[i]? = some result → f item = .ok result) : items.mapM f = .ok results := by
  induction items generalizing results with
  | nil =>
    cases List.eq_nil_of_length_eq_zero length
    rfl
  | cons item items ih =>
    cases results with
    | nil => cases length
    | cons result results =>
      have first := each 0 item result rfl rfl
      have rest := ih (Nat.succ.inj length) fun i => each (i + 1)
      rw [List.mapM_cons, first, rest]
      rfl

theorem mapM_eq_error {f : α → Except ε β} {item : α} {error : ε} (member : item ∈ items)
    (failed : f item = .error error) : ∃ other, items.mapM f = .error other := by
  induction items with
  | nil => cases member
  | cons first items ih =>
    rw [List.mapM_cons]
    cases here : f first with
    | error other => exact ⟨other, rfl⟩
    | ok result =>
      rcases List.mem_cons.mp member with same | later
      · cases same
        cases here.symm.trans failed
      · obtain ⟨other, rest⟩ := ih later
        rw [rest]
        exact ⟨other, rfl⟩

/-- Items handed out side by side end as they do one after the other, when each result is what
`f` makes of its item and each failure is one of `f`. -/
theorem agrees_mapM {f : α → Except ε β} {result : Except ε (List β)}
    (collects : ∀ results, result = .ok results → results.length = items.length ∧
      ∀ (i : ℕ) (item : α) (here : β), items[i]? = some item → results[i]? = some here →
        f item = .ok here)
    (fails : ∀ error, result = .error error → ∃ item ∈ items, f item = .error error)
    (results : List β) : result = .ok results ↔ items.mapM f = .ok results := by
  have forward : ∀ results, result = .ok results → items.mapM f = .ok results :=
    fun results same => mapM_eq_ok (collects results same).1 (collects results same).2
  refine ⟨forward results, fun plain => ?_⟩
  cases result with
  | ok other => exact congrArg Except.ok (Except.ok.inj ((forward other rfl).symm.trans plain))
  | error error =>
    obtain ⟨item, member, failed⟩ := fails error rfl
    obtain ⟨other, failed'⟩ := mapM_eq_error member failed
    cases plain.symm.trans failed'

/-! ## Counting -/

/-- The moves a worker has still to make, at most. -/
def Phase.left : Phase → ℕ
  | .unstarted => 3
  | .waiting => 2
  | .calling => 1
  | .ended => 0

def Phase.running : Phase → ℕ
  | .unstarted | .ended => 0
  | .waiting | .calling => 1

/-- A count over the workers. -/
def total (n : ℕ) (fan : Fan α β ε) (f : Phase → ℕ) : ℕ := ∑ i ∈ Finset.range n, f (fan.phase i)

variable {n : ℕ} {f : Phase → ℕ}

/-- A count, when one worker moves. -/
theorem total_enter (inside : i < n) :
    total n (fan.enter i phase) f + f (fan.phase i) = total n fan f + f phase := by
  have member : i ∈ Finset.range n := Finset.mem_range.mpr inside
  have others : ∑ j ∈ (Finset.range n).erase i, f ((fan.enter i phase).phase j) =
      ∑ j ∈ (Finset.range n).erase i, f (fan.phase j) := by
    refine Finset.sum_congr rfl fun j apart => ?_
    rw [enter_phase_of_ne (Finset.ne_of_mem_erase apart)]
  unfold total
  rw [← Finset.add_sum_erase _ _ member, ← Finset.add_sum_erase _ (fun j => f (fan.phase j)) member,
    others, enter_phase_self]
  omega

theorem total_initial : total n (initial items : Fan α β ε) f = n * f .unstarted := by
  refine (Finset.sum_const_nat (m := f .unstarted) fun _ _ => rfl).trans ?_
  rw [Finset.card_range]

/-- Every move brings the end nearer. -/
theorem Kept.left_lt (kept : Kept items moves fan)
    (stepped : FanOut.step items fan move = some fan') :
    total items.length fan' Phase.left + 1 ≤ total items.length fan Phase.left := by
  have enters : ∀ i phase, i < items.length → phase.left + 1 ≤ (fan.phase i).left →
      total items.length (fan.enter i phase) Phase.left + 1 ≤
        total items.length fan Phase.left := by
    intro i phase inside nearer
    have moved : total items.length (fan.enter i phase) Phase.left + _ = _ := total_enter inside
    omega
  cases moves_of_step stepped with
  | started more => exact enters _ _ more (by rw [kept.unstarted]; exact Nat.le_refl 3)
  | called here own =>
    exact enters _ _ (kept.inside (by simp [here])) (by rw [here]; exact Nat.le_refl 2)
  | failed here =>
    rcases here with here | here
    · exact enters _ _ (kept.inside (by simp [here])) (by rw [here]; exact Nat.le_succ 1)
    · exact enters _ _ (kept.inside (by simp [here])) (by rw [here]; exact Nat.le_refl 1)
  | stored here =>
    exact enters _ _ (kept.inside (by simp [here])) (by rw [here]; exact Nat.le_refl 1)

/-- The workers that run after a move. -/
def Move.ran (running : ℕ) : Move β ε → ℕ
  | .start => running + 1
  | .call _ => running
  | .fail _ _ | .store _ _ => running - 1

theorem Kept.running_of_step (kept : Kept items moves fan)
    (stepped : FanOut.step items fan move = some fan') :
    total items.length fan' Phase.running = move.ran (total items.length fan Phase.running) := by
  have enters : ∀ i phase, i < items.length →
      total items.length (fan.enter i phase) Phase.running + (fan.phase i).running =
        total items.length fan Phase.running + phase.running := fun _ _ => total_enter
  cases moves_of_step stepped with
  | started more =>
    have moved := enters fan.next .waiting more
    rw [kept.unstarted] at moved
    exact moved
  | @called i item here own =>
    have moved := enters i .calling (kept.inside (by simp [here]))
    rw [here] at moved
    exact Nat.add_right_cancel moved
  | @failed i error here =>
    have ran : (fan.phase i).running = 1 := by rcases here with here | here <;> rw [here] <;> rfl
    have moved := enters i .ended (kept.inside (by rcases here with here | here <;> simp [here]))
    rw [ran] at moved
    exact Nat.eq_sub_of_add_eq moved
  | @stored i result here =>
    have moved := enters i .ended (kept.inside (by simp [here]))
    rw [here] at moved
    exact Nat.eq_sub_of_add_eq moved

/-- No worker moves once all have ended. -/
theorem Kept.stuck (kept : Kept items moves fan)
    (finished : ∀ i < items.length, fan.phase i = .ended) :
    FanOut.step items fan move ≠ some fan' := by
  intro moved
  have absurd_ : ∀ {i phase}, fan.phase i = phase → phase ≠ .unstarted → phase ≠ .ended → False :=
    fun here started apart =>
      apart (here.symm.trans (finished _ (kept.inside fun idle => started (here.symm.trans idle))))
  cases moves_of_step moved with
  | started more => cases kept.unstarted.symm.trans (finished _ more)
  | called here own => exact absurd_ here (by simp) (by simp)
  | failed here =>
    rcases here with here | here
    · exact absurd_ here (by simp) (by simp)
    · exact absurd_ here (by simp) (by simp)
  | stored here => exact absurd_ here (by simp) (by simp)

/-- A fan in which no worker runs has begun or is over. -/
theorem Kept.idle (kept : Kept items moves fan)
    (idle : ∀ i, fan.phase i ≠ .waiting ∧ fan.phase i ≠ .calling) :
    total items.length fan Phase.running = 0 ∧
      ∀ i < fan.next, fan.phase i = .ended := by
  refine ⟨Finset.sum_eq_zero fun i _ => ?_, fun i started => ?_⟩
  · cases here : fan.phase i with
    | unstarted => rfl
    | ended => rfl
    | waiting => exact absurd here (idle i).1
    | calling => exact absurd here (idle i).2
  · cases here : fan.phase i with
    | unstarted => exact absurd here ((kept.started i).mpr started)
    | ended => rfl
    | waiting => exact absurd here (idle i).1
    | calling => exact absurd here (idle i).2

/-! ## The system around a fan -/

/-- How the events of a system reach the workers of its fan. -/
structure Wiring (E β ε : Type) where
  /-- What an event makes a worker do, if anything. -/
  moveOf : E → Option (Move β ε)
  /-- The call of a worker ends. -/
  answer : ℕ → Except ε β → E
  /-- A worker that waits is sent away with `reason`. -/
  cut : ℕ → E
  reason : ε
  /-- The system is told to stop. -/
  stop : E
  stores : ∀ e i result, moveOf e = some (.store i result) → e = answer i (.ok result)
  fails : ∀ e i error, moveOf e = some (.fail i error) →
    e = answer i (.error error) ∨ (e = cut i ∧ error = reason)

namespace Wiring

variable {E : Type}

/-- The moves among the events. -/
def trace (wiring : Wiring E β ε) (events : List E) : List (Move β ε) :=
  events.filterMap wiring.moveOf

/-- The error that a worker ends with in an event. -/
def failure (wiring : Wiring E β ε) (e : E) : Option ε := (wiring.moveOf e).bind Move.failure

/-- What an event makes of the fan. -/
def Advances (wiring : Wiring E β ε) (items : List α) (fan : Fan α β ε) (e : E)
    (fan' : Fan α β ε) : Prop :=
  match wiring.moveOf e with
  | some move => step items fan move = some fan'
  | none => fan' = fan

/-- A count of the system's own falls by the events that move no worker. -/
def Falls (wiring : Wiring E β ε) (e : E) (rest rest' : ℕ) : Prop :=
  match wiring.moveOf e with
  | some _ => rest' = rest
  | none => rest' < rest

/-- Every item was called with once, and the results are what the calls ended with, in the order
of the items. -/
structure Collected (wiring : Wiring E β ε) (items : List α) (events : List E)
    (calls : List (α × ℕ)) (results : List β) : Prop where
  fine : ∀ e ∈ events, wiring.failure e = none
  calls : calls.Perm items.zipIdx
  length : results.length = items.length
  own : ∀ i (inside : i < results.length), wiring.answer i (.ok results[i]) ∈ events

/-- The error is the first one that a worker ended with: that of its call, or the reason for
which a stopped system has sent it away. -/
def FirstFailure (wiring : Wiring E β ε) (events : List E) (error : ε) : Prop :=
  ∃ before e after, events = before ++ e :: after ∧ (∀ x ∈ before, wiring.failure x = none) ∧
    wiring.failure e = some error ∧
    ((∃ i, e = wiring.answer i (.error error)) ∨
      ((∃ i, e = wiring.cut i) ∧ error = wiring.reason ∧ wiring.stop ∈ before))

/-- No worker is sent away before the system is stopped or a worker has failed. -/
def Caused (wiring : Wiring E β ε) (events : List E) : Prop :=
  ∀ before i after, events = before ++ wiring.cut i :: after →
    wiring.stop ∈ before ∨ (before.findSome? wiring.failure).isSome

variable {wiring : Wiring E β ε} {events : List E} {e : E}

theorem findSome?_trace :
    (wiring.trace events).findSome? Move.failure = events.findSome? wiring.failure := by
  induction events with
  | nil => rfl
  | cons e events ih =>
    rw [trace, List.filterMap_cons, List.findSome?_cons, failure]
    cases moved : wiring.moveOf e with
    | none => exact ih
    | some move =>
      rw [List.findSome?_cons, ← ih]
      rfl

theorem trace_append :
    wiring.trace (events ++ [e]) = wiring.trace events ++ (wiring.moveOf e).toList := by
  rw [trace, List.filterMap_append, List.filterMap_cons]
  cases wiring.moveOf e <;> rfl

theorem kept_append (kept : Kept items (wiring.trace events) fan)
    (advanced : wiring.Advances items fan e fan') :
    Kept items (wiring.trace (events ++ [e])) fan' := by
  rw [trace_append]
  unfold Advances at advanced
  cases moved : wiring.moveOf e with
  | some move =>
    rw [moved] at advanced
    exact kept.step advanced
  | none =>
    rw [moved] at advanced
    subst advanced
    rwa [Option.toList_none, List.append_nil]

theorem spent_initial {rest : ℕ} :
    ([] : List E).length + (total items.length (initial items : Fan α β ε) Phase.left + rest) ≤
      3 * items.length + rest := by
  have all : total items.length (initial items : Fan α β ε) Phase.left = items.length * 3 :=
    total_initial
  rw [all, List.length_nil]
  omega

/-- A bound on the events, by the moves still to come and the system's own count. -/
theorem spent_append {rest rest' bound : ℕ} (kept : Kept items (wiring.trace events) fan)
    (advanced : wiring.Advances items fan e fan') (falls : wiring.Falls e rest rest')
    (spent : events.length + (total items.length fan Phase.left + rest) ≤ bound) :
    (events ++ [e]).length + (total items.length fan' Phase.left + rest') ≤ bound := by
  unfold Advances at advanced
  unfold Falls at falls
  rw [List.length_append, List.length_singleton]
  cases moved : wiring.moveOf e with
  | some move =>
    rw [moved] at advanced falls
    have nearer := kept.left_lt advanced
    omega
  | none =>
    rw [moved] at advanced falls
    subst advanced
    omega

theorem caused_append (caused : wiring.Caused events)
    (now : ∀ i, e = wiring.cut i →
      wiring.stop ∈ events ∨ (events.findSome? wiring.failure).isSome) :
    wiring.Caused (events ++ [e]) := by
  intro before i after split
  rcases Transition.split_append_singleton split with ⟨-, rfl, same⟩ | ⟨rest, -, earlier⟩
  · exact now i same.symm
  · exact caused before i rest earlier

theorem exists_collected (kept : Kept items (wiring.trace events) fan) (fine : fan.failed = none)
    (finished : ∀ i < items.length, fan.phase i = .ended) :
    ∃ results, fan.slots = results.map some ∧
      wiring.Collected items events fan.calls results := by
  obtain ⟨results, collected⟩ := kept.collected fine finished
  refine ⟨results, collected.slots, ?_, collected.calls, collected.length, fun i inside => ?_⟩
  · rw [kept.failed, findSome?_trace] at fine
    exact List.findSome?_eq_none_iff.mp fine
  · obtain ⟨e, member, stored⟩ := List.mem_filterMap.mp (collected.own i inside)
    exact wiring.stores e i _ stored ▸ member

theorem firstFailure {error : ε} (kept : Kept items (wiring.trace events) fan)
    (caused : wiring.Caused events) (failed : fan.failed = some error) :
    wiring.FirstFailure events error := by
  rw [kept.failed, findSome?_trace] at failed
  obtain ⟨before, e, after, split, here, fine⟩ := List.findSome?_eq_some_iff.mp failed
  refine ⟨before, e, after, split, fine, here, ?_⟩
  obtain ⟨move, moved, fails⟩ := Option.bind_eq_some_iff.mp here
  cases move with
  | start => cases fails
  | call i => cases fails
  | store i result => cases fails
  | fail i other =>
    cases fails
    rcases wiring.fails e i error moved with answered | ⟨rfl, own⟩
    · exact .inl ⟨i, answered⟩
    · refine .inr ⟨⟨i, rfl⟩, own, (caused before i after split).resolve_right ?_⟩
      rw [List.findSome?_eq_none_iff.mpr fine]
      exact Bool.false_ne_true

/-- A system that was not stopped, and whose calls end as `f` makes of the item alone, ends as
doing one item after the other does. -/
theorem agrees (wiring : Wiring E β ε) {f : α → Except ε β} {calls : List (α × ℕ)}
    {result : Except ε (List β)}
    (byItem : ∀ i reply, wiring.answer i reply ∈ events → ∃ item, items[i]? = some item ∧
      reply = f item)
    (waits : wiring.stop ∉ events)
    (collects : ∀ results, result = .ok results → wiring.Collected items events calls results)
    (breaks : ∀ error, result = .error error → wiring.FirstFailure events error) :
    (∀ results, result = .ok results ↔ items.mapM f = .ok results) ∧
      ∀ error, result = .error error → ∃ item ∈ items, f item = .error error := by
  have fails : ∀ error, result = .error error → ∃ item ∈ items, f item = .error error := by
    intro error failed
    obtain ⟨before, e, after, split, -, -, cause⟩ := breaks error failed
    rcases cause with ⟨i, rfl⟩ | ⟨-, -, stopped⟩
    · obtain ⟨item, own, same⟩ := byItem i (.error error) (by simp [split])
      exact ⟨item, List.mem_of_getElem? own, same.symm⟩
    · exact absurd (by simp [split, stopped]) waits
  refine ⟨agrees_mapM (fun results returned => ?_) fails, fails⟩
  have collected := collects results returned
  refine ⟨collected.length, fun i item here own slot => ?_⟩
  obtain ⟨inside, rfl⟩ := List.getElem?_eq_some_iff.mp slot
  obtain ⟨item', own', same⟩ := byItem i _ (collected.own i inside)
  cases own.symm.trans own'
  exact same.symm

end Wiring

end Keychain.FanOut
