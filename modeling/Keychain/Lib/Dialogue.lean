import Mathlib.Logic.Basic
import Mathlib.Data.Nat.Notation
import Mathlib.Tactic.Choose

/-!
Programs that talk to an outside party and may fail.

A `Prog Q A σ ε` sends requests of type `Q`, is handed answers of type `A`,
keeps a state of type `σ` and may stop with an error of type `ε`. The outside
party is a stream `answers : ℕ → A`: the `n`-th request of a run is given
`answers n`, whatever it asks. A program is deterministic, so ranging over all
streams is ranging over all adaptive behaviours of the party.

`Prog.Meets` is the weakest precondition of a run with one postcondition for
each way to end. Its equations (`Prog.meets_bind`, `Prog.meets_ask`, ...) are
the simp set the client modules execute their programs with.
-/

namespace Keychain

variable {Q A σ ε ε' α β : Type}

/-! ## Fallible computations -/

theorem bind_eq_ok {x : Except ε α} {f : α → Except ε β} {b : β} :
    x >>= f = .ok b ↔ ∃ a, x = .ok a ∧ f a = .ok b := by
  cases x with
  | error e => simp [bind, Except.bind]
  | ok a => simp [bind, Except.bind]

theorem bind_eq_error {x : Except ε α} {f : α → Except ε β} {e : ε} :
    x >>= f = .error e ↔ x = .error e ∨ ∃ a, x = .ok a ∧ f a = .error e := by
  cases x with
  | error e => simp [bind, Except.bind]
  | ok a => simp [bind, Except.bind]

@[simp] theorem mapError_ok {a : α} {f : ε → ε'} :
    (Except.ok a : Except ε α).mapError f = .ok a := rfl

@[simp] theorem mapError_error {e : ε} {f : ε → ε'} :
    (Except.error e : Except ε α).mapError f = .error (f e) := rfl

theorem mapError_eq_ok {x : Except ε α} {f : ε → ε'} {a : α} :
    x.mapError f = .ok a ↔ x = .ok a := by
  cases x <;> simp

theorem mapError_eq_error {x : Except ε α} {f : ε → ε'} {e : ε'} :
    x.mapError f = .error e ↔ ∃ e', x = .error e' ∧ f e' = e := by
  cases x <;> simp

/-- The value of an option, or this error. -/
def okOr (o : Option α) (e : ε) : Except ε α :=
  match o with
  | some a => .ok a
  | none => .error e

@[simp] theorem okOr_eq_ok {o : Option α} {e : ε} {a : α} : okOr o e = .ok a ↔ o = some a := by
  cases o <;> simp [okOr]

/-- Go on when `p` holds, else stop with this error. -/
def require (p : Prop) [Decidable p] (e : ε) : Except ε Unit :=
  if p then .ok () else .error e

@[simp] theorem require_eq_ok {p : Prop} [Decidable p] {e : ε} {u : Unit} :
    require p e = .ok u ↔ p := by
  by_cases h : p <;> simp [require, h]

theorem require_eq_error {p : Prop} [Decidable p] {e e' : ε} :
    require p e = .error e' ↔ ¬ p ∧ e = e' := by
  by_cases h : p <;> simp [require, h]

/-- No error of the computation satisfies `P`. -/
def Spares (P : ε → Prop) (x : Except ε α) : Prop := ∀ e, x = .error e → ¬ P e

section

variable {P : ε → Prop}

theorem spares_ok {a : α} : Spares P (.ok a : Except ε α) := by
  intro e failed
  cases failed

theorem spares_error {e : ε} (spared : ¬ P e) : Spares P (.error e : Except ε α) := by
  intro e' failed
  cases failed
  exact spared

theorem Spares.bind {x : Except ε α} {f : α → Except ε β} (first : Spares P x)
    (next : ∀ a, Spares P (f a)) : Spares P (x >>= f) := by
  intro e failed
  rcases bind_eq_error.mp failed with early | ⟨a, -, late⟩
  · exact first e early
  · exact next a e late

theorem spares_mapError {x : Except ε' α} {f : ε' → ε} (spared : ∀ e, ¬ P (f e)) :
    Spares P (x.mapError f) := by
  intro e failed
  rcases mapError_eq_error.mp failed with ⟨e', -, rfl⟩
  exact spared e'

theorem spares_okOr {o : Option α} {e : ε} (spared : ¬ P e) : Spares P (okOr o e) := by
  cases o with
  | none => exact spares_error spared
  | some a => exact spares_ok

theorem spares_require {p : Prop} [Decidable p] {e : ε} (spared : ¬ P e) :
    Spares P (require p e) := by
  intro e' failed
  rcases require_eq_error.mp failed with ⟨-, rfl⟩
  exact spared

end

/-! ## Conversations -/

/-- The program's own state and the record of the conversation so far, oldest
exchange first. -/
structure World (Q A σ : Type) where
  state : σ
  log : List (Q × A)

namespace World

/-- A fresh conversation from the state `s`. -/
def start (s : σ) : World Q A σ := ⟨s, []⟩

/-- The number of requests already sent, the index of the next answer. -/
def asked (w : World Q A σ) : ℕ := w.log.length

/-- The world after the request `q` was given the answer `a`. -/
def heard (w : World Q A σ) (q : Q) (a : A) : World Q A σ :=
  { w with log := w.log ++ [(q, a)] }

@[simp] theorem start_state (s : σ) : (start s : World Q A σ).state = s := rfl

@[simp] theorem start_log (s : σ) : (start s : World Q A σ).log = [] := rfl

@[simp] theorem start_asked (s : σ) : (start s : World Q A σ).asked = 0 := rfl

@[simp] theorem heard_state (w : World Q A σ) (q : Q) (a : A) :
    (w.heard q a).state = w.state := rfl

@[simp] theorem heard_log (w : World Q A σ) (q : Q) (a : A) :
    (w.heard q a).log = w.log ++ [(q, a)] := rfl

@[simp] theorem heard_asked (w : World Q A σ) (q : Q) (a : A) :
    (w.heard q a).asked = w.asked + 1 := by
  simp [asked]

end World

/-- A fallible program with state `σ` that sends requests and reads answers. -/
def Prog (Q A σ ε α : Type) : Type :=
  (ℕ → A) → World Q A σ → Except ε α × World Q A σ

namespace Prog

/-! ## Operations -/

def run (m : Prog Q A σ ε α) (answers : ℕ → A) (w : World Q A σ) :
    Except ε α × World Q A σ :=
  m answers w

instance : Monad (Prog Q A σ ε) where
  pure a := fun _ w => (.ok a, w)
  bind m f := fun answers w =>
    match m answers w with
    | (.ok a, w') => f a answers w'
    | (.error e, w') => (.error e, w')

/-- Stop with the error `e`. -/
def fail (e : ε) : Prog Q A σ ε α := fun _ w => (.error e, w)

/-- Embed a computation that neither asks nor touches the state. -/
def ofExcept (r : Except ε α) : Prog Q A σ ε α := fun _ w => (r, w)

instance : MonadLift (Except ε) (Prog Q A σ ε) := ⟨ofExcept⟩

/-- Send the request `q` and wait for its answer. -/
def ask (q : Q) : Prog Q A σ ε A := fun answers w =>
  (.ok (answers w.asked), w.heard q (answers w.asked))

/-- Rewrite the error a program stops with. -/
def mapError (f : ε → ε') (m : Prog Q A σ ε α) : Prog Q A σ ε' α := fun answers w =>
  match m answers w with
  | (.ok a, w') => (.ok a, w')
  | (.error e, w') => (.error (f e), w')

/-- Run `m` and, when it stops with an error, go on with the handler. -/
def handle (m : Prog Q A σ ε α) (handler : ε → Prog Q A σ ε' α) : Prog Q A σ ε' α :=
  fun answers w =>
    match m answers w with
    | (.ok a, w') => (.ok a, w')
    | (.error e, w') => handler e answers w'

/-- Read the state. -/
def state : Prog Q A σ ε σ := fun _ w => (.ok w.state, w)

/-- How many requests have been answered: the clock of the conversation. -/
def elapsed : Prog Q A σ ε ℕ := fun _ w => (.ok w.asked, w)

/-- Update the state. -/
def modifyState (f : σ → σ) : Prog Q A σ ε Unit := fun _ w =>
  (.ok (), { w with state := f w.state })

/-- Run `m`, then update the state on either way out. -/
def finallyModify (f : σ → σ) (m : Prog Q A σ ε α) : Prog Q A σ ε α := fun answers w =>
  ((m answers w).1, { (m answers w).2 with state := f (m answers w).2.state })

/-- Run a program on the first half of the state. -/
def overFst {τ : Type} (m : Prog Q A σ ε α) : Prog Q A (σ × τ) ε α := fun answers w =>
  let (r, w') := m answers ⟨w.state.1, w.log⟩
  (r, ⟨(w'.state, w.state.2), w'.log⟩)

/-- Run a program on the second half of the state. -/
def overSnd {τ : Type} (m : Prog Q A τ ε α) : Prog Q A (σ × τ) ε α := fun answers w =>
  let (r, w') := m answers ⟨w.state.2, w.log⟩
  (r, ⟨(w.state.1, w'.state), w'.log⟩)

/-! ## Runs -/

section

variable {answers : ℕ → A} {w : World Q A σ}

@[simp] theorem run_pure {a : α} :
    (pure a : Prog Q A σ ε α).run answers w = (.ok a, w) := rfl

@[simp] theorem run_fail {e : ε} :
    (fail e : Prog Q A σ ε α).run answers w = (.error e, w) := rfl

@[simp] theorem run_ofExcept {r : Except ε α} :
    (ofExcept r : Prog Q A σ ε α).run answers w = (r, w) := rfl

@[simp] theorem run_ask {q : Q} :
    (ask q : Prog Q A σ ε A).run answers w =
      (.ok (answers w.asked), w.heard q (answers w.asked)) := rfl

theorem run_bind {m : Prog Q A σ ε β} {f : β → Prog Q A σ ε α} :
    (m >>= f).run answers w =
      match m.run answers w with
      | (.ok b, w') => (f b).run answers w'
      | (.error e, w') => (.error e, w') := rfl

instance : LawfulMonad (Prog Q A σ ε) :=
  LawfulMonad.mk' (Prog Q A σ ε)
    (by
      intro α m
      funext answers w
      change (match m answers w with
        | (.ok a, w') => (.ok a, w')
        | (.error e, w') => (.error e, w')) = m answers w
      rcases m answers w with ⟨e | a, w'⟩ <;> rfl)
    (fun _ _ => rfl)
    (by
      intro α β γ m f g
      funext answers w
      change (m >>= f >>= g).run answers w = (m >>= fun a => f a >>= g).run answers w
      simp only [run_bind]
      rcases m.run answers w with ⟨e | a, w'⟩ <;> rfl)

/-- The result of a program that ends in a pure computation. -/
theorem run_bind_ofExcept_fst {m : Prog Q A σ ε β} {f : β → Except ε α} :
    ((m >>= fun b => ofExcept (f b)).run answers w).1 = (m.run answers w).1 >>= f := by
  rw [run_bind]
  rcases m.run answers w with ⟨e | b, w'⟩ <;> rfl

theorem run_mapError {f : ε' → ε} {m : Prog Q A σ ε' α} :
    (m.mapError f).run answers w =
      ((m.run answers w).1.mapError f, (m.run answers w).2) := by
  simp only [run, mapError]
  rcases m answers w with ⟨a | a, w'⟩ <;> rfl

theorem run_handle {m : Prog Q A σ ε' α} {handler : ε' → Prog Q A σ ε α} :
    (m.handle handler).run answers w =
      match m.run answers w with
      | (.ok a, w') => (.ok a, w')
      | (.error e, w') => (handler e).run answers w' := rfl

@[simp] theorem run_modifyState {f : σ → σ} :
    (modifyState f : Prog Q A σ ε Unit).run answers w =
      (.ok (), { w with state := f w.state }) := rfl

@[simp] theorem run_finallyModify {f : σ → σ} {m : Prog Q A σ ε α} :
    (m.finallyModify f).run answers w =
      ((m.run answers w).1,
        { (m.run answers w).2 with state := f (m.run answers w).2.state }) := rfl

@[simp] theorem ofExcept_ok_bind {b : β} {f : β → Prog Q A σ ε α} :
    (ofExcept (.ok b) >>= f) = f b := rfl

@[simp] theorem run_state : (state : Prog Q A σ ε σ).run answers w = (.ok w.state, w) := rfl

theorem run_overFst {τ : Type} {m : Prog Q A σ ε α} {w : World Q A (σ × τ)} :
    m.overFst.run answers w =
      ((m.run answers ⟨w.state.1, w.log⟩).1,
        ⟨((m.run answers ⟨w.state.1, w.log⟩).2.state, w.state.2),
          (m.run answers ⟨w.state.1, w.log⟩).2.log⟩) := rfl

theorem run_overSnd {τ : Type} {m : Prog Q A τ ε α} {w : World Q A (σ × τ)} :
    m.overSnd.run answers w =
      ((m.run answers ⟨w.state.2, w.log⟩).1,
        ⟨(w.state.1, (m.run answers ⟨w.state.2, w.log⟩).2.state),
          (m.run answers ⟨w.state.2, w.log⟩).2.log⟩) := rfl

end

/-! ## Postconditions -/

/-- From the world `w` the program ends in `done` when it returns and in
`failed` when it stops with an error. -/
def Meets (m : Prog Q A σ ε α) (answers : ℕ → A) (w : World Q A σ)
    (done : α → World Q A σ → Prop) (failed : ε → World Q A σ → Prop) : Prop :=
  match m.run answers w with
  | (.ok a, w') => done a w'
  | (.error e, w') => failed e w'

variable {answers : ℕ → A} {w : World Q A σ}
variable {done done' : α → World Q A σ → Prop} {failed failed' : ε → World Q A σ → Prop}

@[simp] theorem meets_pure {a : α} :
    (pure a : Prog Q A σ ε α).Meets answers w done failed ↔ done a w := Iff.rfl

@[simp] theorem meets_fail {e : ε} :
    (fail e : Prog Q A σ ε α).Meets answers w done failed ↔ failed e w := Iff.rfl

@[simp] theorem meets_bind {m : Prog Q A σ ε β} {f : β → Prog Q A σ ε α} :
    (m >>= f).Meets answers w done failed ↔
      m.Meets answers w (fun b w' => (f b).Meets answers w' done failed) failed := by
  change (match (match m answers w with
      | (.ok a, w') => f a answers w'
      | (.error e, w') => (.error e, w')) with
    | (.ok a, w') => done a w'
    | (.error e, w') => failed e w') ↔ _
  simp only [Meets, run]
  rcases m answers w with ⟨b | b, w'⟩ <;> rfl

@[simp] theorem meets_ofExcept_ok {a : α} :
    (ofExcept (.ok a) : Prog Q A σ ε α).Meets answers w done failed ↔ done a w := Iff.rfl

@[simp] theorem meets_ofExcept_error {e : ε} :
    (ofExcept (.error e) : Prog Q A σ ε α).Meets answers w done failed ↔ failed e w := Iff.rfl

theorem meets_ofExcept {r : Except ε α} :
    (ofExcept r : Prog Q A σ ε α).Meets answers w done failed ↔
      (∀ a, r = .ok a → done a w) ∧ (∀ e, r = .error e → failed e w) := by
  cases r <;> simp

@[simp] theorem meets_ask {q : Q} {done : A → World Q A σ → Prop} :
    (ask q : Prog Q A σ ε A).Meets answers w done failed ↔
      done (answers w.asked) (w.heard q (answers w.asked)) := Iff.rfl

@[simp] theorem meets_state {done : σ → World Q A σ → Prop} :
    (state : Prog Q A σ ε σ).Meets answers w done failed ↔ done w.state w := Iff.rfl

@[simp] theorem meets_modifyState {f : σ → σ} {done : Unit → World Q A σ → Prop} :
    (modifyState f : Prog Q A σ ε Unit).Meets answers w done failed ↔
      done () { w with state := f w.state } := Iff.rfl

theorem meets_mapError {f : ε' → ε} {m : Prog Q A σ ε' α} :
    (m.mapError f).Meets answers w done failed ↔
      m.Meets answers w done (fun e => failed (f e)) := by
  unfold Meets
  rw [run_mapError]
  rcases m.run answers w with ⟨e | a, w'⟩ <;> rfl

/-- Weaken both postconditions. -/
theorem Meets.mono {m : Prog Q A σ ε α} (h : m.Meets answers w done failed)
    (ofDone : ∀ a w', done a w' → done' a w')
    (ofFailed : ∀ e w', failed e w' → failed' e w') :
    m.Meets answers w done' failed' := by
  unfold Meets at h ⊢
  split at h
  · exact ofDone _ _ h
  · exact ofFailed _ _ h

/-- A postcondition speaks about the outcome of the run. -/
theorem Meets.of_run_ok {m : Prog Q A σ ε α} (h : m.Meets answers w done failed)
    {a : α} {w' : World Q A σ} (ran : m.run answers w = (.ok a, w')) : done a w' := by
  simpa [Meets, ran] using h

theorem Meets.of_run_error {m : Prog Q A σ ε α} (h : m.Meets answers w done failed)
    {e : ε} {w' : World Q A σ} (ran : m.run answers w = (.error e, w')) : failed e w' := by
  simpa [Meets, ran] using h

/-- A postcondition on either outcome is one on the run. -/
theorem Meets.of_both {m : Prog Q A σ ε α} {P : Except ε α → World Q A σ → Prop}
    (h : m.Meets answers w (fun a => P (.ok a)) (fun e => P (.error e))) :
    P (m.run answers w).1 (m.run answers w).2 := by
  unfold Meets at h
  split at h
  · next ran => rwa [ran]
  · next ran => rwa [ran]

/-- A run satisfies its postconditions as soon as both outcomes do. -/
theorem meets_of_run {m : Prog Q A σ ε α}
    (ofOk : ∀ a w', m.run answers w = (.ok a, w') → done a w')
    (ofError : ∀ e w', m.run answers w = (.error e, w') → failed e w') :
    m.Meets answers w done failed := by
  unfold Meets
  split
  · next ran => exact ofOk _ _ ran
  · next ran => exact ofError _ _ ran

/-! ## What a program asks -/

/-- Every request the program sends satisfies `R`, and the record of earlier
exchanges is kept. -/
def Asks (R : Q → Prop) (m : Prog Q A σ ε α) : Prop :=
  ∀ answers w, ∃ rest, (m.run answers w).2.log = w.log ++ rest ∧ ∀ x ∈ rest, R x.1

section

variable {R : Q → Prop}

theorem Asks.of_run_log {m : Prog Q A σ ε α}
    (same : ∀ answers w, (m.run answers w).2.log = w.log) : m.Asks R := by
  intro answers w
  exact ⟨[], by simp [same], by simp⟩

theorem asks_pure {a : α} : (pure a : Prog Q A σ ε α).Asks R := .of_run_log fun _ _ => rfl

theorem asks_fail {e : ε} : (fail e : Prog Q A σ ε α).Asks R := .of_run_log fun _ _ => rfl

theorem asks_ofExcept {r : Except ε α} : (ofExcept r : Prog Q A σ ε α).Asks R :=
  .of_run_log fun _ _ => rfl

theorem asks_state : (state : Prog Q A σ ε σ).Asks R := .of_run_log fun _ _ => rfl

theorem asks_elapsed : (elapsed : Prog Q A σ ε ℕ).Asks R := .of_run_log fun _ _ => rfl

theorem asks_modifyState {f : σ → σ} : (modifyState f : Prog Q A σ ε Unit).Asks R :=
  .of_run_log fun _ _ => rfl

theorem asks_ask {q : Q} (allowed : R q) : (ask q : Prog Q A σ ε A).Asks R := by
  intro answers w
  exact ⟨[(q, answers w.asked)], rfl, by simpa using allowed⟩

theorem Asks.bind {m : Prog Q A σ ε β} {f : β → Prog Q A σ ε α} (first : m.Asks R)
    (next : ∀ b, (f b).Asks R) : (m >>= f).Asks R := by
  intro answers w
  obtain ⟨rest, log, allowed⟩ := first answers w
  rw [run_bind]
  rcases ran : m.run answers w with ⟨e | b, w'⟩
  · rw [ran] at log
    exact ⟨rest, log, allowed⟩
  · rw [ran] at log
    obtain ⟨rest', log', allowed'⟩ := next b answers w'
    refine ⟨rest ++ rest', ?_, ?_⟩
    · rw [log', log, List.append_assoc]
    · intro x member
      rcases List.mem_append.mp member with early | late
      · exact allowed x early
      · exact allowed' x late

/-- A computed value is known to the rest of the program. -/
theorem asks_ofExcept_bind {r : Except ε β} {f : β → Prog Q A σ ε α}
    (next : ∀ b, r = .ok b → (f b).Asks R) : (ofExcept r >>= f).Asks R := by
  cases r with
  | error e => exact .of_run_log fun _ _ => rfl
  | ok b => exact next b rfl

theorem Asks.mapError {f : ε → ε'} {m : Prog Q A σ ε α} (asks : m.Asks R) :
    (m.mapError f).Asks R := by
  intro answers w
  rw [run_mapError]
  exact asks answers w

theorem Asks.finallyModify {f : σ → σ} {m : Prog Q A σ ε α} (asks : m.Asks R) :
    (m.finallyModify f).Asks R := asks

/-- What is on record after a run was there before, or is one of its requests. -/
theorem Asks.mem_log {m : Prog Q A σ ε α} (asks : m.Asks R) {x : Q × A}
    (member : x ∈ (m.run answers w).2.log) : x ∈ w.log ∨ R x.1 := by
  obtain ⟨rest, log, allowed⟩ := asks answers w
  rw [log] at member
  exact (List.mem_append.mp member).imp_right (allowed x)

theorem Asks.meets {m : Prog Q A σ ε α} (asks : m.Asks R) :
    m.Meets answers w (fun _ w' => ∀ x ∈ w'.log, x ∈ w.log ∨ R x.1)
      (fun _ w' => ∀ x ∈ w'.log, x ∈ w.log ∨ R x.1) := by
  refine meets_of_run ?_ ?_
  · intro a w' ran x member
    exact asks.mem_log (by rwa [ran])
  · intro e w' ran x member
    exact asks.mem_log (by rwa [ran])

end

/-! ## Programs that leave the state alone -/

/-- The program leaves the state as it found it, however it ends. -/
def Keeps (m : Prog Q A σ ε α) : Prop :=
  ∀ answers w, (m.run answers w).2.state = w.state

section

variable {answers : ℕ → A} {w : World Q A σ}

theorem keeps_pure {a : α} : (pure a : Prog Q A σ ε α).Keeps := fun _ _ => rfl

theorem keeps_fail {e : ε} : (fail e : Prog Q A σ ε α).Keeps := fun _ _ => rfl

theorem keeps_ofExcept {r : Except ε α} : (ofExcept r : Prog Q A σ ε α).Keeps := fun _ _ => rfl

theorem keeps_elapsed : (elapsed : Prog Q A σ ε ℕ).Keeps := fun _ _ => rfl

theorem keeps_ask {q : Q} : (ask q : Prog Q A σ ε A).Keeps := fun _ _ => rfl

theorem Keeps.bind {m : Prog Q A σ ε β} {f : β → Prog Q A σ ε α} (first : m.Keeps)
    (next : ∀ b, (f b).Keeps) : (m >>= f).Keeps := by
  intro answers w
  have kept := first answers w
  rw [run_bind]
  rcases ran : m.run answers w with ⟨e | b, w'⟩
  · simpa [ran] using kept
  · have keptNext := next b answers w'
    simpa [ran, keptNext] using kept

theorem Keeps.mapError {f : ε → ε'} {m : Prog Q A σ ε α} (keeps : m.Keeps) :
    (m.mapError f).Keeps := by
  intro answers w
  rw [run_mapError]
  exact keeps answers w

theorem Keeps.meets {m : Prog Q A σ ε α} (keeps : m.Keeps) :
    m.Meets answers w (fun _ w' => w'.state = w.state) (fun _ w' => w'.state = w.state) := by
  have kept := keeps answers w
  refine meets_of_run ?_ ?_
  · intro a w' ran
    rwa [ran] at kept
  · intro e w' ran
    rwa [ran] at kept

end

/-- Every value the program returns satisfies `P`. -/
def Yields (P : α → Prop) (m : Prog Q A σ ε α) : Prop :=
  ∀ answers w, m.Meets answers w (fun a _ => P a) (fun _ _ => True)

section

variable {P : α → Prop}

theorem yields_ofExcept {r : Except ε α} (ofOk : ∀ a, r = .ok a → P a) :
    (ofExcept r : Prog Q A σ ε α).Yields P :=
  fun _ _ => meets_ofExcept.mpr ⟨ofOk, fun _ _ => trivial⟩

/-- The last step decides what is returned. -/
theorem yields_bind {m : Prog Q A σ ε β} {f : β → Prog Q A σ ε α}
    (next : ∀ b, (f b).Yields P) : (m >>= f).Yields P := by
  intro answers w
  rw [meets_bind]
  exact meets_of_run (fun b w' _ => next b answers w') fun _ _ _ => trivial

end

/-! ## Programs that only talk -/

/-- The program neither touches the state nor looks at the record: all it does
is a function of the answers still to come. -/
def Oblivious (m : Prog Q A σ ε α) : Prop :=
  ∃ view : (ℕ → A) → Except ε α × List (Q × A), ∀ answers w,
    m.run answers w = ((view fun i => answers (w.asked + i)).1,
      { w with log := w.log ++ (view fun i => answers (w.asked + i)).2 })

section

theorem oblivious_pure {a : α} : (pure a : Prog Q A σ ε α).Oblivious :=
  ⟨fun _ => (.ok a, []), by simp⟩

theorem oblivious_fail {e : ε} : (fail e : Prog Q A σ ε α).Oblivious :=
  ⟨fun _ => (.error e, []), by simp⟩

theorem oblivious_ofExcept {r : Except ε α} : (ofExcept r : Prog Q A σ ε α).Oblivious :=
  ⟨fun _ => (r, []), by simp⟩

theorem Oblivious.bind {m : Prog Q A σ ε β} {f : β → Prog Q A σ ε α} (first : m.Oblivious)
    (next : ∀ b, (f b).Oblivious) : (m >>= f).Oblivious := by
  obtain ⟨view, runs⟩ := first
  choose views runsNext using next
  refine ⟨fun answers =>
    match (view answers).1 with
    | .error e => (.error e, (view answers).2)
    | .ok b =>
      ((views b fun i => answers ((view answers).2.length + i)).1,
        (view answers).2 ++ (views b fun i => answers ((view answers).2.length + i)).2), ?_⟩
  intro answers w
  rw [run_bind, runs]
  cases outcome : (view fun i => answers (w.asked + i)).1 with
  | error e => simp [outcome]
  | ok b =>
    simp only [World.asked] at outcome
    simp [runsNext, World.asked, Nat.add_assoc, outcome]

/-- The result of an oblivious program is that of a fresh conversation on the
answers still to come. -/
theorem Oblivious.fst_eq {m : Prog Q A σ ε α} (oblivious : m.Oblivious) {answers : ℕ → A}
    {w : World Q A σ} (s : σ) :
    (m.run answers w).1 = (m.run (fun i => answers (w.asked + i)) (.start s)).1 := by
  obtain ⟨view, runs⟩ := oblivious
  simp [runs]

theorem Oblivious.keeps {m : Prog Q A σ ε α} (oblivious : m.Oblivious) : m.Keeps := by
  obtain ⟨view, runs⟩ := oblivious
  intro answers w
  simp [runs]

end

/-! ## Programs that do not look back -/

/-- The program does not look at the record: all it does is a function of its
state and of the answers still to come. -/
def Blind (m : Prog Q A σ ε α) : Prop :=
  ∃ view : σ → (ℕ → A) → Except ε α × World Q A σ, ∀ answers w,
    m.run answers w = ((view w.state fun i => answers (w.asked + i)).1,
      ⟨(view w.state fun i => answers (w.asked + i)).2.state,
        w.log ++ (view w.state fun i => answers (w.asked + i)).2.log⟩)

section

theorem blind_pure {a : α} : (pure a : Prog Q A σ ε α).Blind :=
  ⟨fun s _ => (.ok a, .start s), by simp⟩

theorem blind_fail {e : ε} : (fail e : Prog Q A σ ε α).Blind :=
  ⟨fun s _ => (.error e, .start s), by simp⟩

theorem blind_ofExcept {r : Except ε α} : (ofExcept r : Prog Q A σ ε α).Blind :=
  ⟨fun s _ => (r, .start s), by simp⟩

theorem blind_state : (state : Prog Q A σ ε σ).Blind :=
  ⟨fun s _ => (.ok s, .start s), by simp⟩

theorem blind_modifyState {f : σ → σ} : (modifyState f : Prog Q A σ ε Unit).Blind :=
  ⟨fun s _ => (.ok (), .start (f s)), by simp⟩

theorem blind_ask {q : Q} : (ask q : Prog Q A σ ε A).Blind :=
  ⟨fun s answers => (.ok (answers 0), (World.start s).heard q (answers 0)), fun _ _ => rfl⟩

theorem Blind.bind {m : Prog Q A σ ε β} {f : β → Prog Q A σ ε α} (first : m.Blind)
    (next : ∀ b, (f b).Blind) : (m >>= f).Blind := by
  obtain ⟨view, runs⟩ := first
  choose views runsNext using next
  refine ⟨fun s answers =>
    match (view s answers).1 with
    | .error e => (.error e, (view s answers).2)
    | .ok b =>
      let rest := views b (view s answers).2.state
        fun i => answers ((view s answers).2.log.length + i)
      (rest.1, ⟨rest.2.state, (view s answers).2.log ++ rest.2.log⟩), ?_⟩
  intro answers w
  rw [run_bind, runs]
  cases outcome : (view w.state fun i => answers (w.asked + i)).1 with
  | error e => simp [outcome]
  | ok b =>
    simp only [World.asked] at outcome
    simp [runsNext, World.asked, Nat.add_assoc, outcome]

theorem Blind.mapError {f : ε → ε'} {m : Prog Q A σ ε α} (blind : m.Blind) :
    (m.mapError f).Blind := by
  obtain ⟨view, runs⟩ := blind
  refine ⟨fun s answers => ((view s answers).1.mapError f, (view s answers).2), ?_⟩
  intro answers w
  rw [run_mapError, runs]

/-- The result of a blind program is that of a fresh conversation from the same
state on the answers still to come. -/
theorem Blind.fst_eq {m : Prog Q A σ ε α} (blind : m.Blind) {answers : ℕ → A}
    {w : World Q A σ} :
    (m.run answers w).1 = (m.run (fun i => answers (w.asked + i)) (.start w.state)).1 := by
  obtain ⟨view, runs⟩ := blind
  simp [runs]

end

/-! ## Errors that cannot occur -/

/-- No error the program stops with satisfies `P`. -/
def Avoids (P : ε → Prop) (m : Prog Q A σ ε α) : Prop :=
  ∀ answers w, Spares P (m.run answers w).1

section

variable {P : ε → Prop}

theorem avoids_pure {a : α} : (pure a : Prog Q A σ ε α).Avoids P := fun _ _ => spares_ok

theorem avoids_ofExcept {x : Except ε α} (spares : Spares P x) :
    (ofExcept x : Prog Q A σ ε α).Avoids P := fun _ _ => spares

theorem avoids_state : (state : Prog Q A σ ε σ).Avoids P := fun _ _ => spares_ok

theorem avoids_modifyState {f : σ → σ} : (modifyState f : Prog Q A σ ε Unit).Avoids P :=
  fun _ _ => spares_ok

theorem Avoids.bind {m : Prog Q A σ ε β} {f : β → Prog Q A σ ε α} (first : m.Avoids P)
    (next : ∀ b, (f b).Avoids P) : (m >>= f).Avoids P := by
  intro answers w
  rw [run_bind]
  have early := first answers w
  rcases ran : m.run answers w with ⟨e | b, w'⟩
  · rw [ran] at early
    intro e' failed
    cases failed
    exact early e rfl
  · exact next b answers w'

/-- What follows and avoids `P` neither adds such an error nor hides one. -/
theorem run_bind_eq_error_iff {m : Prog Q A σ ε β} {f : β → Prog Q A σ ε α}
    (next : ∀ b, (f b).Avoids P) {answers : ℕ → A} {w w' : World Q A σ} {e : ε} (bad : P e) :
    (m >>= f).run answers w = (.error e, w') ↔ m.run answers w = (.error e, w') := by
  rw [run_bind]
  rcases m.run answers w with ⟨e' | b, w''⟩
  · simp
  · refine iff_of_false (fun failed => ?_) (by simp)
    have late : ((f b).run answers w'').1 = .error e := congrArg Prod.fst failed
    exact next b answers w'' e late bad

end

/-! ## Bounded retry -/

/-- Repeat `attempt` until it settles, at most `n` times. -/
def retry (timeout : ε) (attempt : Prog Q A σ ε (Option β)) : ℕ → Prog Q A σ ε β
  | 0 => fail timeout
  | n + 1 => do
    match ← attempt with
    | some b => pure b
    | none => retry timeout attempt n

theorem Keeps.retry {timeout : ε} {attempt : Prog Q A σ ε (Option β)} (keeps : attempt.Keeps)
    (n : ℕ) : (retry timeout attempt n).Keeps := by
  induction n with
  | zero => exact keeps_fail
  | succ n ih =>
    refine keeps.bind fun r => ?_
    cases r with
    | some b => exact keeps_pure
    | none => exact ih

theorem Asks.retry {R : Q → Prop} {timeout : ε} {attempt : Prog Q A σ ε (Option β)}
    (asks : attempt.Asks R) (n : ℕ) : (retry timeout attempt n).Asks R := by
  induction n with
  | zero => exact asks_fail
  | succ n ih =>
    refine asks.bind fun r => ?_
    cases r with
    | some b => exact asks_pure
    | none => exact ih

theorem Oblivious.retry {timeout : ε} {attempt : Prog Q A σ ε (Option β)}
    (oblivious : attempt.Oblivious) (n : ℕ) : (retry timeout attempt n).Oblivious := by
  induction n with
  | zero => exact oblivious_fail
  | succ n ih =>
    refine oblivious.bind fun r => ?_
    cases r with
    | some b => exact oblivious_pure
    | none => exact ih

/-- The rule for bounded retry: what an undecided attempt keeps carries to the
next one. -/
theorem meets_retry {I : World Q A σ → Prop} {timeout : ε} {attempt : Prog Q A σ ε (Option β)}
    {done : β → World Q A σ → Prop} {failed : ε → World Q A σ → Prop}
    (step : ∀ w, I w → attempt.Meets answers w
      (fun r w' => (∀ b, r = some b → done b w') ∧ (r = none → I w')) failed)
    (expired : ∀ w, I w → failed timeout w) (n : ℕ) {w : World Q A σ} (holds : I w) :
    (retry timeout attempt n).Meets answers w done failed := by
  induction n generalizing w with
  | zero => exact expired w holds
  | succ n ih =>
    rw [retry, meets_bind]
    refine (step w holds).mono ?_ fun _ _ failed => failed
    intro r w' decided
    cases r with
    | some b => exact decided.1 b rfl
    | none => exact ih (decided.2 rfl)

/-- The attempt sends one request and judges the answer. -/
def Consults (m : Prog Q A σ ε α) (q : Q) (judge : A → Except ε α) : Prop :=
  ∀ answers w, m.run answers w = (judge (answers w.asked), w.heard q (answers w.asked))

/-- What the first settling answer of a stream says, within `n` answers. -/
def settle (timeout : ε) (judge : A → Except ε (Option β)) (answers : ℕ → A) :
    ℕ → Except ε β
  | 0 => .error timeout
  | n + 1 =>
    match judge (answers 0) with
    | .error e => .error e
    | .ok (some b) => .ok b
    | .ok none => settle timeout judge (fun i => answers (i + 1)) n

/-- A retried consultation returns what the stream of answers settles on. -/
theorem Consults.retry_fst {timeout : ε} {attempt : Prog Q A σ ε (Option β)} {q : Q}
    {judge : A → Except ε (Option β)} (consults : attempt.Consults q judge) (n : ℕ) :
    ((retry timeout attempt n).run answers w).1 =
      settle timeout judge (fun i => answers (w.asked + i)) n := by
  induction n generalizing w with
  | zero => rfl
  | succ n ih =>
    have first := consults answers w
    simp only [run] at first ih ⊢
    simp only [retry, bind, settle, first, Nat.add_zero]
    cases judge (answers w.asked) with
    | error e => rfl
    | ok r =>
      cases r with
      | some b => rfl
      | none =>
        have rest := ih (w := w.heard q (answers w.asked))
        simpa [Nat.add_assoc, Nat.add_comm 1] using rest

/-- The attempt forms its request by the moment, sends it and judges the answer. -/
def ConsultsAt (m : Prog Q A σ ε α) (form : ℕ → Except ε Q) (judge : A → Except ε α) : Prop :=
  ∀ answers w, m.run answers w =
    match form w.asked with
    | .error e => (.error e, w)
    | .ok q => (judge (answers w.asked), w.heard q (answers w.asked))

/-- The program computes from the moment alone. -/
def Reckons (m : Prog Q A σ ε α) (value : ℕ → Except ε α) : Prop :=
  ∀ answers w, m.run answers w = (value w.asked, w)

theorem reckons_ofExcept {x : Except ε α} :
    (ofExcept x : Prog Q A σ ε α).Reckons fun _ => x := fun _ _ => rfl

/-- What is computed first becomes part of the request. -/
theorem Reckons.consultsAt_bind {m : Prog Q A σ ε β} {value : ℕ → Except ε β}
    {f : β → Prog Q A σ ε α} {form : β → ℕ → Except ε Q} {judge : A → Except ε α}
    (reckons : m.Reckons value) (consults : ∀ b, (f b).ConsultsAt (form b) judge) :
    (m >>= f).ConsultsAt (fun n => value n >>= fun b => form b n) judge := by
  intro answers w
  rw [run_bind, reckons answers w]
  dsimp only
  cases value w.asked with
  | error e => rfl
  | ok b => exact consults b answers w

/-- What is computed last becomes part of the judgement. -/
theorem ConsultsAt.bind_ofExcept {m : Prog Q A σ ε β} {form : ℕ → Except ε Q}
    {judge : A → Except ε β} {f : β → Except ε α} (consults : m.ConsultsAt form judge) :
    (m >>= fun b => ofExcept (f b)).ConsultsAt form (fun a => judge a >>= f) := by
  intro answers w
  rw [run_bind, consults answers w]
  cases form w.asked with
  | error e => rfl
  | ok q =>
    dsimp only
    cases judge (answers w.asked) <;> rfl

theorem ConsultsAt.asks {R : Q → Prop} {m : Prog Q A σ ε α} {form : ℕ → Except ε Q}
    {judge : A → Except ε α} (consults : m.ConsultsAt form judge)
    (formed : ∀ n q, form n = .ok q → R q) : m.Asks R := by
  intro answers w
  rw [consults answers w]
  cases sent : form w.asked with
  | error e => exact ⟨[], by simp, by simp⟩
  | ok q => exact ⟨[(q, answers w.asked)], rfl, by simpa using formed w.asked q sent⟩

/-- A retried consultation returns what the first settling moment says. -/
theorem ConsultsAt.retry_fst {timeout : ε} {attempt : Prog Q A σ ε (Option β)}
    {form : ℕ → Except ε Q} {judge : A → Except ε (Option β)}
    (consults : attempt.ConsultsAt form judge) (n : ℕ) :
    ((retry timeout attempt n).run answers w).1 =
      settle timeout (fun n => form n >>= fun _ => judge (answers n)) (fun i => w.asked + i) n := by
  induction n generalizing w with
  | zero => rfl
  | succ n ih =>
    have first := consults answers w
    rw [retry, run_bind, first, settle, Nat.add_zero]
    cases form w.asked with
    | error e => rfl
    | ok q =>
      have judged : ((Except.ok q : Except ε Q) >>= fun _ => judge (answers w.asked)) =
          judge (answers w.asked) := rfl
      rw [judged]
      cases judge (answers w.asked) with
      | error e => rfl
      | ok r =>
        cases r with
        | some b => rfl
        | none =>
          have rest := ih (w := w.heard q (answers w.asked))
          simpa [Nat.add_assoc, Nat.add_comm 1] using rest

/-- The first step of a bounded search. -/
theorem exists_lt_succ_first {P R : ℕ → Prop} {n : ℕ} :
    (∃ k < n + 1, (∀ i < k, P i) ∧ R k) ↔
      R 0 ∨ P 0 ∧ ∃ k < n, (∀ i < k, P (i + 1)) ∧ R (k + 1) := by
  constructor
  · intro found
    rcases found with ⟨_ | k, bound, before, here⟩
    · exact .inl here
    · refine .inr ⟨before 0 (Nat.succ_pos k), k, Nat.lt_of_succ_lt_succ bound, ?_, here⟩
      exact fun i earlier => before (i + 1) (Nat.succ_lt_succ earlier)
  · intro found
    rcases found with here | ⟨first, k, bound, before, here⟩
    · exact ⟨0, Nat.succ_pos n, by simp, here⟩
    · refine ⟨k + 1, Nat.succ_lt_succ bound, ?_, here⟩
      intro i earlier
      cases i with
      | zero => exact first
      | succ i => exact before i (Nat.lt_of_succ_lt_succ earlier)

/-- The stream settles on `b` exactly when some answer within the bound says so
and every earlier one is pending. -/
theorem settle_eq_ok_iff {timeout : ε} {judge : A → Except ε (Option β)} {answers : ℕ → A}
    {n : ℕ} {b : β} :
    settle timeout judge answers n = .ok b ↔
      ∃ k < n, (∀ i < k, judge (answers i) = .ok none) ∧ judge (answers k) = .ok (some b) := by
  induction n generalizing answers with
  | zero => simp [settle]
  | succ n ih =>
    rw [settle, exists_lt_succ_first]
    cases judged : judge (answers 0) with
    | error e => simp
    | ok r =>
      cases r with
      | some b' => simp
      | none => simp [ih]

/-- The stream settles on an error exactly when some answer within the bound says
so and every earlier one is pending, or all are pending and the time is out. -/
theorem settle_eq_error_iff {timeout : ε} {judge : A → Except ε (Option β)} {answers : ℕ → A}
    {n : ℕ} {e : ε} :
    settle timeout judge answers n = .error e ↔
      (∃ k < n, (∀ i < k, judge (answers i) = .ok none) ∧ judge (answers k) = .error e) ∨
        (∀ i < n, judge (answers i) = .ok none) ∧ timeout = e := by
  induction n generalizing answers with
  | zero => simp [settle]
  | succ n ih =>
    rw [settle, exists_lt_succ_first, Nat.forall_lt_succ_left]
    cases judged : judge (answers 0) with
    | error e => simp
    | ok r =>
      cases r with
      | some b' => simp
      | none => simp [ih]

end Prog

end Keychain
