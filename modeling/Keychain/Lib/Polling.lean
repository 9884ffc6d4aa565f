import Mathlib.Data.List.Basic
import Keychain.Lib.Dialogue

/-!
Polling with a budget.

A client holds the last response it received. It stops, or it sends one follow-up and goes
on from what it can read of the answer; some follow-ups are sent at most once in a run.
`Polls` is the conversations of such a client. What they have in common is read off by
one lemma each: `length_le`, `countP_once_le`, `sent` and `last_of_done`. A program is
shown to be such a client one follow-up at a time (`Follows.bind`).
-/

namespace Keychain

/-- Requests `Q`, their answers `A` and the responses `R` read from them. -/
structure Polling (Q A R : Type) where
  /-- A response the client may return. -/
  done : R → Prop
  /-- What the client may send about a response. -/
  sends : R → Q → Prop
  /-- Sent at most once in a run. -/
  once : Q → Bool
  read : A → Option R

namespace Polling

variable {Q A R : Type} {rules : Polling Q A R}

/-- The conversations of a client that holds `response`, may send `attempts` follow-ups,
and has already sent the one-time follow-up or not; and what it returns. -/
inductive Polls (rules : Polling Q A R) : ℕ → Bool → R → List (Q × A) → Option R → Prop
  | stop {attempts : ℕ} {spent : Bool} {response : R} :
    Polls rules attempts spent response [] none
  | done {attempts : ℕ} {spent : Bool} {response : R} :
    rules.done response → Polls rules attempts spent response [] (some response)
  | unread {attempts : ℕ} {spent : Bool} {response : R} {q : Q} {a : A} :
    rules.sends response q → (spent && rules.once q) = false → rules.read a = none →
    Polls rules (attempts + 1) spent response [(q, a)] none
  | next {attempts : ℕ} {spent : Bool} {response response' : R} {q : Q} {a : A}
      {log : List (Q × A)} {result : Option R} :
    rules.sends response q → (spent && rules.once q) = false → rules.read a = some response' →
    Polls rules attempts (spent || rules.once q) response' log result →
    Polls rules (attempts + 1) spent response ((q, a) :: log) result

/-- The response the client starts from, then what it reads from each answer. -/
def responses (rules : Polling Q A R) (first : R) (log : List (Q × A)) : List (Option R) :=
  some first :: log.map fun exchange => rules.read exchange.2

theorem responses_cons {first next : R} {q : Q} {a : A} {log : List (Q × A)}
    (read : rules.read a = some next) :
    rules.responses first ((q, a) :: log) = some first :: rules.responses next log := by
  simp [responses, read]

namespace Polls

variable {attempts : ℕ} {spent : Bool} {response : R} {log : List (Q × A)} {result : Option R}

theorem length_le (polls : rules.Polls attempts spent response log result) :
    log.length ≤ attempts := by
  induction polls with
  | stop => exact Nat.zero_le _
  | done => exact Nat.zero_le _
  | unread => simp
  | next _ _ _ _ ih =>
    rw [List.length_cons]
    omega

/-- The one-time follow-up is sent once, counting what was sent before. -/
theorem countP_once_le (polls : rules.Polls attempts spent response log result) :
    log.countP (fun exchange => rules.once exchange.1) + spent.toNat ≤ 1 := by
  induction polls with
  | @stop _ spent => cases spent <;> simp
  | @done _ spent => cases spent <;> simp
  | @unread _ spent _ q _ _ fresh => cases spent <;> cases once : rules.once q <;> simp_all
  | @next _ spent _ _ q _ _ _ _ fresh _ _ ih =>
    rw [List.countP_cons]
    cases spent <;> cases once : rules.once q <;> simp_all <;> omega

/-- Every follow-up is about the response received before it. -/
theorem sent (polls : rules.Polls attempts spent response log result) {k : ℕ} {q : Q} {a : A}
    (at_k : log[k]? = some (q, a)) :
    ∃ before, (rules.responses response log)[k]? = some (some before) ∧
      rules.sends before q := by
  induction polls generalizing k with
  | stop => simp at at_k
  | done => simp at at_k
  | unread sends =>
    cases k with
    | zero =>
      cases at_k
      exact ⟨_, rfl, sends⟩
    | succ k => simp at at_k
  | next sends _ read _ ih =>
    cases k with
    | zero =>
      cases at_k
      exact ⟨_, rfl, sends⟩
    | succ k =>
      rw [responses_cons read]
      exact ih at_k

/-- What is returned is the last response, and may be returned. -/
theorem last_of_done (polls : rules.Polls attempts spent response log result) {final : R}
    (returned : result = some final) :
    rules.done final ∧ (rules.responses response log).getLast? = some (some final) := by
  induction polls with
  | stop => cases returned
  | done finished =>
    cases returned
    exact ⟨finished, rfl⟩
  | unread => cases returned
  | next _ _ read _ ih =>
    obtain ⟨finished, last⟩ := ih returned
    refine ⟨finished, ?_⟩
    rw [responses_cons read, List.getLast?_cons, last]
    rfl

end Polls

/-! ## Programs -/

open Prog

variable {σ ε : Type} {attempts : ℕ} {spent spent' : Bool} {response : R}

/-- A program whose runs are conversations of the client. -/
def Follows (rules : Polling Q A R) (attempts : ℕ) (spent : Bool) (response : R)
    (m : Prog Q A σ ε R) : Prop :=
  ∀ answers w, ∃ log, (m.run answers w).2.log = w.log ++ log ∧
    rules.Polls attempts spent response log (m.run answers w).1.toOption

/-- A program that fails without a word, or sends one follow-up about the response and
returns what it reads from the answer. -/
def Tells (rules : Polling Q A R) (spent spent' : Bool) (response : R)
    (m : Prog Q A σ ε R) : Prop :=
  ∀ answers w, (∃ e, (m.run answers w).1 = .error e) ∧ (m.run answers w).2.log = w.log ∨
    ∃ q, rules.sends response q ∧ (spent && rules.once q) = false ∧
      (spent || rules.once q) = spent' ∧
      (m.run answers w).2.log = w.log ++ [(q, answers w.asked)] ∧
      (m.run answers w).1.toOption = rules.read (answers w.asked)

theorem follows_fail {e : ε} :
    rules.Follows attempts spent response (fail e : Prog Q A σ ε R) := by
  intro answers w
  exact ⟨[], by simp, .stop⟩

theorem follows_pure (finished : rules.done response) :
    rules.Follows attempts spent response (pure response : Prog Q A σ ε R) := by
  intro answers w
  exact ⟨[], by simp, .done finished⟩

/-- A client without attempts left returns the response it holds, or fails. -/
theorem follows_ofExcept {result : Except ε R}
    (kept : ∀ final, result = .ok final → rules.done response ∧ response = final) :
    rules.Follows attempts spent response (ofExcept result : Prog Q A σ ε R) := by
  intro answers w
  refine ⟨[], by simp, ?_⟩
  rw [run_ofExcept]
  cases result with
  | error e => exact .stop
  | ok final =>
    obtain ⟨finished, rfl⟩ := kept final rfl
    exact .done finished

/-- One follow-up, then the rest of the client. -/
theorem Follows.bind {m : Prog Q A σ ε R} {next : R → Prog Q A σ ε R}
    (tells : rules.Tells spent spent' response m)
    (rest : ∀ response', rules.Follows attempts spent' response' (next response')) :
    rules.Follows (attempts + 1) spent response (m >>= next) := by
  intro answers w
  have told := tells answers w
  rw [run_bind]
  rcases ran : m.run answers w with ⟨_ | response', w'⟩
  · simp only [ran] at told ⊢
    rcases told with ⟨-, unchanged⟩ | ⟨q, sends, fresh, -, extended, read⟩
    · exact ⟨[], by simpa using unchanged, .stop⟩
    · exact ⟨_, extended, .unread sends fresh read.symm⟩
  · simp only [ran] at told ⊢
    rcases told with ⟨⟨e, failed⟩, -⟩ | ⟨q, sends, fresh, rfl, extended, read⟩
    · cases failed
    · obtain ⟨log, appended, polls⟩ := rest response' answers w'
      refine ⟨(q, answers w.asked) :: log, ?_, .next sends fresh read.symm polls⟩
      rw [appended, extended, List.append_assoc]
      rfl

end Polling

end Keychain
