import Keychain.Lib.Dialogue

/-!
Two programs that hold the same conversation.

The answers of one are seen by the other through `view`, and the programs mirror each
other when they ask the same in the same order and end in results that have to do with
each other. The rules follow the operations of a program, so that a refinement is proved
along its text.
-/

namespace Keychain.Prog

variable {Q A A' σ σ' ε ε' α α' β β' : Type}

/-- The record of a conversation as the other program sees it. -/
def seen (view : A → A') (log : List (Q × A)) : List (Q × A') :=
  log.map fun exchange => (exchange.1, view exchange.2)

/-- Two results that have to do with each other. -/
inductive Related (value : α → α' → Prop) (fails : ε → ε' → Prop) :
    Except ε α → Except ε' α' → Prop
  | ok {a : α} {a' : α'} : value a a' → Related value fails (.ok a) (.ok a')
  | error {e : ε} {e' : ε'} : fails e e' → Related value fails (.error e) (.error e')

/-- From records that agree, both programs ask the same and end in related results. -/
def Mirrors (view : A → A') (value : α → α' → Prop) (fails : ε → ε' → Prop)
    (m : Prog Q A σ ε α) (m' : Prog Q A' σ' ε' α') : Prop :=
  ∀ answers w w', w'.log = seen view w.log →
    Related value fails (m.run answers w).1 (m'.run (fun i => view (answers i)) w').1 ∧
      (m'.run (fun i => view (answers i)) w').2.log = seen view (m.run answers w).2.log

variable {view : A → A'} {value : α → α' → Prop} {fails : ε → ε' → Prop}

theorem mirrors_pure {a : α} {a' : α'} (related : value a a') :
    (pure a : Prog Q A σ ε α).Mirrors view value fails (pure a' : Prog Q A' σ' ε' α') :=
  fun _ _ _ agree => ⟨.ok related, agree⟩

theorem mirrors_fail {e : ε} {e' : ε'} (related : fails e e') :
    (fail e : Prog Q A σ ε α).Mirrors view value fails (fail e' : Prog Q A' σ' ε' α') :=
  fun _ _ _ agree => ⟨.error related, agree⟩

/-- Both hear the answer to the question they both ask. -/
theorem mirrors_ask_bind {q : Q} {f : A → Prog Q A σ ε α} {f' : A' → Prog Q A' σ' ε' α'}
    (next : ∀ a, (f a).Mirrors view value fails (f' (view a))) :
    (ask q >>= f).Mirrors view value fails (ask q >>= f') := by
  intro answers w w' agree
  have moment : w'.asked = w.asked := by
    rw [World.asked, agree, seen, List.length_map]
    rfl
  rw [run_bind, run_bind, run_ask, run_ask, moment]
  refine next (answers w.asked) answers _ _ ?_
  rw [World.heard_log, World.heard_log, agree, seen, seen, List.map_append]
  rfl

theorem Mirrors.bind {m : Prog Q A σ ε β} {m' : Prog Q A' σ' ε' β'} {between : β → β' → Prop}
    {f : β → Prog Q A σ ε α} {f' : β' → Prog Q A' σ' ε' α'}
    (first : m.Mirrors view between fails m')
    (next : ∀ b b', between b b' → (f b).Mirrors view value fails (f' b')) :
    (m >>= f).Mirrors view value fails (m' >>= f') := by
  intro answers w w' agree
  rcases first answers w w' agree with ⟨results, logs⟩
  rw [run_bind, run_bind]
  rcases ran : m.run answers w with ⟨r, v⟩
  rcases ran' : m'.run (fun i => view (answers i)) w' with ⟨r', v'⟩
  rw [ran, ran'] at results logs
  cases results with
  | ok related => exact next _ _ related answers v v' logs
  | error related => exact ⟨.error related, logs⟩

end Keychain.Prog
