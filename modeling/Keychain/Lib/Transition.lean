import Mathlib.Data.List.Basic
import Mathlib.Data.List.Induction

/-!
Transition systems given by a partial step function, and their runs.

`run_invariant` is the rule every safety result uses: what one step preserves
holds along every run. `run_invariant_along` is the same for what only the steps of
one run preserve, and `run_history` for what speaks of the events so far as well.
`run_append` and `step_of_run` look into the middle of a run.
-/

namespace Keychain.Transition

variable {S E : Type}

/-- Take the events in order; `none` when one of them is not enabled. -/
def run (step : S → E → Option S) (s : S) (events : List E) : Option S :=
  events.foldlM step s

variable {step : S → E → Option S} {s t : S} {events : List E}

@[simp] theorem run_nil : run step s [] = some t ↔ s = t := by
  simp [run]

theorem run_cons {e : E} :
    run step s (e :: events) = some t ↔ ∃ u, step s e = some u ∧ run step u events = some t := by
  simp [run, Option.bind_eq_some_iff]

/-- A run through `before ++ after` passes through the end of `before`. -/
theorem run_append {before after : List E} :
    run step s (before ++ after) = some t ↔
      ∃ u, run step s before = some u ∧ run step u after = some t := by
  simp [run, List.foldlM_append, Option.bind_eq_some_iff]

/-- The step a run takes from a state it passes through. -/
theorem step_of_run {before after : List E} {e : E} {u : S}
    (ran : run step s (before ++ e :: after) = some t) (reached : run step s before = some u) :
    ∃ v, step u e = some v ∧ run step s (before ++ [e]) = some v := by
  rcases run_append.mp ran with ⟨u', reached', rest⟩
  cases reached.symm.trans reached'
  rcases run_cons.mp rest with ⟨v, stepped, -⟩
  refine ⟨v, stepped, run_append.mpr ⟨u, reached, ?_⟩⟩
  exact run_cons.mpr ⟨v, stepped, run_nil.mpr rfl⟩

/-- What every allowed step preserves holds along every run of allowed steps. -/
theorem run_invariant {I : S → Prop} (allowed : E → Prop)
    (preserved : ∀ s e t, allowed e → I s → step s e = some t → I t) (holds : I s)
    (all : ∀ e ∈ events, allowed e) (ran : run step s events = some t) : I t := by
  induction events generalizing s with
  | nil =>
    rw [run_nil] at ran
    exact ran ▸ holds
  | cons e events ih =>
    rcases run_cons.mp ran with ⟨u, stepped, rest⟩
    have next := preserved s e u (all e (by simp)) holds stepped
    exact ih next (fun e' member => all e' (by simp [member])) rest

/-- What every step of the run preserves holds at its end. -/
theorem run_invariant_along {I : S → Prop}
    (preserved : ∀ before e after u v, events = before ++ e :: after →
      run step s before = some u → I u → step u e = some v → I v)
    (holds : I s) (ran : run step s events = some t) : I t := by
  induction events generalizing s with
  | nil =>
    rw [run_nil] at ran
    exact ran ▸ holds
  | cons e events ih =>
    rcases run_cons.mp ran with ⟨u, stepped, rest⟩
    refine ih ?_ (preserved [] e events s u rfl (run_nil.mpr rfl) holds stepped) rest
    intro before e' after v v' split reached holds' stepped'
    refine preserved (e :: before) e' after v v' (by rw [split]; rfl) ?_ holds' stepped'
    exact run_cons.mpr ⟨u, stepped, reached⟩

/-- Where an event stands in a history that has just grown by one. -/
theorem split_append_singleton {before after : List E} {e e' : E}
    (split : events ++ [e] = before ++ e' :: after) :
    (after = [] ∧ before = events ∧ e' = e) ∨
      ∃ rest, after = rest ++ [e] ∧ events = before ++ e' :: rest := by
  rcases List.eq_nil_or_concat' after with rfl | ⟨rest, last, rfl⟩
  · obtain ⟨same, singleton⟩ := List.append_inj' split rfl
    exact .inl ⟨rfl, same.symm, (List.singleton_inj.mp singleton).symm⟩
  · rw [← List.cons_append, ← List.append_assoc] at split
    obtain ⟨same, singleton⟩ := List.append_inj' split rfl
    cases singleton
    exact .inr ⟨rest, rfl, same⟩

/-- What holds of the events so far and of the state they lead to, when every step
carries it on. -/
theorem run_history {I : List E → S → Prop}
    (preserved : ∀ before e u v, I before u → step u e = some v → I (before ++ [e]) v)
    (holds : I [] s) (ran : run step s events = some t) : I events t := by
  induction events using List.reverseRecOn generalizing t with
  | nil =>
    rw [run_nil] at ran
    exact ran ▸ holds
  | append_singleton before e ih =>
    obtain ⟨u, reached, last⟩ := run_append.mp ran
    obtain ⟨v, stepped, done⟩ := run_cons.mp last
    rw [run_nil] at done
    exact done ▸ preserved before e u v (ih reached) stepped

end Keychain.Transition
