/-
  TokenThrottle.Theory.Runs

  Runs of a labelled transition relation, and the two rules every safety result
  uses: an invariant kept by each step holds after a run, and a step simulated
  by another system is simulated along a run.
-/
import Mathlib.Data.List.Basic

namespace TokenThrottle.Theory

variable {σ τ α ω : Type*}

/-- `Run step s as s'`: the labels `as` lead from `s` to `s'`. -/
inductive Run (step : σ → α → σ → Prop) : σ → List α → σ → Prop
  | nil (s : σ) : Run step s [] s
  | cons {s s' s'' : σ} {a : α} {as : List α} :
      step s a s' → Run step s' as s'' → Run step s (a :: as) s''

namespace Run

variable {step : σ → α → σ → Prop} {s s' s'' : σ} {as bs : List α}

theorem append (h_first : Run step s as s') (h_then : Run step s' bs s'') :
    Run step s (as ++ bs) s'' := by
  induction h_first with
  | nil => exact h_then
  | cons h_step _ ih => exact .cons h_step (ih h_then)

theorem snoc {a : α} (h_run : Run step s as s') (h_step : step s' a s'') :
    Run step s (as ++ [a]) s'' :=
  h_run.append (.cons h_step (.nil _))

/-- A run has passed through a state between any two of its labels. -/
theorem split (h_run : Run step s (as ++ bs) s'') : ∃ s', Run step s as s' ∧ Run step s' bs s'' := by
  induction as generalizing s with
  | nil => exact ⟨s, .nil s, h_run⟩
  | cons a as ih =>
    cases h_run with
    | cons h_first h_rest =>
      obtain ⟨s', h_before, h_after⟩ := ih h_rest
      exact ⟨s', .cons h_first h_before, h_after⟩

/-- What every step keeps, every run keeps. -/
theorem invariant {inv : σ → Prop} (h_step : ∀ s a s', inv s → step s a s' → inv s')
    (h_run : Run step s as s') (h_inv : inv s) : inv s' := by
  induction h_run with
  | nil => exact h_inv
  | cons h_first _ ih => exact ih (h_step _ _ _ h_inv h_first)

/-- What holds after a run and did not hold before it, one of its steps brought about. -/
theorem arises {p : σ → Prop} (h_run : Run step s as s') (h_end : p s') :
    p s ∨ ∃ before a after t t', as = before ++ a :: after ∧ Run step s before t ∧
      step t a t' ∧ Run step t' after s' ∧ ¬ p t ∧ p t' := by
  induction h_run with
  | nil => exact .inl h_end
  | @cons s t s' a as h_step h_rest ih =>
    rcases ih h_end with h_t | ⟨before, b, after, u, u', h_as, h_before, h_b, h_after, h_p⟩
    · by_cases h_s : p s
      · exact .inl h_s
      · exact .inr ⟨[], a, as, s, t, rfl, .nil s, h_step, h_rest, h_s, h_t⟩
    · refine .inr ⟨a :: before, b, after, u, u', ?_, .cons h_step h_before, h_b, h_after, h_p⟩
      rw [h_as, List.cons_append]

/-- A run of a relation is a run of any larger one. -/
theorem mono {step' : σ → α → σ → Prop} (h_sub : ∀ s a s', step s a s' → step' s a s')
    (h_run : Run step s as s') : Run step' s as s' := by
  induction h_run with
  | nil => exact .nil _
  | cons h_first _ ih => exact .cons (h_sub _ _ _ h_first) ih

/-- Forward simulation along a run, with the same labels on both sides. -/
theorem simulate {step' : τ → α → τ → Prop} {rel : σ → τ → Prop}
    (h_sim : ∀ s a s' t, rel s t → step s a s' → ∃ t', step' t a t' ∧ rel s' t')
    (h_run : Run step s as s') {t : τ} (h_rel : rel s t) :
    ∃ t', Run step' t as t' ∧ rel s' t' := by
  induction h_run generalizing t with
  | nil => exact ⟨t, .nil _, h_rel⟩
  | cons h_first _ ih =>
    obtain ⟨t', h_step', h_rel'⟩ := h_sim _ _ _ _ h_rel h_first
    obtain ⟨t'', h_run', h_rel''⟩ := ih h_rel'
    exact ⟨t'', .cons h_step' h_run', h_rel''⟩

end Run

/-! ## Deterministic systems -/

/-- The relation of a partial step function. -/
def Steps (step : σ → α → Option σ) (s : σ) (a : α) (s' : σ) : Prop := step s a = some s'

/-- The step function restricted to the steps that meet a condition on the state
    they start from. -/
def guard (step : σ → α → Option σ) (good : σ → α → Bool) (s : σ) (a : α) : Option σ :=
  if good s a then step s a else none

theorem steps_guard_iff {step : σ → α → Option σ} {good : σ → α → Bool} {s s' : σ} {a : α} :
    Steps (guard step good) s a s' ↔ good s a = true ∧ Steps step s a s' := by
  unfold Steps guard
  by_cases h_good : good s a = true
  · simp [h_good]
  · simp [h_good]

/-- Executes a list of labels; `none` when one is not enabled. -/
def exec (step : σ → α → Option σ) : σ → List α → Option σ
  | s, [] => some s
  | s, a :: as => (step s a).bind fun s' => exec step s' as

theorem run_of_exec {step : σ → α → Option σ} {s s' : σ} {as : List α}
    (h_exec : exec step s as = some s') : Run (Steps step) s as s' := by
  induction as generalizing s with
  | nil =>
    cases h_exec
    exact .nil _
  | cons a as ih =>
    obtain ⟨t, h_step, h_rest⟩ := Option.bind_eq_some_iff.mp h_exec
    exact .cons h_step (ih h_rest)

/-- A run exhibited by executing its labels. -/
theorem exists_run_of_exec {step : σ → α → Option σ} {s : σ} {as : List α} {p : σ → Prop}
    [DecidablePred p] (h_exec : (exec step s as).any (fun s' => p s') = true) :
    ∃ s', Run (Steps step) s as s' ∧ p s' := by
  cases h_end : exec step s as with
  | none =>
    rw [h_end] at h_exec
    cases h_exec
  | some s' =>
    rw [h_end] at h_exec
    exact ⟨s', run_of_exec h_end, of_decide_eq_true h_exec⟩

end TokenThrottle.Theory
