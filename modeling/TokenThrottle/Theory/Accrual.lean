/-
  TokenThrottle.Theory.Accrual

  Accrual under a rate that is constant between changes, over any linear ordered field.

  * `spans` cuts an interval at a list of changes, and `total` sums rate times duration
    over the pieces.
  * `Run.accrues` is the rule for a system that rewrites its stored pair at each change: if
    every step adds the old rate for the time since the last one, a run adds the total.
  * `across` accrues over an interval in which the rate switches once, before it, after it or
    inside it.
  * `Grows` relates a capped quantity before and after a wait; it has reached a level after
    exactly the shortfall divided by the rate (`Grows.reaches_iff`).
-/
import Mathlib.Algebra.Order.Field.Basic
import Mathlib.Algebra.BigOperators.Group.List.Basic
import Mathlib.Tactic.Linarith
import Mathlib.Tactic.Ring
import TokenThrottle.Theory.Runs

namespace TokenThrottle.Theory.Accrual

/-! ## Changes of the rate -/

section Changes

variable {K V : Type*}

/-- A value, a rate or what determines one, in force from an instant on. -/
structure Change (K V : Type*) where
  instant : K
  value : V

/-- The value in force after the changes. -/
def lastValue (value : V) : List (Change K V) → V
  | [] => value
  | change :: changes => lastValue change.value changes

variable [Field K]

/-- The values in force from `start` to `stop`, each with the time it is in force. -/
def spans (value : V) (start : K) : List (Change K V) → K → List (V × K)
  | [], stop => [(value, stop - start)]
  | change :: changes, stop =>
    (value, change.instant - start) :: spans change.value change.instant changes stop

/-- The sum of rate times duration. -/
def total (rate : V → K) (pieces : List (V × K)) : K :=
  (pieces.map fun piece => rate piece.1 * piece.2).sum

theorem total_cons (rate : V → K) (piece : V × K) (pieces : List (V × K)) :
    total rate (piece :: pieces) = rate piece.1 * piece.2 + total rate pieces :=
  List.sum_cons

theorem total_spans_nil (rate : V → K) (value : V) (start stop : K) :
    total rate (spans value start [] stop) = rate value * (stop - start) := by
  show rate value * (stop - start) + 0 = _
  rw [add_zero]

end Changes

/-! ## Runs that make the changes -/

section Runs

variable {K V σ α : Type*} [Field K] [LinearOrder K]

/-- The changes come in order, none before `start` and none after `stop`. -/
def Ordered (start : K) : List (Change K V) → K → Prop
  | [], stop => start ≤ stop
  | change :: changes, stop => start ≤ change.instant ∧ Ordered change.instant changes stop

/-- An amount, as of an instant, with the value in force since. -/
structure Stored (K V : Type*) where
  amount : K
  instant : K
  value : V

/-- The amount brought up to a time. -/
def Stored.upTo (rate : V → K) (stored : Stored K V) (stop : K) : K :=
  stored.amount + rate stored.value * (stop - stored.instant)

/-- A stored amount brought up to a change, with the value in force from then on. -/
def Stored.changed (rate : V → K) (stored : Stored K V) (change : Change K V) : Stored K V where
  amount := stored.upTo rate change.instant
  instant := change.instant
  value := change.value

/-- If a step brings the stored amount up to its change, a run adds up the pieces. -/
theorem Run.accrues {step : σ → α → σ → Prop} {holds : σ → Stored K V → Prop}
    {rate : V → K} {change : α → Change K V} {s s' : σ} {stored : Stored K V} {labels : List α}
    {stop : K}
    (h_step : ∀ s stored a s', holds s stored → stored.instant ≤ (change a).instant →
      step s a s' → holds s' (stored.changed rate (change a)))
    (h_holds : holds s stored) (h_ordered : Ordered stored.instant (labels.map change) stop)
    (h_run : Run step s labels s') :
    ∃ stored', holds s' stored' ∧ stored'.instant ≤ stop ∧
      stored'.value = lastValue stored.value (labels.map change) ∧
      stored'.upTo rate stop = stored.amount +
        total rate (spans stored.value stored.instant (labels.map change) stop) := by
  induction h_run generalizing stored with
  | nil s =>
    refine ⟨stored, h_holds, h_ordered, rfl, ?_⟩
    rw [List.map_nil, total_spans_nil]
    rfl
  | cons h_first _ ih =>
    obtain ⟨h_order, h_rest⟩ := h_ordered
    obtain ⟨stored', h_holds', h_instant, h_value, h_amount⟩ :=
      ih (h_step _ _ _ _ h_holds h_order h_first) h_rest
    refine ⟨stored', h_holds', h_instant, h_value, ?_⟩
    rw [h_amount, List.map_cons, spans, total_cons, ← add_assoc]
    rfl

end Runs

variable {K : Type*} [Field K] [LinearOrder K] [IsStrictOrderedRing K]

/-! ## One switch -/

/-- The accrual from `start` to `stop` at `rate`, and at `later` from `switch` on. -/
def across (rate later switch start stop : K) : K :=
  rate * max 0 (min stop switch - start) + later * max 0 (stop - max start switch)

variable {rate later switch start stop : K}

theorem across_before (h_order : start ≤ stop) (h_before : stop ≤ switch) :
    across rate later switch start stop = rate * (stop - start) := by
  have h_rest : stop - max start switch ≤ 0 := by
    have h_max := le_max_right start switch
    linarith
  unfold across
  rw [min_eq_left h_before, max_eq_right (sub_nonneg.mpr h_order), max_eq_left h_rest]
  ring

theorem across_after (h_order : start ≤ stop) (h_after : switch ≤ start) :
    across rate later switch start stop = later * (stop - start) := by
  have h_none : min stop switch - start ≤ 0 := by
    have h_min := min_le_right stop switch
    linarith
  unfold across
  rw [max_eq_left h_after, max_eq_right (sub_nonneg.mpr h_order), max_eq_left h_none]
  ring

theorem across_over (h_start : start ≤ switch) (h_stop : switch ≤ stop) :
    across rate later switch start stop =
      rate * (switch - start) + later * (stop - switch) := by
  unfold across
  rw [min_eq_right h_stop, max_eq_right h_start, max_eq_right (sub_nonneg.mpr h_start),
    max_eq_right (sub_nonneg.mpr h_stop)]

/-! ## Reaching a level -/

/-- A quantity that was `min limit stored` and grows at `rate` up to its limit reaches a
    level after exactly the shortfall divided by the rate. -/
theorem reached_iff {level limit stored wait : K} (h_rate : 0 < rate) (h_level : level ≤ limit)
    (h_wait : 0 ≤ wait) :
    level ≤ min limit (stored + wait * rate) ↔ (level - min limit stored) / rate ≤ wait := by
  rw [div_le_iff₀ h_rate]
  have h_gain : 0 ≤ wait * rate := mul_nonneg h_wait h_rate.le
  constructor
  · intro h_reached
    have h_stored := h_reached.trans (min_le_right _ _)
    rcases min_choice limit stored with h_min | h_min
    · rw [h_min]
      linarith
    · rw [h_min]
      linarith
  · intro h_short
    have h_min := min_le_right limit stored
    exact le_min h_level (by linarith)

/-- A quantity capped at `limit`, before and after a wait in which it grows at `rate`. -/
def Grows (limit rate wait now later : K) : Prop :=
  ∃ stored, now = min limit stored ∧ later = min limit (stored + wait * rate)

variable {limit wait now later level : K}

theorem Grows.of_full (limit rate wait : K) (h_gain : 0 ≤ wait * rate) :
    Grows limit rate wait limit limit := by
  refine ⟨limit, (min_self limit).symm, (min_eq_left ?_).symm⟩
  linarith

theorem Grows.le (h_grows : Grows limit rate wait now later) (h_gain : 0 ≤ wait * rate) :
    now ≤ later := by
  obtain ⟨stored, rfl, rfl⟩ := h_grows
  exact min_le_min_left limit (by linarith)

theorem Grows.reaches_iff (h_grows : Grows limit rate wait now later) (h_rate : 0 < rate)
    (h_level : level ≤ limit) (h_wait : 0 ≤ wait) : level ≤ later ↔ (level - now) / rate ≤ wait := by
  obtain ⟨stored, rfl, rfl⟩ := h_grows
  exact reached_iff h_rate h_level h_wait

end TokenThrottle.Theory.Accrual
