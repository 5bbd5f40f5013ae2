/-
  TokenThrottle.Theory.Meter

  A level that refills with time and is spent by admissions, over any ordered
  field and with no program in sight.

  * A level is a function of time; `Grows cap rate` says it never exceeds `cap`
    and gains at most `rate` per unit of time.
  * A `Move` changes the level at one instant; it may admit an amount, and it may
    be given a credit that pays for what it admits or raises.
  * `Metered.admittedIn_le` is the rate bound: what a sequence of moves admits
    within `[s, t]` is at most `cap + rate * (t - s)` plus the credits given
    within `[s, t]`.
-/
import Mathlib.Algebra.Order.Field.Basic
import Mathlib.Algebra.BigOperators.Group.List.Basic
import Mathlib.Tactic.Linarith

namespace TokenThrottle.Theory

variable {K : Type*} [Field K] [LinearOrder K]

/-! ## Levels and moves -/

/-- A level, as a function of time, that stays below `cap` and rises no faster
    than `rate`. -/
structure Grows (cap rate : K) (level : K → K) : Prop where
  le_cap : ∀ t, level t ≤ cap
  le_add : ∀ t t', t ≤ t' → level t' ≤ level t + rate * (t' - t)

/-- One change of the level: when, what it admits, what it is credited, and the
    level from then on. -/
structure Move (K : Type*) where
  time : K
  admitted : K
  credit : K
  after : K → K

/-- A move pays for what it admits out of the non-negative part of the level. -/
structure Move.Paid (cap rate : K) (before : K → K) (m : Move K) : Prop where
  credit_nonneg : 0 ≤ m.credit
  pays : m.admitted + max 0 (m.after m.time) ≤ max 0 (before m.time) + m.credit
  grows : Grows cap rate m.after

/-- A sequence of paid moves at non-decreasing times, from a level at a time. -/
inductive Metered (cap rate : K) : K → (K → K) → List (Move K) → Prop
  | nil (start : K) (level : K → K) : Metered cap rate start level []
  | cons {start : K} {level : K → K} {m : Move K} {ms : List (Move K)} :
      start ≤ m.time → m.Paid cap rate level → Metered cap rate m.time m.after ms →
      Metered cap rate start level (m :: ms)

/-! ## Sums over a time interval -/

/-- The sum of `f` over the moves whose time lies in `[s, t]`. -/
def sumIn (f : Move K → K) (s t : K) (ms : List (Move K)) : K :=
  ((ms.filter fun m => s ≤ m.time ∧ m.time ≤ t).map f).sum

def admittedIn (s t : K) (ms : List (Move K)) : K := sumIn Move.admitted s t ms

def creditIn (s t : K) (ms : List (Move K)) : K := sumIn Move.credit s t ms

@[simp] theorem sumIn_nil (f : Move K → K) (s t : K) : sumIn f s t [] = 0 := rfl

theorem sumIn_cons_of_mem (f : Move K → K) {s t : K} {m : Move K} (ms : List (Move K))
    (h_lower : s ≤ m.time) (h_upper : m.time ≤ t) :
    sumIn f s t (m :: ms) = f m + sumIn f s t ms := by
  simp [sumIn, h_lower, h_upper]

theorem sumIn_cons_of_lt (f : Move K → K) {s t : K} {m : Move K} (ms : List (Move K))
    (h_lt : m.time < s) : sumIn f s t (m :: ms) = sumIn f s t ms := by
  simp [sumIn, not_le.mpr h_lt]

theorem sumIn_cons_of_gt (f : Move K → K) {s t : K} {m : Move K} (ms : List (Move K))
    (h_gt : t < m.time) : sumIn f s t (m :: ms) = sumIn f s t ms := by
  simp [sumIn, not_le.mpr h_gt]

/-- No move counts once the clock has passed the interval. -/
theorem Metered.sumIn_eq_zero {cap rate start : K} {level : K → K} {ms : List (Move K)}
    (f : Move K → K) {s t : K} (h_run : Metered cap rate start level ms)
    (h_past : t < start) : sumIn f s t ms = 0 := by
  induction h_run with
  | nil => rfl
  | cons h_time _ _ ih =>
    have h_gt := lt_of_lt_of_le h_past h_time
    rw [sumIn_cons_of_gt f _ h_gt, ih h_gt]

/-! ## The rate bound -/

variable [IsStrictOrderedRing K]

/-- Inside the interval: what is admitted until `t` is paid for by the level at
    hand, the refill until `t`, and the credits. -/
theorem Metered.admittedIn_le_level {cap rate start : K} {level : K → K}
    {ms : List (Move K)} {s t : K} (h_rate : 0 ≤ rate)
    (h_run : Metered cap rate start level ms) (h_grows : Grows cap rate level)
    (h_lower : s ≤ start) (h_upper : start ≤ t) :
    admittedIn s t ms ≤
      max 0 (level start) + rate * (t - start) + creditIn s t ms := by
  induction h_run with
  | nil start level =>
    have h_gain := mul_nonneg h_rate (sub_nonneg.mpr h_upper)
    have h_level := le_max_left 0 (level start)
    simp only [admittedIn, creditIn, sumIn_nil]
    linarith
  | @cons start level m ms h_time h_paid h_rest ih =>
    have h_gain := mul_nonneg h_rate (sub_nonneg.mpr h_time)
    have h_refill : max 0 (level m.time) ≤ max 0 (level start) + rate * (m.time - start) :=
      max_le (by linarith [le_max_left 0 (level start)])
        ((h_grows.le_add _ _ h_time).trans (by linarith [le_max_right 0 (level start)]))
    rcases le_or_gt m.time t with h_in | h_past
    · have h_later := ih h_paid.grows (h_lower.trans h_time) h_in
      have h_pays := h_paid.pays
      rw [admittedIn, creditIn, sumIn_cons_of_mem _ _ (h_lower.trans h_time) h_in,
        sumIn_cons_of_mem _ _ (h_lower.trans h_time) h_in]
      rw [admittedIn, creditIn] at h_later
      linarith
    · have h_gain' := mul_nonneg h_rate (sub_nonneg.mpr h_upper)
      rw [admittedIn, creditIn, sumIn_cons_of_gt _ _ h_past, sumIn_cons_of_gt _ _ h_past,
        h_rest.sumIn_eq_zero _ h_past, h_rest.sumIn_eq_zero _ h_past]
      linarith [le_max_left 0 (level start)]

/-- The rate bound of a metered level over any interval. -/
theorem Metered.admittedIn_le {cap rate start : K} {level : K → K} {ms : List (Move K)}
    {s t : K} (h_cap : 0 ≤ cap) (h_rate : 0 ≤ rate)
    (h_run : Metered cap rate start level ms) (h_grows : Grows cap rate level)
    (h_le : s ≤ t) :
    admittedIn s t ms ≤ cap + rate * (t - s) + creditIn s t ms := by
  induction h_run with
  | nil =>
    have h_gain := mul_nonneg h_rate (sub_nonneg.mpr h_le)
    simp only [admittedIn, creditIn, sumIn_nil]
    linarith
  | @cons start level m ms h_time h_paid h_rest ih =>
    rcases lt_or_ge m.time s with h_before | h_from
    · -- not yet in the interval: the bound does not depend on the level
      rw [admittedIn, creditIn, sumIn_cons_of_lt _ _ h_before, sumIn_cons_of_lt _ _ h_before]
      exact ih h_paid.grows
    · rcases le_or_gt m.time t with h_in | h_past
      · -- the first move inside: the level it finds is at most the cap
        have h_later := h_rest.admittedIn_le_level h_rate h_paid.grows h_from h_in
        have h_full : max 0 (level m.time) ≤ cap := max_le h_cap (h_grows.le_cap _)
        have h_gain := mul_nonneg h_rate (sub_nonneg.mpr h_from)
        have h_pays := h_paid.pays
        rw [admittedIn, creditIn, sumIn_cons_of_mem _ _ h_from h_in,
          sumIn_cons_of_mem _ _ h_from h_in]
        rw [admittedIn, creditIn] at h_later
        linarith
      · have h_gain := mul_nonneg h_rate (sub_nonneg.mpr h_le)
        rw [admittedIn, creditIn, sumIn_cons_of_gt _ _ h_past, sumIn_cons_of_gt _ _ h_past,
          h_rest.sumIn_eq_zero _ h_past, h_rest.sumIn_eq_zero _ h_past]
        linarith

end TokenThrottle.Theory
