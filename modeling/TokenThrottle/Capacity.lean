/-
  TokenThrottle.Capacity

  `_capacity.py`: the refill arithmetic that the memory, Redis and SQLite
  backends share.

  * `MaxCapacity` is a limit that passed `_validate_max_capacity_finite_positive`;
    the lower bound is a field, so a rate computed from it is positive.
  * `calculateCapacity` is the source's function; `refilled` is its value once
    the clock reading is valid, and is what the proofs talk about.
-/
import Mathlib.Tactic.Linarith
import Mathlib.Tactic.Positivity
import TokenThrottle.Basic
import TokenThrottle.Theory.Accrual

namespace TokenThrottle

open Theory.Accrual (Grows)

/-! ## Limits and rates -/

/-- `MIN_MAX_CAPACITY` -/
def minMaxCapacity : ℚ := 1 / 1000000000

/-- A validated bucket limit. -/
structure MaxCapacity where
  value : ℚ
  min_le : minMaxCapacity ≤ value
deriving DecidableEq

theorem MaxCapacity.pos (maxCapacity : MaxCapacity) : 0 < maxCapacity.value :=
  lt_of_lt_of_le (by norm_num [minMaxCapacity]) maxCapacity.min_le

theorem MaxCapacity.nonneg (maxCapacity : MaxCapacity) : 0 ≤ maxCapacity.value :=
  maxCapacity.pos.le

theorem MaxCapacity.eq_of_value {m m' : MaxCapacity} (h_value : m.value = m'.value) : m = m' := by
  obtain ⟨value, _⟩ := m
  obtain ⟨value', _⟩ := m'
  cases h_value
  rfl

/-- The limit of the examples. -/
def oneHundred : MaxCapacity := ⟨100, by norm_num [minMaxCapacity]⟩

/-- `_validate_max_capacity_finite_positive` -/
def validateMaxCapacityFinitePositive (value : ℚ) : Except BackendError MaxCapacity :=
  if h_min : minMaxCapacity ≤ value then .ok ⟨value, h_min⟩
  else .error (.valueError .maxCapacityTooSmall)

/-- `_validate_rate_per_sec_finite_positive` -/
def validateRatePerSecFinitePositive (value : ℚ) : Except BackendError ℚ :=
  if value ≤ 0 then .error (.valueError .rateNotPositive) else .ok value

/-- `_calculate_rate_per_sec` -/
def calculateRatePerSec (maxCapacity : MaxCapacity) (id : BucketId) : ℚ :=
  maxCapacity.value / id.window

theorem calculateRatePerSec_pos (maxCapacity : MaxCapacity) (id : BucketId) :
    0 < calculateRatePerSec maxCapacity id :=
  div_pos maxCapacity.pos id.window_pos

/-! ## Capacity at a time -/

/-- `CalculatedCapacity` -/
structure CalculatedCapacity where
  amount : ℚ
  isFreshStart : Bool
deriving DecidableEq

/-- `calculate_capacity` -/
def calculateCapacity (lastChecked outdatedCapacity : Option ℚ) (currentTime : ℚ)
    (maxCapacity : MaxCapacity) (ratePerSec : ℚ) :
    Except BackendError CalculatedCapacity := do
  if currentTime < 0 then
    .error (.valueError .currentTimeNegative)
  else
    let ratePerSec ← validateRatePerSecFinitePositive ratePerSec
    match lastChecked, outdatedCapacity with
    | some last, some outdated =>
      -- a backward clock is clamped to no elapsed time
      let timePassed := max 0 (currentTime - last)
      .ok ⟨min maxCapacity.value (outdated + timePassed * ratePerSec), false⟩
    | _, _ => .ok ⟨maxCapacity.value, true⟩

/-- The amount `calculateCapacity` gives at a valid clock reading. -/
def refilled (lastChecked outdatedCapacity : Option ℚ) (currentTime : ℚ)
    (maxCapacity : MaxCapacity) (ratePerSec : ℚ) : ℚ :=
  match lastChecked, outdatedCapacity with
  | some last, some outdated =>
    min maxCapacity.value (outdated + max 0 (currentTime - last) * ratePerSec)
  | _, _ => maxCapacity.value

/-- Whether `calculateCapacity` finds nothing to refill from. -/
def isFreshStart (lastChecked outdatedCapacity : Option ℚ) : Bool :=
  lastChecked.isNone || outdatedCapacity.isNone

theorem calculateCapacity_ok {lastChecked outdatedCapacity : Option ℚ} {currentTime : ℚ}
    {maxCapacity : MaxCapacity} {ratePerSec : ℚ} (h_time : 0 ≤ currentTime)
    (h_rate : 0 < ratePerSec) :
    calculateCapacity lastChecked outdatedCapacity currentTime maxCapacity ratePerSec =
      .ok ⟨refilled lastChecked outdatedCapacity currentTime maxCapacity ratePerSec,
        isFreshStart lastChecked outdatedCapacity⟩ := by
  unfold calculateCapacity validateRatePerSecFinitePositive
  rw [if_neg (not_lt.mpr h_time), if_neg (not_le.mpr h_rate)]
  cases lastChecked <;> cases outdatedCapacity <;> rfl

theorem calculateCapacity_negative {lastChecked outdatedCapacity : Option ℚ}
    {currentTime : ℚ} {maxCapacity : MaxCapacity} {ratePerSec : ℚ}
    (h_time : currentTime < 0) :
    calculateCapacity lastChecked outdatedCapacity currentTime maxCapacity ratePerSec =
      .error (.valueError .currentTimeNegative) := by
  unfold calculateCapacity
  rw [if_pos h_time]

@[simp] theorem refilled_none_left (outdatedCapacity : Option ℚ) (currentTime : ℚ)
    (maxCapacity : MaxCapacity) (ratePerSec : ℚ) :
    refilled none outdatedCapacity currentTime maxCapacity ratePerSec = maxCapacity.value :=
  rfl

@[simp] theorem refilled_some (last outdated currentTime : ℚ) (maxCapacity : MaxCapacity)
    (ratePerSec : ℚ) :
    refilled (some last) (some outdated) currentTime maxCapacity ratePerSec =
      min maxCapacity.value (outdated + max 0 (currentTime - last) * ratePerSec) :=
  rfl

theorem refilled_le_max (lastChecked outdatedCapacity : Option ℚ) (currentTime : ℚ)
    (maxCapacity : MaxCapacity) (ratePerSec : ℚ) :
    refilled lastChecked outdatedCapacity currentTime maxCapacity ratePerSec ≤
      maxCapacity.value := by
  cases lastChecked with
  | none => exact le_refl _
  | some last =>
    cases outdatedCapacity with
    | none => exact le_refl _
    | some outdated => exact min_le_left _ _

/-- Between two readings a bucket gains at most the rate times the time between. -/
theorem refilled_le_add {lastChecked outdatedCapacity : Option ℚ} {earlier later : ℚ}
    {maxCapacity : MaxCapacity} {ratePerSec : ℚ} (h_rate : 0 ≤ ratePerSec)
    (h_le : earlier ≤ later) :
    refilled lastChecked outdatedCapacity later maxCapacity ratePerSec ≤
      refilled lastChecked outdatedCapacity earlier maxCapacity ratePerSec
        + ratePerSec * (later - earlier) := by
  have h_gain : 0 ≤ ratePerSec * (later - earlier) :=
    mul_nonneg h_rate (sub_nonneg.mpr h_le)
  cases lastChecked with
  | none => simp [refilled, h_gain]
  | some last =>
    cases outdatedCapacity with
    | none => simp [refilled, h_gain]
    | some outdated =>
      have h_elapsed : max 0 (later - last) ≤ max 0 (earlier - last) + (later - earlier) := by
        rcases le_total last earlier with h | h
        · rw [max_eq_right (by linarith), max_eq_right (by linarith)]
          linarith
        · exact max_le (by linarith [le_max_left (0 : ℚ) (earlier - last)])
            (by linarith [le_max_left (0 : ℚ) (earlier - last)])
      have h_mul := mul_le_mul_of_nonneg_right h_elapsed h_rate
      simp only [refilled_some]
      rcases min_cases maxCapacity.value (outdated + max 0 (earlier - last) * ratePerSec)
        with ⟨h_eq, _⟩ | ⟨h_eq, _⟩
      · rw [h_eq]
        exact (min_le_left _ _).trans (by linarith)
      · rw [h_eq]
        exact (min_le_right _ _).trans (by linarith)

/-- From a timestamp that is past, a bucket grows at its rate. -/
theorem refilled_grows {lastChecked outdatedCapacity : Option ℚ} {currentTime wait : ℚ}
    {maxCapacity : MaxCapacity} {ratePerSec : ℚ} (h_rate : 0 ≤ ratePerSec) (h_wait : 0 ≤ wait)
    (h_past : ∀ last, lastChecked = some last → last ≤ currentTime) :
    Grows maxCapacity.value ratePerSec wait
      (refilled lastChecked outdatedCapacity currentTime maxCapacity ratePerSec)
      (refilled lastChecked outdatedCapacity (currentTime + wait) maxCapacity ratePerSec) := by
  have h_full := Grows.of_full maxCapacity.value ratePerSec wait (mul_nonneg h_wait h_rate)
  cases lastChecked with
  | none => exact h_full
  | some last =>
    cases outdatedCapacity with
    | none => exact h_full
    | some outdated =>
      have h_last : last ≤ currentTime := h_past last rfl
      refine ⟨outdated + (currentTime - last) * ratePerSec, ?_, ?_⟩
      · rw [refilled_some, max_eq_right (by linarith)]
      · rw [refilled_some, max_eq_right (by linarith)]
        congr 1
        ring

/-- A bucket never loses capacity to the passing of time. -/
theorem refilled_mono {lastChecked outdatedCapacity : Option ℚ} {earlier later : ℚ}
    {maxCapacity : MaxCapacity} {ratePerSec : ℚ} (h_rate : 0 ≤ ratePerSec)
    (h_le : earlier ≤ later) :
    refilled lastChecked outdatedCapacity earlier maxCapacity ratePerSec ≤
      refilled lastChecked outdatedCapacity later maxCapacity ratePerSec := by
  cases lastChecked with
  | none => exact le_refl _
  | some last =>
    cases outdatedCapacity with
    | none => exact le_refl _
    | some outdated =>
      simp only [refilled_some]
      gcongr

/-- A write at the current time reads back, capped at the limit. -/
theorem refilled_now (currentTime outdated : ℚ) (maxCapacity : MaxCapacity)
    (ratePerSec : ℚ) :
    refilled (some currentTime) (some outdated) currentTime maxCapacity ratePerSec =
      min maxCapacity.value outdated := by
  simp

end TokenThrottle
