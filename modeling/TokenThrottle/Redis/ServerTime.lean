/-
  TokenThrottle.Redis.ServerTime

  `_redis/_server_time.py`: the rail that compares consecutive readings of the server's
  clock with the local monotonic clock, for any number of calls in flight on one client.

  * A call reads the local clocks, is answered by the server at some later instant, and
    checks its answer at some still later instant, in whatever order the calls get there.
  * The anchor keeps the local reading made *before* its sample, and a check reads the
    clock *after* its own, so the measured interval contains both samples: that is the
    invariant `RailSound` carries along a run.
  * The source computes in double precision: a sample is rounded twice, each difference
    once. Near 1.7e9 seconds a double is good to 2.4e-7, so a clock that uses the whole
    threshold can trip the rail (`run_raises_rounded`); what the roundings can add up to
    is kept off the threshold in `Steady` and `JumpsOnce`.
-/
import Mathlib.Order.UpperLower.Basic
import Mathlib.Tactic.Linarith
import Mathlib.Tactic.NormNum
import TokenThrottle.Basic
import TokenThrottle.Theory.FloatFormat
import TokenThrottle.Theory.Runs

namespace TokenThrottle

open Theory (Run Steps exists_run_of_exec binary64 abs_binary64_round_sub_le)

/-! ## One reading -/

/-- `MAX_FORWARD_JUMP_SECONDS` -/
def maxForwardJumpSeconds : ℚ := 10

/-- What TIME answers. -/
structure TimeResponse where
  seconds : ℤ
  microseconds : ℤ
deriving DecidableEq

/-- What a reading raises on its own account. -/
inductive ServerTimeError
  | outOfRange
  | jumpedForward
deriving DecidableEq

/-- The time that a response states. -/
def TimeResponse.time (response : TimeResponse) : ℚ :=
  response.seconds + response.microseconds / 1000000

/-- `_to_float`; the seconds of a parsed response are exact as a float. -/
def TimeResponse.toFloat (response : TimeResponse) : ℚ :=
  binary64.round (response.seconds + binary64.round (response.microseconds / 1000000))

/-- `_parse_time_response` -/
def parseTimeResponse (response : TimeResponse) : Except ServerTimeError ℚ :=
  if response.seconds < 0 ∨ 253402300799 < response.seconds ∨
      ¬ (0 ≤ response.microseconds ∧ response.microseconds < 1000000) then
    .error .outOfRange
  else .ok response.toFloat

/-- `_ClientClockState` -/
structure ClientClockState where
  lastServerTime : ℚ
  lastMonotonic : ℚ
  lastWall : ℚ
  wallSkewWarned : Bool
deriving DecidableEq

/-- `_maybe_warn_wall_skew`: a large skew is logged once per client. -/
def maybeWarnWallSkew (state : ClientClockState) (serverTime wallNow : ℚ) : ClientClockState :=
  if state.wallSkewWarned then state
  else if |binary64.round (serverTime - wallNow)| ≤ maxForwardJumpSeconds then state
  else { state with wallSkewWarned := true }

/-- How far the server's clock ran ahead of a local one between two readings of each: the
    two elapsed times and their difference, each rounded. -/
def excess (serverTime lastServerTime now last : ℚ) : ℚ :=
  binary64.round (binary64.round (serverTime - lastServerTime) - binary64.round (now - last))

/-- `_check_forward_jump`; `nowMonotonic` and `wallNow` are read under the lock. -/
def checkForwardJump (state : Option ClientClockState)
    (serverTime monotonicBefore wallBefore nowMonotonic wallNow : ℚ) :
    Except ServerTimeError Unit × ClientClockState :=
  match state with
  | none =>
    (.ok (), maybeWarnWallSkew ⟨serverTime, monotonicBefore, wallBefore, false⟩ serverTime wallNow)
  | some state =>
    let state := maybeWarnWallSkew state serverTime wallNow
    if serverTime < state.lastServerTime then (.ok (), state)
    else
      let state' := { state with
        lastServerTime := serverTime
        lastMonotonic := monotonicBefore
        lastWall := wallBefore }
      if excess serverTime state.lastServerTime nowMonotonic state.lastMonotonic ≤
          maxForwardJumpSeconds then (.ok (), state')
      -- the wall clock corroborates the server: a resumed host
      else if excess serverTime state.lastServerTime wallNow state.lastWall ≤
          maxForwardJumpSeconds then (.ok (), state')
      else (.error .jumpedForward, state')

@[simp] theorem maybeWarnWallSkew_lastServerTime (state : ClientClockState)
    (serverTime wallNow : ℚ) :
    (maybeWarnWallSkew state serverTime wallNow).lastServerTime = state.lastServerTime := by
  unfold maybeWarnWallSkew
  split
  · rfl
  · split <;> rfl

@[simp] theorem maybeWarnWallSkew_lastMonotonic (state : ClientClockState)
    (serverTime wallNow : ℚ) :
    (maybeWarnWallSkew state serverTime wallNow).lastMonotonic = state.lastMonotonic := by
  unfold maybeWarnWallSkew
  split
  · rfl
  · split <;> rfl

/-- All that a check can do: it sets the first anchor, drops a stale reading, or moves the
    anchor; it raises only in the last case and past the threshold. -/
theorem checkForwardJump_cases {state : Option ClientClockState}
    {serverTime monotonicBefore wallBefore nowMonotonic wallNow : ℚ}
    {result : Except ServerTimeError Unit} {state' : ClientClockState}
    (h_check : checkForwardJump state serverTime monotonicBefore wallBefore nowMonotonic
      wallNow = (result, state')) :
    (state = none ∧ result = .ok () ∧ state'.lastServerTime = serverTime ∧
      state'.lastMonotonic = monotonicBefore) ∨
    ∃ anchor, state = some anchor ∧
      ((serverTime < anchor.lastServerTime ∧ result = .ok () ∧
          state'.lastServerTime = anchor.lastServerTime ∧
          state'.lastMonotonic = anchor.lastMonotonic) ∨
        (anchor.lastServerTime ≤ serverTime ∧ state'.lastServerTime = serverTime ∧
          state'.lastMonotonic = monotonicBefore ∧
          (result ≠ .ok () → maxForwardJumpSeconds <
            excess serverTime anchor.lastServerTime nowMonotonic anchor.lastMonotonic))) := by
  unfold checkForwardJump at h_check
  cases state with
  | none =>
    obtain ⟨rfl, rfl⟩ := Prod.mk.inj h_check
    exact .inl ⟨rfl, rfl, maybeWarnWallSkew_lastServerTime _ _ _,
      maybeWarnWallSkew_lastMonotonic _ _ _⟩
  | some anchor =>
    refine .inr ⟨anchor, rfl, ?_⟩
    dsimp only at h_check
    rw [maybeWarnWallSkew_lastServerTime, maybeWarnWallSkew_lastMonotonic] at h_check
    by_cases h_stale : serverTime < anchor.lastServerTime
    · rw [if_pos h_stale] at h_check
      obtain ⟨rfl, rfl⟩ := Prod.mk.inj h_check
      exact .inl ⟨h_stale, rfl, maybeWarnWallSkew_lastServerTime _ _ _,
        maybeWarnWallSkew_lastMonotonic _ _ _⟩
    · rw [if_neg h_stale] at h_check
      have h_le := not_lt.mp h_stale
      by_cases h_excess : excess serverTime anchor.lastServerTime nowMonotonic
          anchor.lastMonotonic ≤ maxForwardJumpSeconds
      · rw [if_pos h_excess] at h_check
        obtain ⟨rfl, rfl⟩ := Prod.mk.inj h_check
        exact .inr ⟨h_le, rfl, rfl, fun h_error => absurd rfl h_error⟩
      · rw [if_neg h_excess] at h_check
        have h_moved : state'.lastServerTime = serverTime ∧
            state'.lastMonotonic = monotonicBefore := by
          split at h_check
          · obtain ⟨_, rfl⟩ := Prod.mk.inj h_check
            exact ⟨rfl, rfl⟩
          · obtain ⟨_, rfl⟩ := Prod.mk.inj h_check
            exact ⟨rfl, rfl⟩
        exact .inr ⟨h_le, h_moved.1, h_moved.2, fun _ => not_le.mp h_excess⟩

/-- The stored server anchor never decreases. -/
theorem checkForwardJump_mono {anchor state' : ClientClockState}
    {serverTime monotonicBefore wallBefore nowMonotonic wallNow : ℚ}
    {result : Except ServerTimeError Unit}
    (h_check : checkForwardJump (some anchor) serverTime monotonicBefore wallBefore
      nowMonotonic wallNow = (result, state')) :
    anchor.lastServerTime ≤ state'.lastServerTime := by
  obtain ⟨h_none, _⟩ | ⟨_, h_some, h_stale | h_moved⟩ := checkForwardJump_cases h_check
  · cases h_none
  · cases h_some
    exact h_stale.2.2.1.ge
  · cases h_some
    rw [h_moved.2.1]
    exact h_moved.1

/-! ## Readings in flight -/

abbrev ReadingId := ℕ

/-- A call of `async_server_time` or `sync_server_time`, waiting for the server's answer
    or for `_state_lock`. -/
inductive ServerTimeCall
  | issued (monotonicBefore wallBefore : ℚ)
  | answered (monotonicBefore wallBefore : ℚ) (response : TimeResponse)

/-- A client with its calls in flight; `raised` counts the checks that raised. -/
structure ServerTimeSystem where
  clock : ℚ
  client : Option ClientClockState
  calls : ReadingId → Option ServerTimeCall
  raised : ℕ

namespace ServerTimeSystem

/-- What happens to a call; the wall clock may read anything. -/
inductive Progress
  | call (wallBefore : ℚ)
  | answer
  | check (wallNow : ℚ)

/-- A call moves at an instant. -/
structure Event where
  instant : ℚ
  id : ReadingId
  progress : Progress

def init (clock : ℚ) : ServerTimeSystem where
  clock := clock
  client := none
  calls _ := none
  raised := 0

def withCall (s : ServerTimeSystem) (event : Event) (call : Option ServerTimeCall) :
    ServerTimeSystem :=
  { s with
    clock := event.instant
    calls := Function.update s.calls event.id call }

/-- The end of a call: its answer is parsed and checked. -/
def finish (s : ServerTimeSystem) (monotonicBefore wallBefore : ℚ) (response : TimeResponse)
    (nowMonotonic wallNow : ℚ) : ServerTimeSystem :=
  match parseTimeResponse response with
  | .error _ => s
  | .ok serverTime =>
    let (result, state) :=
      checkForwardJump s.client serverTime monotonicBefore wallBefore nowMonotonic wallNow
    { s with
      client := some state
      raised := if result = .ok () then s.raised else s.raised + 1 }

/-- A step, under the server's clock and the local monotonic clock. -/
def step (server : ℚ → TimeResponse) (monotonic : ℚ → ℚ) (s : ServerTimeSystem)
    (event : Event) : Option ServerTimeSystem :=
  -- instants are those of one real clock, which does not go back
  if event.instant < s.clock then none
  else
    match event.progress, s.calls event.id with
    | .call wallBefore, none =>
      some (s.withCall event (some (.issued (monotonic event.instant) wallBefore)))
    | .answer, some (.issued monotonicBefore wallBefore) =>
      some (s.withCall event
        (some (.answered monotonicBefore wallBefore (server event.instant))))
    | .check wallNow, some (.answered monotonicBefore wallBefore response) =>
      some ((s.withCall event none).finish monotonicBefore wallBefore response
        (monotonic event.instant) wallNow)
    | _, _ => none

end ServerTimeSystem

/-! ## Clocks -/

/-- The server's clock, exactly as it states the time. -/
def serverClock (server : ℚ → TimeResponse) (instant : ℚ) : ℚ := (server instant).time

/-- The local monotonic clock tracks real time as closely as readings up to `bound` can. -/
def TracksRealTime (monotonic : ℚ → ℚ) (bound : ℚ) : Prop :=
  ∀ earlier later, |monotonic earlier| ≤ bound → |monotonic later| ≤ bound →
    |monotonic later - monotonic earlier - (later - earlier)| ≤ bound / 2 ^ 51

/-- How far a clock may run ahead of real time so that the rail stays silent: the threshold,
    less what roundings at magnitudes up to `bound` add up to. -/
def tolerance (bound : ℚ) : ℚ := maxForwardJumpSeconds - bound / 2 ^ 48

/-- A clock that never steps backward and never gains more than `drift` on real time. -/
structure Steady (clock : ℚ → ℚ) (drift : ℚ) : Prop where
  mono : Monotone clock
  drift : ∀ earlier later, earlier ≤ later →
    clock later - clock earlier ≤ later - earlier + drift

/-- A steady clock that in addition jumps forward once: by `jump`, from the instants of
    `jumped` on. -/
structure JumpsOnce (clock : ℚ → ℚ) (drift : ℚ) (base : ℚ → ℚ) (jump : ℚ)
    (jumped : Set ℚ) : Prop where
  steady : Steady base drift
  nonneg : 0 ≤ jump
  upper : IsUpperSet jumped
  before : ∀ instant, instant ∉ jumped → clock instant = base instant
  after : ∀ instant, instant ∈ jumped → clock instant = base instant + jump

section Clocks

variable {clock base : ℚ → ℚ} {drift jump : ℚ} {jumped : Set ℚ}

theorem Steady.drift_nonneg (h_steady : Steady clock drift) : 0 ≤ drift := by
  have h_same := h_steady.drift 0 0 (le_refl 0)
  linarith

/-- A steady clock has not jumped yet. -/
theorem Steady.jumpsOnce (h_steady : Steady clock drift) :
    JumpsOnce clock drift clock 0 ∅ where
  steady := h_steady
  nonneg := le_refl 0
  upper := isUpperSet_empty
  before _ _ := rfl
  after _ h_mem := absurd h_mem (Set.notMem_empty _)

theorem JumpsOnce.mono (h_jumps : JumpsOnce clock drift base jump jumped) :
    Monotone clock := by
  intro earlier later h_le
  have h_base := h_jumps.steady.mono h_le
  have h_nonneg := h_jumps.nonneg
  by_cases h_later : later ∈ jumped
  · rw [h_jumps.after later h_later]
    by_cases h_earlier : earlier ∈ jumped
    · rw [h_jumps.after earlier h_earlier]
      linarith
    · rw [h_jumps.before earlier h_earlier]
      linarith
  · have h_earlier : earlier ∉ jumped := fun h_mem => h_later (h_jumps.upper h_le h_mem)
    rw [h_jumps.before later h_later, h_jumps.before earlier h_earlier]
    exact h_base

/-- Between two instants on the same side of the jump the clock is steady. -/
theorem JumpsOnce.sameSide (h_jumps : JumpsOnce clock drift base jump jumped)
    {earlier later : ℚ} (h_le : earlier ≤ later) (h_side : earlier ∈ jumped ↔ later ∈ jumped) :
    clock later - clock earlier ≤ later - earlier + drift := by
  have h_base := h_jumps.steady.drift earlier later h_le
  by_cases h_later : later ∈ jumped
  · rw [h_jumps.after later h_later, h_jumps.after earlier (h_side.mpr h_later)]
    linarith
  · rw [h_jumps.before later h_later, h_jumps.before earlier fun h => h_later (h_side.mp h)]
    exact h_base

variable {before sample before' sample' check margin : ℚ}

/-- A check that raises has the jump between the anchor's sample and its own. -/
theorem JumpsOnce.crosses (h_jumps : JumpsOnce clock drift base jump jumped)
    (h_anchor : before ≤ sample) (h_checked : before ≤ check) (h_sampled : sample' ≤ check)
    (h_margin : 0 ≤ margin)
    (h_raised : drift + margin < clock sample' - clock sample - (check - before)) :
    sample ∉ jumped ∧ sample' ∈ jumped := by
  have h_drift := h_jumps.steady.drift_nonneg
  have h_later : sample < sample' := by
    by_contra h_not
    have h_back := h_jumps.mono (not_lt.mp h_not)
    linarith
  have h_differ : ¬ (sample ∈ jumped ↔ sample' ∈ jumped) := by
    intro h_side
    have h_gain := h_jumps.sameSide h_later.le h_side
    linarith
  by_cases h_sample : sample ∈ jumped
  · exact absurd ⟨fun _ => h_jumps.upper h_later.le h_sample, fun _ => h_sample⟩ h_differ
  · refine ⟨h_sample, ?_⟩
    by_contra h_sample'
    exact h_differ ⟨fun h => absurd h h_sample, fun h => absurd h h_sample'⟩

/-- After a check that raised, every reading from before the jump is stale, by the margin. -/
theorem JumpsOnce.stale (h_jumps : JumpsOnce clock drift base jump jumped)
    (h_anchor : before ≤ sample) (h_checked : before ≤ check) (h_sampled : sample' ≤ check)
    (h_margin : 0 ≤ margin)
    (h_raised : drift + margin < clock sample' - clock sample - (check - before)) :
    ∀ instant, instant ∉ jumped → clock instant + margin < clock sample' := by
  obtain ⟨h_sample, h_sample'⟩ :=
    h_jumps.crosses h_anchor h_checked h_sampled h_margin h_raised
  have h_drift := h_jumps.steady.drift_nonneg
  intro instant h_instant
  have h_earlier : instant < sample' := by
    by_contra h_not
    exact h_instant (h_jumps.upper (not_lt.mp h_not) h_sample')
  rcases le_total sample instant with h_le | h_le
  · have h_gain := h_jumps.sameSide h_le
      ⟨fun h => absurd h h_sample, fun h => absurd h h_instant⟩
    linarith
  · have h_back := h_jumps.mono h_le
    linarith

end Clocks

/-! ## What the roundings add up to -/

section Rounding

variable {bound : ℚ}

/-- The sample of a parsed response, rounded twice. -/
theorem parse_error {response : TimeResponse} {serverTime : ℚ} (h_one : 1 ≤ bound)
    (h_parse : parseTimeResponse response = .ok serverTime) (h_bound : |response.time| ≤ bound) :
    |serverTime - response.time| ≤ 3 * (bound / 2 ^ 53) := by
  unfold parseTimeResponse at h_parse
  split at h_parse
  · cases h_parse
  · rename_i h_range
    cases h_parse
    obtain ⟨_, h_range⟩ := not_or.mp h_range
    obtain ⟨h_low, h_high⟩ := not_not.mp (not_or.mp h_range).2
    have h_low : (0 : ℚ) ≤ response.microseconds := by exact_mod_cast h_low
    have h_high : (response.microseconds : ℚ) < 1000000 := by exact_mod_cast h_high
    have h_fraction : |(response.microseconds : ℚ) / 1000000| ≤ 1 := by
      rw [abs_le]
      constructor
      · linarith only [h_low]
      · linarith only [h_high]
    have h_inner := abs_binary64_round_sub_le (le_refl 1) h_fraction
    obtain ⟨h_below, h_above⟩ := abs_le.mp h_inner
    have h_sum : |response.seconds + binary64.round (response.microseconds / 1000000)| ≤
        2 * bound := by
      obtain ⟨h_least, h_most⟩ := abs_le.mp h_bound
      unfold TimeResponse.time at h_least h_most
      rw [abs_le]
      constructor
      · linarith only [h_one, h_least, h_below]
      · linarith only [h_one, h_most, h_above]
    have h_outer := abs_binary64_round_sub_le (by linarith only [h_one]) h_sum
    obtain ⟨h_below', h_above'⟩ := abs_le.mp h_outer
    unfold TimeResponse.toFloat TimeResponse.time
    rw [abs_le]
    constructor
    · linarith only [h_one, h_below, h_below']
    · linarith only [h_one, h_above, h_above']

/-- Three more roundings make the excess. -/
theorem excess_error {serverTime lastServerTime now last : ℚ} (h_one : 1 ≤ bound)
    (h_server : |serverTime| ≤ 3 / 2 * bound) (h_anchor : |lastServerTime| ≤ 3 / 2 * bound)
    (h_now : |now| ≤ bound) (h_last : |last| ≤ bound) :
    |excess serverTime lastServerTime now last - (serverTime - lastServerTime - (now - last))| ≤
      11 * (bound / 2 ^ 53) := by
  have h_elapsed : |serverTime - lastServerTime| ≤ 3 * bound :=
    (abs_sub _ _).trans (by linarith only [h_server, h_anchor])
  have h_local : |now - last| ≤ 2 * bound :=
    (abs_sub _ _).trans (by linarith only [h_now, h_last])
  have h_first := abs_binary64_round_sub_le (by linarith only [h_one]) h_elapsed
  have h_second := abs_binary64_round_sub_le (by linarith only [h_one]) h_local
  have h_difference : |binary64.round (serverTime - lastServerTime) -
      binary64.round (now - last)| ≤ 6 * bound := by
    obtain ⟨h_low, h_high⟩ := abs_le.mp h_elapsed
    obtain ⟨h_low', h_high'⟩ := abs_le.mp h_local
    obtain ⟨h_below, h_above⟩ := abs_le.mp h_first
    obtain ⟨h_below', h_above'⟩ := abs_le.mp h_second
    rw [abs_le]
    constructor
    · linarith only [h_one, h_low, h_high', h_below, h_above']
    · linarith only [h_one, h_high, h_low', h_above, h_below']
  have h_third := abs_binary64_round_sub_le (by linarith only [h_one]) h_difference
  obtain ⟨h_below, h_above⟩ := abs_le.mp h_first
  obtain ⟨h_below', h_above'⟩ := abs_le.mp h_second
  obtain ⟨h_below'', h_above''⟩ := abs_le.mp h_third
  unfold excess
  rw [abs_le]
  constructor
  · linarith only [h_below, h_above', h_below'']
  · linarith only [h_above, h_below', h_above'']

end Rounding

/-! ## The rail -/

/-- Both clocks read at most `bound` at an instant. -/
structure InRange (server : ℚ → TimeResponse) (monotonic : ℚ → ℚ) (bound instant : ℚ) :
    Prop where
  monotonic : |monotonic instant| ≤ bound
  server : |serverClock server instant| ≤ bound

/-- The clocks of a run, as the rail relies on them. -/
structure ClocksWithin (server : ℚ → TimeResponse) (monotonic : ℚ → ℚ) (bound : ℚ)
    (events : List ServerTimeSystem.Event) : Prop where
  one_le : 1 ≤ bound
  tracks : TracksRealTime monotonic bound
  inRange : ∀ event ∈ events, InRange server monotonic bound event.instant

variable {server : ℚ → TimeResponse} {monotonic : ℚ → ℚ} {base : ℚ → ℚ} {bound jump : ℚ}
  {jumped : Set ℚ}

/-- A local reading made at an instant that is past. -/
def ReadBefore (server : ℚ → TimeResponse) (monotonic : ℚ → ℚ)
    (bound monotonicBefore now : ℚ) : Prop :=
  ∃ instant, instant ≤ now ∧ InRange server monotonic bound instant ∧
    monotonicBefore = monotonic instant

/-- A response of the server with a local reading made before it. -/
def Sampled (server : ℚ → TimeResponse) (monotonic : ℚ → ℚ) (bound monotonicBefore : ℚ)
    (response : TimeResponse) (now : ℚ) : Prop :=
  ∃ before sample, before ≤ sample ∧ sample ≤ now ∧ InRange server monotonic bound before ∧
    InRange server monotonic bound sample ∧ monotonicBefore = monotonic before ∧
    response = server sample

theorem Sampled.later {monotonicBefore now now' : ℚ} {response : TimeResponse}
    (h_sampled : Sampled server monotonic bound monotonicBefore response now)
    (h_le : now ≤ now') : Sampled server monotonic bound monotonicBefore response now' := by
  obtain ⟨before, sample, h_order, h_now, h_read⟩ := h_sampled
  exact ⟨before, sample, h_order, h_now.trans h_le, h_read⟩

/-- What is known of a call in flight. -/
def ServerTimeCall.Timed (server : ℚ → TimeResponse) (monotonic : ℚ → ℚ) (bound now : ℚ) :
    ServerTimeCall → Prop
  | .issued monotonicBefore _ => ReadBefore server monotonic bound monotonicBefore now
  | .answered monotonicBefore _ response =>
    Sampled server monotonic bound monotonicBefore response now

theorem ServerTimeCall.Timed.later {call : ServerTimeCall} {now now' : ℚ}
    (h_timed : call.Timed server monotonic bound now) (h_le : now ≤ now') :
    call.Timed server monotonic bound now' := by
  cases call with
  | issued monotonicBefore wallBefore =>
    obtain ⟨instant, h_instant, h_read⟩ := h_timed
    exact ⟨instant, h_instant.trans h_le, h_read⟩
  | answered monotonicBefore wallBefore response => exact Sampled.later h_timed h_le

/-- An anchor that the run has sampled and parsed. -/
def ClientClockState.Anchored (server : ℚ → TimeResponse) (monotonic : ℚ → ℚ) (bound now : ℚ)
    (state : ClientClockState) : Prop :=
  ∃ response, Sampled server monotonic bound state.lastMonotonic response now ∧
    parseTimeResponse response = .ok state.lastServerTime

/-- What a parsed sample is worth as a float. -/
theorem InRange.sample_error {sample serverTime : ℚ} (h_one : 1 ≤ bound)
    (h_range : InRange server monotonic bound sample)
    (h_parse : parseTimeResponse (server sample) = .ok serverTime) :
    |serverTime - serverClock server sample| ≤ 3 * (bound / 2 ^ 53) :=
  parse_error h_one h_parse h_range.server

theorem InRange.sample_bound {sample serverTime : ℚ} (h_one : 1 ≤ bound)
    (h_range : InRange server monotonic bound sample)
    (h_parse : parseTimeResponse (server sample) = .ok serverTime) :
    |serverTime| ≤ 3 / 2 * bound := by
  have h_error := h_range.sample_error h_one h_parse
  have h_bound := h_range.server
  rw [abs_le] at h_error h_bound ⊢
  constructor
  · linarith
  · linarith

/-- A check that raises measured an advance past the tolerance, with a margin that pays for
    the rounding of any other sample. -/
theorem TracksRealTime.advance (h_tracks : TracksRealTime monotonic bound) (h_one : 1 ≤ bound)
    {before sample sample' check lastServerTime serverTime : ℚ}
    (h_before : InRange server monotonic bound before)
    (h_sample : InRange server monotonic bound sample)
    (h_sample' : InRange server monotonic bound sample')
    (h_check : InRange server monotonic bound check)
    (h_anchor : parseTimeResponse (server sample) = .ok lastServerTime)
    (h_parse : parseTimeResponse (server sample') = .ok serverTime)
    (h_raised : maxForwardJumpSeconds <
      excess serverTime lastServerTime (monotonic check) (monotonic before)) :
    tolerance bound + 11 * (bound / 2 ^ 53) <
      serverClock server sample' - serverClock server sample - (check - before) := by
  have h_last := h_sample.sample_error h_one h_anchor
  have h_time := h_sample'.sample_error h_one h_parse
  have h_local := h_tracks before check h_before.monotonic h_check.monotonic
  have h_excess := excess_error h_one (h_sample'.sample_bound h_one h_parse)
    (h_sample.sample_bound h_one h_anchor) h_check.monotonic h_before.monotonic
  unfold tolerance
  rw [abs_le] at h_last h_time h_local h_excess
  linarith

/-- The invariant of the rail: the anchor is a sample with a local reading made before it,
    and once a check has raised, whatever was sampled before the jump is stale. -/
structure RailSound (server : ℚ → TimeResponse) (monotonic : ℚ → ℚ) (bound : ℚ)
    (jumped : Set ℚ) (s : ServerTimeSystem) : Prop where
  calls : ∀ id call, s.calls id = some call → call.Timed server monotonic bound s.clock
  anchor : ∀ state, s.client = some state → state.Anchored server monotonic bound s.clock
  raised : s.raised = 0 ∨ (s.raised = 1 ∧ jumped.Nonempty ∧ ∃ state, s.client = some state ∧
    ∀ instant, instant ∉ jumped →
      serverClock server instant + 8 * (bound / 2 ^ 53) < state.lastServerTime)

namespace ServerTimeSystem

variable {s s' : ServerTimeSystem} {event : Event}

theorem init_railSound (clock : ℚ) :
    RailSound server monotonic bound jumped (init clock) where
  calls _ _ h_call := by cases h_call
  anchor _ h_state := by cases h_state
  raised := .inl rfl

/-- A call enters or leaves its place; the anchor stays. -/
theorem withCall_railSound (h_sound : RailSound server monotonic bound jumped s)
    (h_time : s.clock ≤ event.instant) {call : Option ServerTimeCall}
    (h_call : ∀ c, call = some c → c.Timed server monotonic bound event.instant) :
    RailSound server monotonic bound jumped (s.withCall event call) where
  calls id c h_some := by
    have h_some : Function.update s.calls event.id call id = some c := h_some
    by_cases h_id : id = event.id
    · rw [h_id, Function.update_self] at h_some
      exact h_call c h_some
    · rw [Function.update_of_ne h_id] at h_some
      exact (h_sound.calls id c h_some).later h_time
  anchor state h_state := by
    obtain ⟨response, h_sampled, h_parse⟩ := h_sound.anchor state h_state
    exact ⟨response, h_sampled.later h_time, h_parse⟩
  raised := h_sound.raised

/-- The check of a sampled reading keeps the invariant. -/
theorem finish_railSound
    (h_jumps : JumpsOnce (serverClock server) (tolerance bound) base jump jumped)
    (h_one : 1 ≤ bound) (h_tracks : TracksRealTime monotonic bound)
    (h_sound : RailSound server monotonic bound jumped s)
    (h_now : InRange server monotonic bound s.clock)
    {monotonicBefore : ℚ} {response : TimeResponse}
    (h_sampled : Sampled server monotonic bound monotonicBefore response s.clock)
    (wallBefore wallNow : ℚ) :
    RailSound server monotonic bound jumped
      (s.finish monotonicBefore wallBefore response (monotonic s.clock) wallNow) := by
  unfold ServerTimeSystem.finish
  cases h_parse : parseTimeResponse response with
  | error error => exact h_sound
  | ok serverTime =>
    dsimp only
    obtain ⟨result, state, h_check⟩ : ∃ result state, checkForwardJump s.client
        serverTime monotonicBefore wallBefore (monotonic s.clock) wallNow =
          (result, state) := ⟨_, _, rfl⟩
    rw [h_check]
    dsimp only
    obtain ⟨h_client, rfl, h_server, h_local⟩ | ⟨anchor, h_client, h_stale | h_moved⟩ :=
      checkForwardJump_cases h_check
    · -- the first reading of the client
      rw [if_pos rfl]
      refine ⟨h_sound.calls, ?_, ?_⟩
      · intro state' h_state'
        cases h_state'
        refine ⟨response, ?_, ?_⟩
        · rw [h_local]
          exact h_sampled
        · rw [h_server]
          exact h_parse
      · refine .inl (h_sound.raised.resolve_right ?_)
        rintro ⟨_, _, state', h_state', _⟩
        rw [h_client] at h_state'
        cases h_state'
    · -- a stale reading leaves the anchor where it is
      obtain ⟨_, rfl, h_server, h_local⟩ := h_stale
      rw [if_pos rfl]
      refine ⟨h_sound.calls, ?_, ?_⟩
      · intro state' h_state'
        cases h_state'
        unfold ClientClockState.Anchored
        rw [h_server, h_local]
        exact h_sound.anchor anchor h_client
      · refine h_sound.raised.imp_right ?_
        rintro ⟨h_raised, h_jumped, state', h_state', h_behind⟩
        rw [h_client] at h_state'
        cases h_state'
        refine ⟨h_raised, h_jumped, state, rfl, fun instant h_instant => ?_⟩
        rw [h_server]
        exact h_behind instant h_instant
    · obtain ⟨h_le, h_server, h_local, h_excess⟩ := h_moved
      refine ⟨h_sound.calls, ?_, ?_⟩
      · intro state' h_state'
        cases h_state'
        refine ⟨response, ?_, ?_⟩
        · rw [h_local]
          exact h_sampled
        · rw [h_server]
          exact h_parse
      · by_cases h_ok : result = .ok ()
        · rw [if_pos h_ok]
          refine h_sound.raised.imp_right ?_
          rintro ⟨h_raised, h_jumped, state', h_state', h_behind⟩
          rw [h_client] at h_state'
          cases h_state'
          refine ⟨h_raised, h_jumped, state, rfl, fun instant h_instant => ?_⟩
          rw [h_server]
          exact (h_behind instant h_instant).trans_le h_le
        · -- the two samples are on the two sides of the jump
          obtain ⟨_, ⟨before, sample, h_order, h_sample, h_first, h_second, h_before, rfl⟩,
            h_anchor⟩ := h_sound.anchor anchor h_client
          obtain ⟨_, sample', _, h_sample', _, h_third, _, rfl⟩ := h_sampled
          have h_gap := h_excess h_ok
          rw [h_before] at h_gap
          have h_advance := h_tracks.advance h_one h_first h_second h_third h_now h_anchor
            h_parse h_gap
          have h_margin : 0 ≤ 11 * (bound / 2 ^ 53) := by positivity
          have h_checked : before ≤ s.clock := h_order.trans h_sample
          obtain ⟨h_outside, h_inside⟩ :=
            h_jumps.crosses h_order h_checked h_sample' h_margin h_advance
          have h_none : s.raised = 0 := by
            refine h_sound.raised.resolve_right ?_
            rintro ⟨_, _, state', h_state', h_behind⟩
            rw [h_client] at h_state'
            cases h_state'
            have h_past := h_behind sample h_outside
            have h_error := (abs_le.mp (h_second.sample_error h_one h_anchor)).2
            linarith
          rw [if_neg h_ok, h_none]
          refine .inr ⟨rfl, ⟨sample', h_inside⟩, state, rfl, fun instant h_instant => ?_⟩
          have h_stale :=
            h_jumps.stale h_order h_checked h_sample' h_margin h_advance instant h_instant
          have h_error := (abs_le.mp (h_third.sample_error h_one h_parse)).1
          rw [h_server]
          linarith

theorem step_railSound
    (h_jumps : JumpsOnce (serverClock server) (tolerance bound) base jump jumped)
    (h_one : 1 ≤ bound) (h_tracks : TracksRealTime monotonic bound)
    (h_range : InRange server monotonic bound event.instant)
    (h_sound : RailSound server monotonic bound jumped s)
    (h_step : Steps (step server monotonic) s event s') :
    RailSound server monotonic bound jumped s' := by
  unfold Steps step at h_step
  split at h_step
  · cases h_step
  · rename_i h_instant
    have h_time : s.clock ≤ event.instant := not_lt.mp h_instant
    split at h_step
    · -- the call reads the local clocks
      cases h_step
      apply withCall_railSound h_sound h_time
      rintro _ ⟨⟩
      exact ⟨event.instant, le_refl _, h_range, rfl⟩
    · -- the server answers
      rename_i monotonicBefore wallBefore _ h_call
      cases h_step
      apply withCall_railSound h_sound h_time
      rintro _ ⟨⟩
      obtain ⟨before, h_before, h_read⟩ := h_sound.calls _ _ h_call
      exact ⟨before, event.instant, h_before.trans h_time, le_refl _, h_read.1, h_range,
        h_read.2, rfl⟩
    · -- the answer is checked
      rename_i wallNow monotonicBefore wallBefore response _ h_call
      cases h_step
      have h_sampled := Sampled.later (h_sound.calls _ _ h_call) h_time
      have h_left : RailSound server monotonic bound jumped (s.withCall event none) := by
        apply withCall_railSound h_sound h_time
        rintro _ ⟨⟩
      exact finish_railSound h_jumps h_one h_tracks h_left h_range h_sampled wallBefore wallNow
    · cases h_step

theorem finish_anchor_mono {monotonicBefore wallBefore nowMonotonic wallNow : ℚ}
    {response : TimeResponse} {anchor : ClientClockState} (h_client : s.client = some anchor) :
    ∃ anchor', (s.finish monotonicBefore wallBefore response nowMonotonic wallNow).client =
      some anchor' ∧ anchor.lastServerTime ≤ anchor'.lastServerTime := by
  unfold ServerTimeSystem.finish
  cases h_parse : parseTimeResponse response with
  | error error => exact ⟨anchor, h_client, le_refl _⟩
  | ok serverTime =>
    rw [h_client]
    exact ⟨_, rfl, checkForwardJump_mono rfl⟩

theorem step_anchor_mono {anchor : ClientClockState}
    (h_step : Steps (step server monotonic) s event s') (h_client : s.client = some anchor) :
    ∃ anchor', s'.client = some anchor' ∧ anchor.lastServerTime ≤ anchor'.lastServerTime := by
  unfold Steps step at h_step
  split at h_step
  · cases h_step
  · split at h_step
    · cases h_step
      exact ⟨anchor, h_client, le_refl _⟩
    · cases h_step
      exact ⟨anchor, h_client, le_refl _⟩
    · cases h_step
      exact finish_anchor_mono h_client
    · cases h_step

theorem run_anchor_mono {anchor : ClientClockState} {events : List Event}
    (h_run : Run (Steps (step server monotonic)) s events s')
    (h_client : s.client = some anchor) :
    ∃ anchor', s'.client = some anchor' ∧ anchor.lastServerTime ≤ anchor'.lastServerTime := by
  induction h_run generalizing anchor with
  | nil => exact ⟨anchor, h_client, le_refl _⟩
  | cons h_step _ ih =>
    obtain ⟨between, h_between, h_le⟩ := step_anchor_mono h_step h_client
    obtain ⟨anchor', h_anchor', h_le'⟩ := ih h_between
    exact ⟨anchor', h_anchor', h_le.trans h_le'⟩

theorem run_railSound {events : List Event}
    (h_jumps : JumpsOnce (serverClock server) (tolerance bound) base jump jumped)
    (h_clocks : ClocksWithin server monotonic bound events)
    (h_run : Run (Steps (step server monotonic)) s events s')
    (h_sound : RailSound server monotonic bound jumped s) :
    RailSound server monotonic bound jumped s' := by
  obtain ⟨h_one, h_tracks, h_range⟩ := h_clocks
  induction h_run with
  | nil => exact h_sound
  | cons h_step _ ih =>
    have h_moved := step_railSound h_jumps h_one h_tracks
      (h_range _ List.mem_cons_self) h_sound h_step
    exact ih h_moved fun event h_event => h_range event (List.mem_cons_of_mem _ h_event)

/-- Within the tolerance the rail raises no false alarm and reports a jump at most once; it
    never moves its anchor back, whatever the clocks read and in whatever order the checks
    happen. -/
theorem run_rail {clock : ℚ} {events : List Event}
    (h_run : Run (Steps (step server monotonic)) (init clock) events s) :
    (∀ bound, ClocksWithin server monotonic bound events →
        (Steady (serverClock server) (tolerance bound) → s.raised = 0) ∧
          ∀ base jump jumped,
            JumpsOnce (serverClock server) (tolerance bound) base jump jumped → s.raised ≤ 1) ∧
      ∀ more s', Run (Steps (step server monotonic)) s more s' →
        ∀ anchor, s.client = some anchor →
          ∃ anchor', s'.client = some anchor' ∧
            anchor.lastServerTime ≤ anchor'.lastServerTime := by
  refine ⟨fun bound h_clocks => ⟨fun h_steady => ?_, fun base jump jumped h_jumps => ?_⟩,
    fun more s' h_more anchor h_client => run_anchor_mono h_more h_client⟩
  · have h_sound := run_railSound h_steady.jumpsOnce h_clocks h_run (init_railSound clock)
    apply h_sound.raised.resolve_right
    rintro ⟨_, h_jumped, _⟩
    exact Set.not_nonempty_empty h_jumped
  · have h_sound := run_railSound h_jumps h_clocks h_run (init_railSound clock)
    obtain h_none | ⟨h_one, _⟩ := h_sound.raised
    · omega
    · omega

/-- A server whose clock stands still until instant 5 and then reads `seconds`. -/
def leapingServer (seconds : ℤ) (instant : ℚ) : TimeResponse :=
  if instant < 5 then ⟨100, 0⟩ else ⟨seconds, 0⟩

theorem leapingServer_jumpsOnce {seconds : ℤ} {drift : ℚ} (h_forward : 100 ≤ seconds)
    (h_drift : 0 ≤ drift) :
    JumpsOnce (serverClock (leapingServer seconds)) drift (fun _ => 100) (seconds - 100)
      (Set.Ici 5) where
  steady :=
    { mono := fun _ _ _ => le_refl _
      drift := fun earlier later h_le => by linarith }
  nonneg := by
    have h_cast : (100 : ℚ) ≤ seconds := by exact_mod_cast h_forward
    linarith
  upper := isUpperSet_Ici 5
  before instant h_before := by
    have h_lt : instant < 5 := not_le.mp h_before
    unfold serverClock leapingServer
    rw [if_pos h_lt]
    norm_num [TimeResponse.time]
  after instant h_after := by
    have h_le : ¬ instant < 5 := not_lt.mpr h_after
    unfold serverClock leapingServer
    rw [if_neg h_le]
    simp [TimeResponse.time]

theorem identity_tracksRealTime (h_bound : 0 ≤ bound) :
    TracksRealTime (fun instant => instant) bound := by
  intro earlier later _ _
  rw [sub_self, abs_zero]
  positivity

/-- Three overlapping readings: the last to be answered is checked before the second, and the
    wall clock reads anything. -/
def overlappingReadings : List Event :=
  [⟨0, 0, .call 0⟩, ⟨1, 0, .answer⟩, ⟨2, 0, .check 50⟩, ⟨3, 1, .call 7⟩, ⟨3, 2, .call 0⟩,
    ⟨4, 1, .answer⟩, ⟨6, 2, .answer⟩, ⟨7, 2, .check 0⟩, ⟨8, 1, .check 900⟩]

theorem overlappingReadings_clocks {seconds : ℤ} (h_forward : 100 ≤ seconds)
    (h_bound : seconds ≤ 1000) :
    ClocksWithin (leapingServer seconds) (fun instant => instant) 1000 overlappingReadings where
  one_le := by norm_num
  tracks := identity_tracksRealTime (by norm_num)
  inRange event h_event := by
    have h_low : (100 : ℚ) ≤ seconds := by exact_mod_cast h_forward
    have h_high : (seconds : ℚ) ≤ 1000 := by exact_mod_cast h_bound
    constructor
    · have h_all : ∀ event ∈ overlappingReadings, |event.instant| ≤ 1000 := by
        norm_num [overlappingReadings]
      exact h_all event h_event
    · unfold serverClock leapingServer
      split
      · norm_num [TimeResponse.time]
      · show |(seconds : ℚ) + (0 : ℤ) / 1000000| ≤ 1000
        rw [abs_le]
        constructor
        · norm_num
          linarith
        · norm_num
          exact h_high

/-- Under a jump of 900 seconds one of the readings raises; without the jump, none. -/
theorem run_rail_overlappingReadings :
    (∃ s, Run (Steps (step (leapingServer 100) fun instant => instant)) (init 0)
        overlappingReadings s ∧ s.raised = 0) ∧
      ∃ s, Run (Steps (step (leapingServer 1000) fun instant => instant)) (init 0)
        overlappingReadings s ∧ s.raised = 1 ∧ s.raised ≤ 1 := by
  obtain ⟨s, h_run, _⟩ : ∃ s, Run (Steps (step (leapingServer 100) fun instant => instant))
      (init 0) overlappingReadings s ∧ s.clock = 8 := exists_run_of_exec (by decide +kernel)
  obtain ⟨s', h_run', h_raised⟩ : ∃ s', Run (Steps (step (leapingServer 1000)
      fun instant => instant)) (init 0) overlappingReadings s' ∧ s'.raised = 1 :=
    exists_run_of_exec (by decide +kernel)
  have h_drift : 0 ≤ tolerance 1000 := by norm_num [tolerance, maxForwardJumpSeconds]
  have h_still : Steady (serverClock (leapingServer 100)) (tolerance 1000) := by
    have h_constant : serverClock (leapingServer 100) = fun _ => 100 := by
      funext instant
      unfold serverClock leapingServer
      rw [ite_self]
      norm_num [TimeResponse.time]
    rw [h_constant]
    exact (leapingServer_jumpsOnce (le_refl 100) h_drift).steady
  have h_clocks := overlappingReadings_clocks (le_refl 100) (by omega)
  have h_clocks' := overlappingReadings_clocks (by omega) (le_refl 1000)
  exact ⟨⟨s, h_run, ((run_rail h_run).1 1000 h_clocks).1 h_still⟩, s', h_run', h_raised,
    ((run_rail h_run').1 1000 h_clocks').2 _ _ _
      (leapingServer_jumpsOnce (by omega) h_drift)⟩

/-! ## A clock that uses the whole threshold -/

/-- A server whose clock is set forward by ten seconds after instant 1000 and then shows no
    progress for two tenths of a second. -/
def coarseServer (instant : ℚ) : TimeResponse :=
  if instant ≤ 1000 then ⟨1700000000, 0⟩
  else if instant < 1000 + 1 / 5 then ⟨1700000010, 0⟩
  else ⟨1700000010, 200000⟩

theorem coarseServer_clock (instant : ℚ) : serverClock coarseServer instant =
    if instant ≤ 1000 then 1700000000
    else if instant < 1000 + 1 / 5 then 1700000010
    else 1700000010 + 1 / 5 := by
  unfold serverClock coarseServer
  split
  · norm_num [TimeResponse.time]
  · split <;> norm_num [TimeResponse.time]

theorem coarseServer_steady : Steady (serverClock coarseServer) maxForwardJumpSeconds where
  mono earlier later h_le := by
    rw [coarseServer_clock, coarseServer_clock]
    split_ifs <;> linarith
  drift earlier later h_le := by
    rw [coarseServer_clock, coarseServer_clock]
    unfold maxForwardJumpSeconds
    split_ifs <;> linarith

/-- Two readings one after the other; every local reading is a double, and the wall clock
    agrees with the monotonic one. -/
def coarseReadings : List Event :=
  [⟨1000, 0, .call 1000⟩, ⟨1000, 0, .answer⟩, ⟨1000, 0, .check 1000⟩,
    ⟨1000 + 1 / 8, 1, .call (1000 + 1 / 8)⟩, ⟨1000 + 1 / 5, 1, .answer⟩,
    ⟨1000 + 214748365 / 2 ^ 30, 1, .check (1000 + 214748365 / 2 ^ 30)⟩]

/-- The server's clock never gains more than the threshold on real time, the local clock is
    real time, and a check raises: 1700000010.2 is a little more as a double. -/
theorem run_raises_rounded :
    Steady (serverClock coarseServer) maxForwardJumpSeconds ∧
      ∃ s, Run (Steps (step coarseServer fun instant => instant)) (init 1000) coarseReadings s ∧
        s.raised = 1 :=
  ⟨coarseServer_steady, exists_run_of_exec (by decide +kernel)⟩

end ServerTimeSystem

end TokenThrottle
