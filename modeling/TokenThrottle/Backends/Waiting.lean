/-
  TokenThrottle.Backends.Waiting

  `_compute_sleep` of the three backends: how long a waiter sleeps after an attempt that
  was denied, before jitter and clamping.

  * `longestWait` is the loop the three share, over the buckets of the capacities that the
    attempt returned; each backend looks a bucket's rate up in its own way.
  * `computeSleep_earliest`: if every bucket grows at its rate, the sleep ends exactly when
    the usage first fits.
  * `attempt_sleepEnds`, `tryConsume_sleepEnds` and `check_sleepEnds` put this on top of the
    backends' next attempts.
-/
import TokenThrottle.Memory.Steps
import TokenThrottle.Sqlite.LaterAttempt
import TokenThrottle.Redis.LaterAttempt
import TokenThrottle.Backends.LimitChanges

namespace TokenThrottle

open Theory (Program)
open Theory.Program
open Theory.Accrual (Grows)

/-! ## The sleep -/

/-- The longest of `max_wait` and the waits of the buckets that are short. -/
def longestWait (needed : BucketId → Option ℚ) (capacities : Capacities)
    (rateOf : BucketId → Except BackendError ℚ) : List BucketId → ℚ → Except BackendError ℚ
  | [], maxWait => .ok maxWait
  | id :: ids, maxWait =>
    match needed id with
    | none => longestWait needed capacities rateOf ids maxWait
    | some amount =>
      let deficit := amount - capacities id
      if deficit ≤ 0 then longestWait needed capacities rateOf ids maxWait
      else do
        let ratePerSec ← rateOf id
        if ratePerSec ≤ 0 then .error (.valueError .rateNotPositive)
        else longestWait needed capacities rateOf ids (max maxWait (deficit / ratePerSec))

/-- The longest wait, or the poll interval where no bucket is short. -/
def computeSleep (needed : BucketId → Option ℚ) (capacities : Capacities)
    (rateOf : BucketId → Except BackendError ℚ) (ids : List BucketId) (sleepInterval : ℚ) :
    Except BackendError ℚ := do
  let maxWait ← longestWait needed capacities rateOf ids 0
  return if 0 < maxWait then maxWait else sleepInterval

/-- `_compute_sleep` of `MemoryBackend`; `ids` are the keys of `preconsumption`. -/
def MemoryBackend.computeSleep (s : MemoryBackend) (usage : FrozenUsage)
    (preconsumption : Capacities) (ids : List BucketId) (sleepInterval : ℚ) :
    Except BackendError ℚ :=
  TokenThrottle.computeSleep (fun id => usage.lookup id.metric) preconsumption
    (fun id =>
      if id ∈ s.buckets then .ok (s.bucket id).ratePerSec
      else .error (.valueError .bucketNotFound))
    ids sleepInterval

/-- `_compute_sleep` of `SqliteBackend`: a metric that the usage lacks counts as 0. -/
def SqliteEngine.computeSleep (usage : FrozenUsage) (capacities maxCapacities : Capacities)
    (ids : List BucketId) (sleepInterval : ℚ) : Except BackendError ℚ :=
  TokenThrottle.computeSleep (fun id => some (usage.amount id.metric)) capacities
    (fun id => .ok (maxCapacities id / id.window)) ids sleepInterval

/-- `_compute_sleep` of `RedisBackend`, over the buckets of the attempt. -/
def RedisClient.computeSleep (client : RedisClient) (usage : FrozenUsage)
    (preconsumption : Capacities) (ids : List BucketId) (buckets : List BucketKey)
    (sleepInterval : ℚ) : Except BackendError ℚ :=
  TokenThrottle.computeSleep (fun id => usage.lookup id.metric) preconsumption
    (fun id =>
      match buckets.find? (·.id = id) with
      | none => .error (.valueError .bucketNotFound)
      | some key => .ok (calculateRatePerSec (client.maxCapacity key.id) key.id))
    ids sleepInterval

/-! ## The earliest time -/

section Earliest

variable {needed : BucketId → Option ℚ} {capacities : Capacities}
  {rateOf : BucketId → Except BackendError ℚ} {rate : BucketId → ℚ} {ids : List BucketId}

/-- The longest wait is over as soon as every bucket's own is. -/
theorem longestWait_le_iff
    (h_rate : ∀ id ∈ ids, rateOf id = .ok (rate id) ∧ 0 < rate id) (maxWait : ℚ) :
    ∃ longest, longestWait needed capacities rateOf ids maxWait = .ok longest ∧
      ∀ wait, 0 ≤ wait → (longest ≤ wait ↔ maxWait ≤ wait ∧
        ∀ id ∈ ids, ∀ amount, needed id = some amount →
          (amount - capacities id) / rate id ≤ wait) := by
  induction ids generalizing maxWait with
  | nil => exact ⟨maxWait, rfl, fun wait _ => by simp⟩
  | cons id ids ih =>
    obtain ⟨h_found, h_pos⟩ := h_rate id List.mem_cons_self
    have h_rest := fun maxWait => ih (fun id h_mem => h_rate id (List.mem_cons_of_mem _ h_mem))
      maxWait
    unfold longestWait
    simp only [List.forall_mem_cons]
    cases h_needed : needed id with
    | none =>
      obtain ⟨longest, h_ok, h_longest⟩ := h_rest maxWait
      refine ⟨longest, h_ok, fun wait h_wait => ?_⟩
      rw [h_longest wait h_wait]
      simp
    | some amount =>
      dsimp only
      by_cases h_deficit : amount - capacities id ≤ 0
      · -- a bucket that is not short adds no wait
        rw [if_pos h_deficit]
        obtain ⟨longest, h_ok, h_longest⟩ := h_rest maxWait
        refine ⟨longest, h_ok, fun wait h_wait => ?_⟩
        have h_none : (amount - capacities id) / rate id ≤ wait :=
          (div_nonpos_of_nonpos_of_nonneg h_deficit h_pos.le).trans h_wait
        rw [h_longest wait h_wait]
        simp [h_none]
      · rw [if_neg h_deficit, h_found]
        show ∃ longest, (if rate id ≤ 0 then _ else _) = _ ∧ _
        rw [if_neg (not_le.mpr h_pos)]
        obtain ⟨longest, h_ok, h_longest⟩ :=
          h_rest (max maxWait ((amount - capacities id) / rate id))
        refine ⟨longest, h_ok, fun wait h_wait => ?_⟩
        rw [h_longest wait h_wait, max_le_iff, and_assoc]
        simp

/-- Where a bucket is short and every bucket grows at its rate, the sleep ends exactly when
    the buckets hold what is needed. -/
theorem computeSleep_earliest {limit : BucketId → ℚ} (sleepInterval : ℚ)
    (h_rate : ∀ id ∈ ids, rateOf id = .ok (rate id) ∧ 0 < rate id)
    (h_limit : ∀ id ∈ ids, ∀ amount, needed id = some amount → amount ≤ limit id)
    (h_short : ∃ id ∈ ids, ∃ amount, needed id = some amount ∧ capacities id < amount) :
    ∃ sleep, computeSleep needed capacities rateOf ids sleepInterval = .ok sleep ∧
      ∀ wait, 0 ≤ wait → ∀ later : Capacities,
        (∀ id ∈ ids, Grows (limit id) (rate id) wait (capacities id) (later id)) →
        (sleep ≤ wait ↔
          ∀ id ∈ ids, ∀ amount, needed id = some amount → amount ≤ later id) := by
  obtain ⟨longest, h_ok, h_longest⟩ :=
    @longestWait_le_iff needed capacities rateOf rate ids h_rate 0
  have h_positive : 0 < longest := by
    obtain ⟨id, h_mem, amount, h_needed, h_lt⟩ := h_short
    by_contra h_le
    have h_wait := ((h_longest 0 le_rfl).mp (not_lt.mp h_le)).2 id h_mem amount h_needed
    have h_quotient := div_pos (sub_pos.mpr h_lt) (h_rate id h_mem).2
    linarith
  refine ⟨longest, ?_, fun wait h_wait later h_grows => ?_⟩
  · unfold computeSleep
    rw [h_ok]
    show Except.ok (if 0 < longest then longest else sleepInterval) = _
    rw [if_pos h_positive]
  · rw [h_longest wait h_wait, and_iff_right h_wait]
    refine forall₂_congr fun id h_mem => forall₂_congr fun amount h_needed => ?_
    exact ((h_grows id h_mem).reaches_iff (h_rate id h_mem).2 (h_limit id h_mem amount h_needed)
      h_wait).symm

end Earliest

/-! ## Memory -/

namespace MemoryBackend

variable {s s' : MemoryBackend} {usage : FrozenUsage} {reservationId : Option ReservationId}
  {currentTime : ℚ}

/-- An attempt is short of capacity on the capacities it has read, and changes nothing. -/
theorem attempt_unavailable
    (h_denied : s.attempt usage reservationId currentTime = .ok (.unavailable, s')) :
    s' = s ∧ s.isReplayed reservationId usage = .ok false ∧
      usage.keys ⊆ s.usageMetricNames ∧ usageExceeds usage s.maxCapacity s.buckets = false ∧
      ∃ capacities, s.getCapacities currentTime = .ok capacities ∧
        usageExceeds usage capacities s.buckets = true := by
  obtain ⟨replayed, h_replayed, h_denied⟩ := bind_eq_ok h_denied
  cases replayed with
  | true => cases h_denied
  | false =>
    obtain ⟨capacities, h_read, h_denied⟩ := bind_eq_ok h_denied
    obtain ⟨post, h_post, h_denied⟩ := bind_eq_ok h_denied
    cases post with
    | some post => cases h_denied
    | none =>
      cases h_denied
      unfold tryConsumeLocked at h_post
      split at h_post
      · cases h_post
      · rename_i h_keys
        split at h_post
        · cases h_post
        · rename_i h_limit
          split at h_post
          · rename_i h_short
            exact ⟨rfl, h_replayed, not_not.mp h_keys, by simpa using h_limit, capacities, h_read,
              h_short⟩
          · cases h_post

/-- The attempt after a denied one is admitted exactly if the capacities cover the usage. -/
theorem attempt_consumed_iff (h_time : 0 ≤ currentTime)
    (h_replayed : s.isReplayed reservationId usage = .ok false)
    (h_keys : usage.keys ⊆ s.usageMetricNames)
    (h_limit : usageExceeds usage s.maxCapacity s.buckets = false) :
    (∃ s'', s.attempt usage reservationId currentTime = .ok (.consumed, s'')) ↔
      usageExceeds usage (s.capacityAt currentTime) s.buckets = false := by
  have h_read := s.getCapacities_ok h_time
  have h_same : usageExceeds usage (fun id => if id ∈ s.buckets then s.capacityAt currentTime id
      else default) s.buckets = usageExceeds usage (s.capacityAt currentTime) s.buckets :=
    usageExceeds_congr fun id h_mem => if_pos h_mem
  unfold attempt tryConsumeLocked
  rw [h_replayed, h_read]
  simp only [bind, Except.bind, Bool.false_eq_true, if_false, not_not.mpr h_keys, h_limit, h_same]
  cases usageExceeds usage (s.capacityAt currentTime) s.buckets with
  | true => simp [pure, Except.pure]
  | false => simp [pure, Except.pure]

/-- The waiter of a denied attempt sleeps until exactly when the next is admitted. -/
theorem attempt_sleepEnds (sleepInterval : ℚ)
    (h_denied : s.attempt usage reservationId currentTime = .ok (.unavailable, s'))
    (h_past : ∀ id ∈ s.buckets, ∀ last, (s.bucket id).lastChecked = some last →
      last ≤ currentTime) :
    ∃ capacities sleep, s.getCapacities currentTime = .ok capacities ∧
      s'.computeSleep usage capacities s.buckets sleepInterval = .ok sleep ∧
      ∀ wait, 0 ≤ wait →
        ((∃ s'', s'.attempt usage reservationId (currentTime + wait) = .ok (.consumed, s'')) ↔
          sleep ≤ wait) := by
  obtain ⟨rfl, h_replayed, h_keys, h_limit, capacities, h_read, h_short⟩ :=
    attempt_unavailable h_denied
  have h_short := usageExceeds_eq_true_iff_lookup.mp h_short
  have h_time : 0 ≤ currentTime := by
    by_contra h_negative
    have h_error : s'.getCapacities currentTime = .error (.valueError .currentTimeNegative) := by
      obtain ⟨short, h_mem, _⟩ := h_short
      apply collect_error (List.ne_nil_of_mem h_mem)
      intro id _
      rw [(s'.bucket id).getCapacity_negative (not_le.mp h_negative)]
      rfl
    rw [h_error] at h_read
    cases h_read
  obtain ⟨sleep, h_sleep, h_earliest⟩ := @computeSleep_earliest
    (fun id => usage.lookup id.metric) capacities
    (fun id => if id ∈ s'.buckets then .ok (s'.bucket id).ratePerSec
      else .error (.valueError .bucketNotFound))
    (fun id => (s'.bucket id).ratePerSec) s'.buckets s'.maxCapacity sleepInterval
    (fun id h_mem => ⟨if_pos h_mem, (s'.bucket id).ratePerSec_pos⟩)
    (usageExceeds_eq_false_iff_lookup.mp h_limit) h_short
  refine ⟨capacities, sleep, h_read, h_sleep, fun wait h_wait => ?_⟩
  have h_grows : ∀ id ∈ s'.buckets, Grows (s'.maxCapacity id) (s'.bucket id).ratePerSec wait
      (capacities id) (s'.capacityAt (currentTime + wait) id) := by
    intro id h_mem
    rw [getCapacities_apply h_read h_mem]
    exact refilled_grows (s'.bucket id).ratePerSec_pos.le h_wait (h_past id h_mem)
  rw [attempt_consumed_iff (add_nonneg h_time h_wait) h_replayed h_keys h_limit,
    usageExceeds_eq_false_iff_lookup]
  exact (h_earliest wait h_wait _ h_grows).symm

end MemoryBackend

/-! ## SQLite -/

namespace SqliteEngine

variable {e e' : SqliteEngine} {input : TxnInput} {db db' : Database} {usage : FrozenUsage}
  {reservationId : Option ReservationId} {lifetime : Option ℚ} {result : CapacityResult}

/-- An attempt at `later` that runs undisturbed, on rows of which nothing has expired since
    `currentTime`. -/
structure UndisturbedAttempt (e : SqliteEngine) (db : Database) (currentTime later : ℚ)
    (input : TxnInput) : Prop where
  time : input.currentTime = later
  running : input.interruptAfter = none
  keeps : ∀ id ∈ e.buckets, ∀ row, db.buckets (e.bucketKey id) = some row →
    row.KeepsUntil currentTime later

/-- The waiter of a denied attempt sleeps until exactly when the next is admitted. -/
theorem tryConsume_sleepEnds (sleepInterval : ℚ) (h_ttl : 0 < e.bucketTtlSeconds)
    (h_lifetime : e.ValidLifetime reservationId lifetime)
    (h_denied : e.tryConsume input db usage reservationId lifetime = (.ok ⟨false, result⟩, e', db'))
    (h_past : ∀ id ∈ e.buckets, ∀ row, db'.buckets (e.bucketKey id) = some row →
      ∀ last, row.lastChecked = some last → last ≤ input.currentTime) :
    ∃ sleep, computeSleep usage result.preCapacities result.maxCapacities e.buckets sleepInterval =
        .ok sleep ∧
      ∀ wait, 0 ≤ wait → ∀ input',
        e'.UndisturbedAttempt db' input.currentTime (input.currentTime + wait) input' →
        ((∃ result' e'' db'', e'.tryConsume input' db' usage reservationId lifetime =
          (.ok ⟨true, result'⟩, e'', db'')) ↔ sleep ≤ wait) := by
  have h_denied := denied_of_tryConsume h_denied
  have h_rate : ∀ id ∈ e.buckets, (Except.ok (result.maxCapacities id / id.window) :
      Except BackendError ℚ) = .ok (result.maxCapacities id / id.window) ∧
        0 < result.maxCapacities id / id.window := by
    intro id h_mem
    obtain ⟨state, _, _, _, h_max⟩ := h_denied.bucket id h_mem
    rw [h_max]
    exact ⟨rfl, div_pos state.maxCapacity.pos id.window_pos⟩
  have h_limit : ∀ id ∈ e.buckets, ∀ amount, some (usage.amount id.metric) = some amount →
      amount ≤ result.maxCapacities id := by
    rintro id h_mem _ ⟨⟩
    cases h_lookup : usage.lookup id.metric with
    | none =>
      obtain ⟨state, _, _, _, h_max⟩ := h_denied.bucket id h_mem
      rw [FrozenUsage.amount, h_lookup, h_max]
      exact state.maxCapacity.nonneg
    | some amount =>
      rw [FrozenUsage.amount_of_lookup h_lookup]
      exact usageExceeds_eq_false_iff_lookup.mp h_denied.limit id h_mem amount h_lookup
  have h_short : ∃ id ∈ e.buckets, ∃ amount, some (usage.amount id.metric) = some amount ∧
      result.preCapacities id < amount := by
    obtain ⟨id, h_mem, h_lt⟩ := h_denied.short
    exact ⟨id, h_mem, _, rfl, h_lt⟩
  obtain ⟨sleep, h_sleep, h_earliest⟩ :=
    computeSleep_earliest sleepInterval h_rate h_limit h_short
  refine ⟨sleep, h_sleep, fun wait h_wait input' h_input => ?_⟩
  obtain ⟨pending, h_confirms⟩ := h_denied.confirms
  have h_rows : ∀ id ∈ e.buckets, ∀ row, db'.buckets (e.bucketKey id) = some row →
      row.KeepsUntil input.currentTime (input.currentTime + wait) ∧
        ∀ last, row.lastChecked = some last → last ≤ input.currentTime := by
    intro id h_mem row h_row
    have h_keeps := h_input.keeps id
    rw [h_confirms] at h_keeps
    exact ⟨h_keeps h_mem row h_row, h_past id h_mem row h_row⟩
  -- the next attempt reads each bucket refilled at its rate from what this one read
  obtain ⟨later, h_grows, available, result', e'', db'', h_attempt, h_available⟩ :=
    tryConsume_later h_ttl h_lifetime h_wait h_denied h_input.time h_input.running h_rows
  have h_covered : sleep ≤ wait ↔ ∀ id ∈ e.buckets, usage.amount id.metric ≤ later id := by
    rw [h_earliest wait h_wait later h_grows]
    exact forall₂_congr fun id _ => by simp
  rw [h_covered, ← h_available, h_attempt]
  constructor
  · rintro ⟨_, _, _, h_eq⟩
    cases h_eq
    rfl
  · rintro rfl
    exact ⟨result', e'', db'', rfl⟩

end SqliteEngine

/-! ## Redis -/

namespace RedisBackend

variable {s s' : Session} {usage : FrozenUsage} {reservationId : Option ReservationId}
  {lifetime : Option ℚ} {result : CheckResult} {currentTime : ℚ}

/-- A run of one attempt that is alone on the server, at a time. -/
def AttemptRuns (usage : FrozenUsage) (reservationId : Option ReservationId)
    (lifetime : Option ℚ) (currentTime : ℚ) (s : Session) (result : CheckResult)
    (s' : Session) : Prop :=
  ∃ recovering turns, (∀ turn ∈ turns, Turn.Alone currentTime turn) ∧
    (checkAndConsumeCapacity usage reservationId lifetime recovering).run Session.serve turns s =
      some (.ok result, s')

/-- No override record of the client's buckets expires after `currentTime` and by `later`. -/
def KeepsOverrides (s : Session) (currentTime later : ℚ) : Prop :=
  ∀ key ∈ s.client.bucketKeys, ∀ history, s.server.overrideExpiry key = some history →
    history.expiresAt ≤ currentTime ∨ later < history.expiresAt

/-- The reservation is new to the server. -/
def Unmarked (s : Session) (reservationId : Option ReservationId) : Prop :=
  ∀ rid, reservationId = some rid → s.server.acquired (s.client.reservationKey rid) = none ∧
    s.server.refundDedup (s.client.reservationKey rid) = none

/-- The waiter of a denied attempt sleeps until exactly when the next is admitted. -/
theorem check_sleepEnds (sleepInterval : ℚ)
    (h_usage : ∀ metric ∈ usage.keys, 0 ≤ usage.amount metric)
    (h_lifetime : reservationId.isSome = true → lifetime.any (0 < ·) = true)
    (h_run : AttemptRuns usage reservationId lifetime currentTime s result s')
    (h_unavailable : result.available = false) (h_unmarked : Unmarked s' reservationId)
    (h_past : ∀ key ∈ s'.client.bucketKeys, ∀ last,
      (s'.server.state key).lastChecked = some last → last ≤ currentTime) :
    ∃ sleep, s'.client.computeSleep usage result.preconsumption
        (result.buckets.map BucketKey.id) result.buckets sleepInterval = .ok sleep ∧
      ∀ wait, 0 ≤ wait → KeepsOverrides s' currentTime (currentTime + wait) →
        ((∃ result' s'', AttemptRuns usage reservationId lifetime (currentTime + wait) s' result'
          s'' ∧ result'.available = true) ↔ sleep ≤ wait) := by
  obtain ⟨recovering, turns, h_alone, h_run⟩ := h_run
  have h_denied := run_of_follows (check_denied usage reservationId lifetime recovering s) h_alone
    h_run h_unavailable
  obtain ⟨opened, closed, h_closed, h_under⟩ := h_denied.found
  have h_client := (same_of_unlocked h_closed).1
  have h_ids : result.buckets.map BucketKey.id = s'.client.sortedBuckets := by
    rw [h_denied.buckets, RedisClient.bucketKeys_ids]
  have h_keyOf : ∀ id ∈ s'.client.sortedBuckets, s'.client.bucketKey id ∈ s'.client.bucketKeys :=
    fun id h_mem => List.mem_map_of_mem h_mem
  have h_maxCapacity : ∀ id ∈ s'.client.sortedBuckets,
      s'.client.maxCapacity id = limitOf opened (s'.client.bucketKey id) := by
    intro id h_mem
    have h_cached := h_under.leaves.maxCapacity (h_keyOf id h_mem)
    rw [h_client] at h_cached
    exact h_cached
  have h_rate : ∀ id ∈ s'.client.sortedBuckets,
      (match s'.client.bucketKeys.find? (·.id = id) with
        | none => .error (.valueError .bucketNotFound)
        | some key => .ok (calculateRatePerSec (s'.client.maxCapacity key.id) key.id) :
          Except BackendError ℚ) = .ok (calculateRatePerSec (s'.client.maxCapacity id) id) ∧
        0 < calculateRatePerSec (s'.client.maxCapacity id) id := by
    intro id h_mem
    refine ⟨?_, calculateRatePerSec_pos _ _⟩
    cases h_find : s'.client.bucketKeys.find? (·.id = id) with
    | none =>
      exact absurd (decide_eq_true rfl) (List.find?_eq_none.mp h_find _ (h_keyOf id h_mem))
    | some key =>
      have h_key : key.id = id := by simpa using List.find?_some h_find
      dsimp only
      rw [h_key]
  have h_limit : ∀ id ∈ s'.client.sortedBuckets, ∀ amount, usage.lookup id.metric = some amount →
      amount ≤ (s'.client.maxCapacity id).value := by
    intro id h_mem
    rw [h_maxCapacity id h_mem]
    exact h_under.limit _ (h_keyOf id h_mem)
  have h_short := usageExceeds_eq_true_iff_lookup.mp h_under.short
  rw [RedisClient.bucketKeys_ids] at h_short
  obtain ⟨sleep, h_sleep, h_earliest⟩ :=
    computeSleep_earliest sleepInterval h_rate h_limit h_short
  refine ⟨sleep, ?_, fun wait h_wait h_keeps => ?_⟩
  · rw [h_ids, h_denied.buckets]
    exact h_sleep
  -- what the next attempt reads is what refills from here
  have h_next := fun recovering => check_later recovering h_wait h_denied h_past h_keeps h_usage
    h_lifetime h_unmarked
  have h_covered : sleep ≤ wait ↔
      usageExceeds usage (readCapacities s' (currentTime + wait)) s'.client.sortedBuckets = false := by
    rw [h_earliest wait h_wait _ (h_next false).1]
    exact usageExceeds_eq_false_iff_lookup.symm
  rw [h_covered]
  constructor
  · rintro ⟨result', s'', ⟨recovering', turns', h_alone', h_run'⟩, h_available⟩
    obtain ⟨_, h_result, h_iff⟩ := run_of_follows (h_next recovering').2 h_alone' h_run'
    cases h_result
    exact h_iff.mp h_available
  · intro h_covers
    obtain ⟨turns', result', s'', h_alone', h_run', h_iff⟩ :=
      (h_next false).2.exists_run (Turn.undisturbed_alone (currentTime + wait))
    exact ⟨result', s'', ⟨false, turns', h_alone', h_run'⟩, h_iff.mpr h_covers⟩

end RedisBackend

/-! ## The three backends -/

/-- The wait that `_compute_sleep` gives after a denied attempt is the earliest after which
    the attempt is admitted, from stored timestamps that are past. -/
theorem computeSleep_earliestFeasible :
    (∀ (s s' : MemoryBackend) (usage : FrozenUsage) (reservationId : Option ReservationId)
        (currentTime sleepInterval : ℚ),
      s.attempt usage reservationId currentTime = .ok (.unavailable, s') →
      (∀ id ∈ s.buckets, ∀ last, (s.bucket id).lastChecked = some last → last ≤ currentTime) →
      ∃ capacities sleep, s.getCapacities currentTime = .ok capacities ∧
        s'.computeSleep usage capacities s.buckets sleepInterval = .ok sleep ∧
        ∀ wait, 0 ≤ wait →
          ((∃ s'', s'.attempt usage reservationId (currentTime + wait) = .ok (.consumed, s'')) ↔
            sleep ≤ wait)) ∧
    (∀ (e e' : SqliteEngine) (db db' : Database) (input : TxnInput) (usage : FrozenUsage)
        (reservationId : Option ReservationId) (lifetime : Option ℚ) (result : CapacityResult)
        (sleepInterval : ℚ),
      0 < e.bucketTtlSeconds → e.ValidLifetime reservationId lifetime →
      e.tryConsume input db usage reservationId lifetime = (.ok ⟨false, result⟩, e', db') →
      (∀ id ∈ e.buckets, ∀ row, db'.buckets (e.bucketKey id) = some row →
        ∀ last, row.lastChecked = some last → last ≤ input.currentTime) →
      ∃ sleep, SqliteEngine.computeSleep usage result.preCapacities result.maxCapacities e.buckets
          sleepInterval = .ok sleep ∧
        ∀ wait, 0 ≤ wait → ∀ input',
          e'.UndisturbedAttempt db' input.currentTime (input.currentTime + wait) input' →
          ((∃ result' e'' db'', e'.tryConsume input' db' usage reservationId lifetime =
            (.ok ⟨true, result'⟩, e'', db'')) ↔ sleep ≤ wait)) ∧
    ∀ (s s' : Session) (usage : FrozenUsage) (reservationId : Option ReservationId)
        (lifetime : Option ℚ) (result : RedisBackend.CheckResult) (currentTime sleepInterval : ℚ),
      (∀ metric ∈ usage.keys, 0 ≤ usage.amount metric) →
      (reservationId.isSome = true → lifetime.any (0 < ·) = true) →
      RedisBackend.AttemptRuns usage reservationId lifetime currentTime s result s' →
      result.available = false → RedisBackend.Unmarked s' reservationId →
      (∀ key ∈ s'.client.bucketKeys, ∀ last,
        (s'.server.state key).lastChecked = some last → last ≤ currentTime) →
      ∃ sleep, s'.client.computeSleep usage result.preconsumption
          (result.buckets.map BucketKey.id) result.buckets sleepInterval = .ok sleep ∧
        ∀ wait, 0 ≤ wait → RedisBackend.KeepsOverrides s' currentTime (currentTime + wait) →
          ((∃ result' s'', RedisBackend.AttemptRuns usage reservationId lifetime
            (currentTime + wait) s' result' s'' ∧ result'.available = true) ↔ sleep ≤ wait) := by
  refine ⟨fun s s' usage reservationId currentTime sleepInterval h_denied h_past => ?_,
    fun e e' db db' input usage reservationId lifetime result sleepInterval h_ttl h_lifetime
      h_denied h_past => ?_,
    fun s s' usage reservationId lifetime result currentTime sleepInterval h_usage h_lifetime
      h_run h_unavailable h_unmarked h_past => ?_⟩
  · exact MemoryBackend.attempt_sleepEnds sleepInterval h_denied h_past
  · exact SqliteEngine.tryConsume_sleepEnds sleepInterval h_ttl h_lifetime h_denied h_past
  · exact RedisBackend.check_sleepEnds sleepInterval h_usage h_lifetime h_run h_unavailable
      h_unmarked h_past

/-! ### Concrete waits -/

theorem MemoryBackend.attempt_of_outcome {s : MemoryBackend} {usage : FrozenUsage}
    {reservationId : Option ReservationId} {currentTime : ℚ}
    (h_outcome : (s.attempt usage reservationId currentTime).map Prod.fst = .ok .unavailable) :
    s.attempt usage reservationId currentTime = .ok (.unavailable, s) := by
  cases h_attempt : s.attempt usage reservationId currentTime with
  | error e =>
    rw [h_attempt] at h_outcome
    cases h_outcome
  | ok result =>
    obtain ⟨outcome, s'⟩ := result
    rw [h_attempt] at h_outcome
    cases h_outcome
    rw [(attempt_unavailable h_attempt).1]

/-- What a run returned, from a check that evaluates to true on it. -/
theorem exists_returned {ε α σ : Type} {ended : Option (Except ε α × σ)} (check : α → σ → Bool)
    (h_check : (ended.any fun result => match result.1 with
      | .ok a => check a result.2
      | .error _ => false) = true) :
    ∃ a s', ended = some (.ok a, s') ∧ check a s' = true := by
  match ended with
  | none => cases h_check
  | some (.error _, _) => cases h_check
  | some (.ok a, s') => exact ⟨a, s', rfl, h_check⟩

/-- An attempt on the example's server that nothing disturbs. -/
def Session.attemptAt (s : Session) (usage : FrozenUsage) (reservationId : Option ReservationId)
    (lifetime : Option ℚ) (currentTime : ℚ) :
    Option (Except BackendError RedisBackend.CheckResult × Session) :=
  (RedisBackend.checkAndConsumeCapacity usage reservationId lifetime false).run Session.serve
    (undisturbed currentTime) s

theorem Session.attemptAt_runs {s s' : Session} {usage : FrozenUsage}
    {reservationId : Option ReservationId} {lifetime : Option ℚ} {currentTime : ℚ}
    {result : RedisBackend.CheckResult}
    (h_attempt : s.attemptAt usage reservationId lifetime currentTime = some (.ok result, s')) :
    RedisBackend.AttemptRuns usage reservationId lifetime currentTime s result s' := by
  refine ⟨false, undisturbed currentTime, fun turn h_mem => ?_, h_attempt⟩
  rw [List.eq_of_mem_replicate h_mem]
  exact ⟨fun _ => rfl, rfl, rfl⟩

/-- What a denied attempt of an engine left, from a check that evaluates to true on it. -/
theorem SqliteEngine.exists_denied {e : SqliteEngine} {input : TxnInput} {db : Database}
    {usage : FrozenUsage} {reservationId : Option ReservationId} {lifetime : Option ℚ}
    (check : Database → Bool)
    (h_available : (e.tryConsume input db usage reservationId lifetime).1.map
      TryConsumeResult.available = .ok false)
    (h_check : check (e.tryConsume input db usage reservationId lifetime).2.2 = true) :
    ∃ result e' db', e.tryConsume input db usage reservationId lifetime =
      (.ok ⟨false, result⟩, e', db') ∧ check db' = true := by
  match h_attempt : e.tryConsume input db usage reservationId lifetime with
  | (.error _, _, _) =>
    rw [h_attempt] at h_available
    cases h_available
  | (.ok ⟨true, _⟩, _, _) =>
    rw [h_attempt] at h_available
    cases h_available
  | (.ok ⟨false, result⟩, e', db') =>
    rw [h_attempt] at h_check
    exact ⟨result, e', db', rfl, h_check⟩

/-- The waits of the three backends after a denied attempt on a debt. -/
theorem computeSleep_earliestFeasible_debt :
    (∃ capacities sleep, indebtedMemory.getCapacities 0 = .ok capacities ∧
        indebtedMemory.computeSleep (tokens 50) capacities indebtedMemory.buckets 1 = .ok sleep ∧
        ∀ wait, 0 ≤ wait →
          ((∃ s'', indebtedMemory.attempt (tokens 50) none (0 + wait) = .ok (.consumed, s'')) ↔
            sleep ≤ wait)) ∧
      (∃ result e' db' sleep, exampleEngine.tryConsume (.at 0) indebtedSqlite.db (tokens 50) none
          none = (.ok ⟨false, result⟩, e', db') ∧
        SqliteEngine.computeSleep (tokens 50) result.preCapacities result.maxCapacities
          exampleEngine.buckets 1 = .ok sleep ∧
        ∀ wait, 0 ≤ wait → ∀ input', e'.UndisturbedAttempt db' 0 (0 + wait) input' →
          ((∃ result' e'' db'', e'.tryConsume input' db' (tokens 50) none none =
            (.ok ⟨true, result'⟩, e'', db'')) ↔ sleep ≤ wait)) ∧
      ∃ result s' sleep, indebtedRedis.attemptAt (tokens 50) (some "r") (some 60) 0 =
          some (.ok result, s') ∧
        s'.client.computeSleep (tokens 50) result.preconsumption
          (result.buckets.map BucketKey.id) result.buckets 1 = .ok sleep ∧
        ∀ wait, 0 ≤ wait → RedisBackend.KeepsOverrides s' 0 (0 + wait) →
          ((∃ result' s'', RedisBackend.AttemptRuns (tokens 50) (some "r") (some 60) (0 + wait) s'
            result' s'' ∧ result'.available = true) ↔ sleep ≤ wait) := by
  have h_memory : indebtedMemory.attempt (tokens 50) none 0 = .ok (.unavailable, indebtedMemory) :=
    MemoryBackend.attempt_of_outcome (by decide +kernel)
  obtain ⟨result, e', db', h_sqlite, h_row⟩ := @SqliteEngine.exists_denied exampleEngine (.at 0)
    indebtedSqlite.db (tokens 50) none none
    (fun db => (db.buckets (exampleEngine.bucketKey tokensPerMinute)).all fun row =>
      row.lastChecked.all (· ≤ 0))
    (by decide +kernel) (by decide +kernel)
  obtain ⟨checked, s', h_redis, h_found⟩ := @exists_returned _ _ _
    (indebtedRedis.attemptAt (tokens 50) (some "r") (some 60) 0)
    (fun result s' => decide (result.available = false ∧
      s'.server.acquired (s'.client.reservationKey "r") = none ∧
      s'.server.refundDedup (s'.client.reservationKey "r") = none ∧
      ∀ key ∈ s'.client.bucketKeys, (s'.server.state key).lastChecked.all (· ≤ 0) = true))
    (by decide +kernel)
  obtain ⟨h_unavailable, h_unmarked, h_undeduped, h_state⟩ := of_decide_eq_true h_found
  have h_runs := Session.attemptAt_runs h_redis
  have h_usage : ∀ metric ∈ (tokens 50).keys, 0 ≤ (tokens 50).amount metric := by decide +kernel
  obtain ⟨sleep, h_sleep, h_earliest⟩ := computeSleep_earliestFeasible.2.1 exampleEngine e'
    indebtedSqlite.db db' (.at 0) (tokens 50) none none result 1 (by decide) nofun h_sqlite
    (fun id h_mem row h_found last h_last => by
      rw [List.mem_singleton.mp h_mem] at h_found
      rw [h_found] at h_row
      rw [Option.all_some, h_last] at h_row
      exact of_decide_eq_true h_row)
  obtain ⟨sleep', h_sleep', h_earliest'⟩ := computeSleep_earliestFeasible.2.2 indebtedRedis s'
    (tokens 50) (some "r") (some 60) checked 0 1 h_usage (by decide +kernel) h_runs h_unavailable
    (fun rid h_rid => by
      cases h_rid
      exact ⟨h_unmarked, h_undeduped⟩)
    (fun key h_mem last h_last => by
      have h_all := h_state key h_mem
      rw [h_last] at h_all
      exact of_decide_eq_true h_all)
  exact ⟨computeSleep_earliestFeasible.1 indebtedMemory indebtedMemory (tokens 50) none 0 1 h_memory
      (by
        rintro id h_mem last ⟨⟩
        exact le_refl 0),
    ⟨result, e', db', sleep, h_sqlite, h_sleep, h_earliest⟩,
    checked, s', sleep', h_redis, h_sleep', h_earliest'⟩

/-- An empty bucket whose timestamp is 5 seconds ahead of the attempt. -/
def aheadMemory : MemoryBackend :=
  { MemoryBackend.init [tokensPerMinute] fun _ => oneHundred with
    bucket := fun _ => ⟨some 0, some 10, oneHundred⟩ }

/-- A debt, and a reservation that was acquired with another usage. -/
def markedRedis : Session :=
  indebtedRedis.withServer { indebtedRedis.server with
    acquired := fun _ => some ⟨"r", "m", {tokensPerMinute}, tokens 10⟩ }

/-- The sleep falls short where a timestamp is ahead of the attempt: the bucket does not grow
    before it.  And a reservation that another acquire has marked is refused when it is over. -/
theorem computeSleep_notEarliest :
    (∃ s' capacities, aheadMemory.attempt (tokens 50) none 5 = .ok (.unavailable, s') ∧
        aheadMemory.getCapacities 5 = .ok capacities ∧
        s'.computeSleep (tokens 50) capacities aheadMemory.buckets 1 = .ok 30 ∧
        s'.attempt (tokens 50) none (5 + 30) = .ok (.unavailable, s')) ∧
      ∃ result s' s'', markedRedis.attemptAt (tokens 50) (some "r") (some 60) 0 =
          some (.ok result, s') ∧ result.available = false ∧
        s'.client.computeSleep (tokens 50) result.preconsumption
          (result.buckets.map BucketKey.id) result.buckets 1 = .ok 60 ∧
        s'.attemptAt (tokens 50) (some "r") (some 60) (0 + 60) =
          some (.error (.duplicateRefund .duplicateAcquire), s'') := by
  constructor
  · have h_denied : aheadMemory.attempt (tokens 50) none 5 = .ok (.unavailable, aheadMemory) :=
      MemoryBackend.attempt_of_outcome (by decide +kernel)
    have h_later : aheadMemory.attempt (tokens 50) none (5 + 30) =
        .ok (.unavailable, aheadMemory) :=
      MemoryBackend.attempt_of_outcome (by decide +kernel)
    have h_sleep : (do
        let capacities ← aheadMemory.getCapacities 5
        aheadMemory.computeSleep (tokens 50) capacities aheadMemory.buckets 1) = .ok 30 := by
      decide +kernel
    obtain ⟨capacities, h_read, h_sleep⟩ := bind_eq_ok h_sleep
    exact ⟨aheadMemory, capacities, h_denied, h_read, h_sleep, h_later⟩
  · obtain ⟨result, s', h_denied, h_check⟩ := @exists_returned _ _ _
      (markedRedis.attemptAt (tokens 50) (some "r") (some 60) 0)
      (fun result s' => decide (result.available = false ∧
        s'.client.computeSleep (tokens 50) result.preconsumption
          (result.buckets.map BucketKey.id) result.buckets 1 = .ok 60 ∧
        ((s'.attemptAt (tokens 50) (some "r") (some 60) (0 + 60)).any fun ended =>
          match ended.1 with
          | .ok _ => false
          | .error e => e = .duplicateRefund .duplicateAcquire) = true))
      (by decide +kernel)
    obtain ⟨h_unavailable, h_sleep, h_refused⟩ := of_decide_eq_true h_check
    obtain ⟨ended, h_later, h_refused⟩ := (Option.any_eq_true _ _).mp h_refused
    match ended with
    | (.error e, s'') =>
      obtain rfl := of_decide_eq_true h_refused
      exact ⟨result, s', s'', h_denied, h_unavailable, h_sleep, h_later⟩

end TokenThrottle
