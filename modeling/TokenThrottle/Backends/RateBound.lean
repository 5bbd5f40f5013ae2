/-
  TokenThrottle.Backends.RateBound

  The token-bucket rate bound of a SQLite backend and of a fleet of Redis processes, in
  terms of the calls, their results, and what can be read before and after them.

  * `Answer.admitted` is what a caller can tell of an acquire.  A replay is answered like an
    acquire, so that every acquire has to name a reservation of its own.
  * `MeasuredAnswer.credit` is the rise that a refund or a cleanup made.
  * `measured_metered` makes the answers of a run a metered sequence of moves of the memory
    backend's level; the bound is the one of `Theory.Meter`.
-/
import TokenThrottle.Backends.Agreement
import TokenThrottle.Memory.RateBound

namespace TokenThrottle

open Theory (Run Move Metered Grows)
open MemoryBackend (Bounded)

/-! ## What a caller can tell -/

/-- The reservation that a call acquires under. -/
def Request.acquires : Request → Option ReservationId
  | .awaitForCapacity _ reservationId _ | .consumeCapacity _ reservationId _ => reservationId
  | _ => none

/-- What an acquire admitted. -/
def Answer.admitted (answer : Answer) (id : BucketId) : ℚ :=
  match answer.request, answer.result with
  | .awaitForCapacity usage _ _, .ok .consumed => usage.amount id.metric
  | _, _ => 0

/-- An answer, with the capacity of a bucket just before the call and just after it. -/
structure MeasuredAnswer extends Answer where
  before : ℚ
  after : ℚ

/-- What a refund or a cleanup gave back. -/
def MeasuredAnswer.credit (answer : MeasuredAnswer) : ℚ :=
  match answer.request with
  | .refundCapacityForBuckets _ | .refundCancelledConsumption _ _ =>
    max 0 (answer.after - answer.before)
  | _ => 0

/-- The sum of `f` over the calls whose time lies in `[s, t]`. -/
def sumOver (f : MeasuredAnswer → ℚ) (s t : ℚ) (answers : List MeasuredAnswer) : ℚ :=
  ((answers.filter fun answer => s ≤ answer.time ∧ answer.time ≤ t).map f).sum

/-- The ids that the requests acquire under, each as often as it is used. -/
def acquiredIds (requests : List Request) : List ReservationId :=
  requests.filterMap Request.acquires

def MeasuredAnswer.requests (answers : List MeasuredAnswer) : List Request :=
  answers.map fun answer => answer.request

/-! ## Markers -/

namespace MemoryBackend

variable {s s' : MemoryBackend} {outcome : Outcome} {request : Request} {time : ℚ}

theorem isSome_updateMarker {reservationId : Option ReservationId} {rid : ReservationId}
    {marker : Option (Finset BucketId × FrozenUsage)}
    (h_marked : (updateMarker s.acquiredReservationValues reservationId marker rid).isSome = true) :
    (s.acquiredReservationValues rid).isSome = true ∨
      (reservationId = some rid ∧ marker.isSome = true) := by
  rw [updateMarker_apply] at h_marked
  by_cases h_eq : reservationId = some rid
  · rw [if_pos h_eq] at h_marked
    exact .inr ⟨h_eq, h_marked⟩
  · rw [if_neg h_eq] at h_marked
    exact .inl h_marked

theorem setMaxCapacity_markers {id : BucketId} {value : ℚ}
    (h_ok : s.setMaxCapacity id value time = .ok (outcome, s')) :
    s'.acquiredReservationValues = s.acquiredReservationValues := by
  unfold setMaxCapacity at h_ok
  split at h_ok
  · cases h_ok
  · obtain ⟨_, _, h_ok⟩ := bind_eq_ok h_ok
    cases h_ok
    rfl

/-- A marker is there only for an id that was acquired under. -/
theorem handle_marked {rid : ReservationId} (h_ok : s.handle request time = .ok (outcome, s'))
    (h_marked : (s'.acquiredReservationValues rid).isSome = true) :
    (s.acquiredReservationValues rid).isSome = true ∨ request.acquires = some rid := by
  cases request with
  | awaitForCapacity usage reservationId lifetime =>
    obtain ⟨_, rfl⟩ | ⟨rfl, _⟩ := attempt_cases (awaitForCapacity_attempt h_ok).2
    · exact .inl h_marked
    · rw [(attempt_markers (awaitForCapacity_attempt h_ok).2).2] at h_marked
      exact (isSome_updateMarker h_marked).imp_right And.left
  | consumeCapacity usage reservationId lifetime =>
    obtain ⟨_, rfl | ⟨_, _, rfl⟩⟩ := consumeCapacity_cases h_ok
    · exact .inl h_marked
    · have h_marked : ((s.withReservation reservationId
          (·.recordAcquiredReservation · usage)).acquiredReservationValues rid).isSome = true :=
        h_marked
      rw [withReservation_record_markers] at h_marked
      exact (isSome_updateMarker h_marked).imp_right And.left
  | refundCapacityForBuckets refund =>
    rw [(refundCapacityForBuckets_markers h_ok).2] at h_marked
    exact .inl ((isSome_updateMarker h_marked).resolve_right fun h => by cases h.2)
  | refundCancelledConsumption usage reservationId =>
    rw [refundCancelledConsumption_markers h_ok] at h_marked
    exact .inl ((isSome_updateMarker h_marked).resolve_right fun h => by cases h.2)
  | setMaxCapacity id value =>
    rw [setMaxCapacity_markers h_ok] at h_marked
    exact .inl h_marked
  | applyConfiguredMaxCapacity id value =>
    obtain ⟨⟨_, s₁⟩, h_set, h_ok⟩ := bind_eq_ok h_ok
    cases h_ok
    have h_marked : (s₁.acquiredReservationValues rid).isSome = true := h_marked
    rw [setMaxCapacity_markers h_set] at h_marked
    exact .inl h_marked

/-- Only an id with a marker is replayed. -/
theorem attempt_replayed {usage : FrozenUsage} {reservationId : Option ReservationId}
    (h_ok : s.attempt usage reservationId time = .ok (.replayed, s')) :
    ∃ rid, reservationId = some rid ∧ (s.acquiredReservationValues rid).isSome = true := by
  obtain ⟨replayed, h_replayed, h_ok⟩ := bind_eq_ok h_ok
  cases replayed with
  | false =>
    obtain ⟨_, _, h_ok⟩ := bind_eq_ok h_ok
    obtain ⟨consumed, _, h_ok⟩ := bind_eq_ok h_ok
    cases consumed with
    | none => cases h_ok
    | some _ => cases h_ok
  | true =>
    cases reservationId with
    | none => cases h_replayed
    | some rid =>
      refine ⟨rid, rfl, ?_⟩
      unfold isReplayed isReplayedAcquire at h_replayed
      cases h_live : s.acquiredReservationValues rid with
      | some live => rfl
      | none =>
        simp only [h_live] at h_replayed
        split at h_replayed
        · cases h_replayed
        · cases h_replayed

end MemoryBackend

/-! ## Answers as moves -/

section Moves

variable {m m' : MemoryBackend} {buckets : List BucketId} {limit : BucketId → MaxCapacity}
  {id : BucketId} {answer : Answer}

/-- Under an id of its own an acquire is answered as consumed only if it consumed. -/
theorem admitted_le
    (h_own : ∀ rid, answer.request.acquires = some rid → m.acquiredReservationValues rid = none)
    (h_result : answer.result = (m.step answer.time answer.request).outcome.map Outcome.seen) :
    answer.admitted id ≤ (m.step answer.time answer.request).admitted id := by
  obtain ⟨time, request, result⟩ := answer
  dsimp only at h_own h_result ⊢
  cases h_memory : m.handle request time with
  | error e =>
    rw [step_error h_memory] at h_result ⊢
    rw [h_result]
    cases request <;> exact le_refl _
  | ok ended =>
    obtain ⟨outcome, m₁⟩ := ended
    rw [step_ok h_memory] at h_result ⊢
    rw [h_result]
    cases request with
    | awaitForCapacity usage reservationId lifetime =>
      cases outcome with
      | replayed =>
        obtain ⟨rid, h_rid, h_marked⟩ := MemoryBackend.attempt_replayed
          (MemoryBackend.awaitForCapacity_attempt h_memory).2
        rw [h_own rid h_rid] at h_marked
        cases h_marked
      | consumed => exact le_refl _
      | unavailable => exact le_refl _
      | done => exact le_refl _
    | _ => exact le_refl _

/-- What is measured is the memory backend's. -/
structure Measures (id : BucketId) (m : MemoryBackend) (answer : MeasuredAnswer)
    (m' : MemoryBackend) : Prop where
  answers : Answers m answer.toAnswer m'
  before : answer.before = m.capacityAt answer.time id
  after : answer.after = m'.capacityAt answer.time id

/-- An answer as a move of the level of a bucket. -/
def MeasuredAnswer.move (answer : MeasuredAnswer) (id : BucketId) (m' : MemoryBackend) :
    Move ℚ where
  time := answer.time
  admitted := answer.admitted id
  credit := answer.credit
  after t := m'.capacityAt t id

theorem Answers.bounded (h_answers : Answers m answer m') (h_inv : Bounded buckets limit m)
    (h_keeps : answer.request.KeepsLimits (metricNames buckets.toFinset)) :
    Bounded buckets limit m' := by
  obtain ⟨_, rfl⟩ | ⟨_, rfl⟩ := h_answers
  · exact h_inv
  · exact MemoryBackend.step_bounded h_inv h_keeps

theorem step_before (m : MemoryBackend) (time : ℚ) (request : Request) :
    (m.step time request).before = m := by
  unfold MemoryBackend.step
  cases m.handle request time <;> rfl

theorem step_request (m : MemoryBackend) (time : ℚ) (request : Request) :
    (m.step time request).request = request := by
  unfold MemoryBackend.step
  cases m.handle request time <;> rfl

/-- The credit that is measured is the one the memory backend gives. -/
theorem Measures.credit_eq {answer : MeasuredAnswer}
    (h_measures : Measures id m answer (m.step answer.time answer.request).after) :
    answer.credit = (m.step answer.time answer.request).credit id := by
  obtain ⟨⟨time, request, result⟩, before, after⟩ := answer
  have h_before : before = m.capacityAt time id := h_measures.before
  have h_after : after = (m.step time request).after.capacityAt time id := h_measures.after
  show MeasuredAnswer.credit ⟨⟨time, request, result⟩, before, after⟩ =
    (m.step time request).credit id
  unfold MemoryBackend.Event.credit MeasuredAnswer.credit
  cases request <;> simp only [step_request, step_before, Side.step_time, h_before, h_after]

/-- A refused call gives nothing back. -/
theorem Measures.credit_refused {answer : MeasuredAnswer} (h_measures : Measures id m answer m) :
    answer.credit = 0 := by
  have h_same : answer.after - answer.before = 0 := by
    rw [h_measures.before, h_measures.after, sub_self]
  unfold MeasuredAnswer.credit
  rw [h_same]
  cases answer.request <;> rfl

theorem Measures.move_paid {answer : MeasuredAnswer} (h_measures : Measures id m answer m')
    (h_inv : Bounded buckets limit m) (h_mem : id ∈ buckets)
    (h_keeps : answer.request.KeepsLimits (metricNames buckets.toFinset))
    (h_own : ∀ rid, answer.request.acquires = some rid → m.acquiredReservationValues rid = none) :
    (answer.move id m').Paid (limit id).value (calculateRatePerSec (limit id) id)
      (fun t => m.capacityAt t id) := by
  have h_grows := (h_measures.answers.bounded h_inv h_keeps).grows h_mem
  obtain ⟨h_refused, rfl⟩ | ⟨h_result, rfl⟩ := h_measures.answers
  · have h_credit := h_measures.credit_refused
    have h_admitted : answer.admitted id = 0 := by
      obtain ⟨⟨time, request, result⟩, before, after⟩ := answer
      have h_refused : result = _ := h_refused
      subst h_refused
      cases request <;> rfl
    refine ⟨h_credit.ge, ?_, h_grows⟩
    show answer.admitted id + _ ≤ _ + answer.credit
    rw [h_admitted, h_credit, zero_add, add_zero]
    exact le_refl _
  · have h_paid : ((m.step answer.time answer.request).move id).Paid _ _ _ :=
      MemoryBackend.step_move_paid h_inv h_mem h_keeps
    have h_admitted : answer.admitted id ≤ (m.step answer.time answer.request).admitted id :=
      admitted_le h_own h_result
    have h_credit := h_measures.credit_eq
    have h_nonneg : 0 ≤ answer.credit := by
      rw [h_credit]
      exact h_paid.credit_nonneg
    refine ⟨h_nonneg, ?_, h_grows⟩
    have h_pays := h_paid.pays
    have h_time : (m.step answer.time answer.request).time = answer.time := Side.step_time _ _ _
    simp only [MemoryBackend.Event.move, h_time] at h_pays
    simp only [MeasuredAnswer.move]
    linarith

/-- A call marks no id but the one it acquires under. -/
theorem Answers.marked {rid : ReservationId} (h_answers : Answers m answer m')
    (h_marked : (m'.acquiredReservationValues rid).isSome = true) :
    (m.acquiredReservationValues rid).isSome = true ∨ answer.request.acquires = some rid := by
  obtain ⟨_, rfl⟩ | ⟨_, rfl⟩ := h_answers
  · exact .inl h_marked
  · cases h_memory : m.handle answer.request answer.time with
    | error e =>
      rw [step_error h_memory] at h_marked
      exact .inl h_marked
    | ok ended =>
      obtain ⟨outcome, m₁⟩ := ended
      rw [step_ok h_memory] at h_marked
      exact MemoryBackend.handle_marked h_memory h_marked

/-- The move shows what the answer does. -/
def Shows (id : BucketId) (move : Move ℚ) (answer : MeasuredAnswer) : Prop :=
  move.time = answer.time ∧ move.admitted = answer.admitted id ∧ move.credit = answer.credit

/-- The answers of a run are a metered sequence of moves. -/
theorem measured_metered {answers : List MeasuredAnswer} {start : ℚ}
    (h_run : Run (Measures id) m answers m')
    (h_inv : Bounded buckets limit m) (h_mem : id ∈ buckets)
    (h_start : ∀ answer ∈ answers, start ≤ answer.time)
    (h_clock : answers.Pairwise fun answer later => answer.time ≤ later.time)
    (h_keeps : ∀ request ∈ MeasuredAnswer.requests answers,
      request.KeepsLimits (metricNames buckets.toFinset))
    (h_own : ∀ rid ∈ acquiredIds (MeasuredAnswer.requests answers),
      m.acquiredReservationValues rid = none)
    (h_fresh : (acquiredIds (MeasuredAnswer.requests answers)).Nodup) :
    ∃ moves, Metered (limit id).value (calculateRatePerSec (limit id) id) start
        (fun t => m.capacityAt t id) moves ∧
      List.Forall₂ (Shows id) moves answers := by
  induction h_run generalizing start with
  | nil => exact ⟨[], .nil _ _, .nil⟩
  | @cons m m₁ m' answer answers h_first _ ih =>
    have h_requests : MeasuredAnswer.requests (answer :: answers) =
        answer.request :: MeasuredAnswer.requests answers := rfl
    rw [h_requests] at h_keeps h_own h_fresh
    have h_head := h_keeps _ List.mem_cons_self
    obtain ⟨h_le, h_tail⟩ := List.pairwise_cons.mp h_clock
    have h_acquires : ∀ rid, answer.request.acquires = some rid →
        acquiredIds (answer.request :: MeasuredAnswer.requests answers) =
          rid :: acquiredIds (MeasuredAnswer.requests answers) := by
      intro rid h_rid
      unfold acquiredIds
      exact List.filterMap_cons_some h_rid
    have h_rest : ∀ rid ∈ acquiredIds (MeasuredAnswer.requests answers),
        rid ∈ acquiredIds (answer.request :: MeasuredAnswer.requests answers) := by
      intro rid h_rid
      obtain ⟨later, h_later, h_eq⟩ := List.mem_filterMap.mp h_rid
      exact List.mem_filterMap.mpr ⟨later, List.mem_cons_of_mem _ h_later, h_eq⟩
    have h_own_first : ∀ rid, answer.request.acquires = some rid →
        m.acquiredReservationValues rid = none := by
      intro rid h_rid
      exact h_own rid (h_acquires rid h_rid ▸ List.mem_cons_self)
    have h_own_rest : ∀ rid ∈ acquiredIds (MeasuredAnswer.requests answers),
        m₁.acquiredReservationValues rid = none := by
      intro rid h_rid
      rw [← Option.not_isSome_iff_eq_none]
      intro h_marked
      obtain h_before | h_now := h_first.answers.marked h_marked
      · rw [h_own rid (h_rest rid h_rid)] at h_before
        cases h_before
      · rw [h_acquires rid h_now] at h_fresh
        exact (List.nodup_cons.mp h_fresh).1 h_rid
    have h_fresh_rest : (acquiredIds (MeasuredAnswer.requests answers)).Nodup := by
      cases h_rid : answer.request.acquires with
      | none =>
        have h_same : acquiredIds (answer.request :: MeasuredAnswer.requests answers) =
            acquiredIds (MeasuredAnswer.requests answers) := List.filterMap_cons_none h_rid
        rwa [h_same] at h_fresh
      | some rid =>
        rw [h_acquires rid h_rid] at h_fresh
        exact (List.nodup_cons.mp h_fresh).2
    obtain ⟨moves, h_metered, h_shows⟩ := ih (h_first.answers.bounded h_inv h_head) h_le h_tail
      (fun later h_later => h_keeps later (List.mem_cons_of_mem _ h_later)) h_own_rest h_fresh_rest
    exact ⟨answer.move id m₁ :: moves,
      .cons (h_start answer List.mem_cons_self)
        (h_first.move_paid h_inv h_mem h_head h_own_first) h_metered,
      .cons ⟨rfl, rfl, rfl⟩ h_shows⟩

/-- What the moves add up to over an interval, the answers do. -/
theorem sumIn_of_shows {f : Move ℚ → ℚ} {g : MeasuredAnswer → ℚ} {moves : List (Move ℚ)}
    {answers : List MeasuredAnswer} (s t : ℚ) (h_shows : List.Forall₂ (Shows id) moves answers)
    (h_same : ∀ move answer, Shows id move answer → f move = g answer) :
    Theory.sumIn f s t moves = sumOver g s t answers := by
  induction h_shows with
  | nil => rfl
  | @cons move answer moves answers h_move _ ih =>
    have h_time := h_move.1
    by_cases h_in : s ≤ move.time ∧ move.time ≤ t
    · have h_in' : s ≤ answer.time ∧ answer.time ≤ t := h_time ▸ h_in
      have h_answers : sumOver g s t (answer :: answers) = g answer + sumOver g s t answers := by
        simp [sumOver, h_in']
      rw [Theory.sumIn_cons_of_mem f moves h_in.1 h_in.2, h_answers, ih,
        h_same move answer h_move]
    · have h_in' : ¬ (s ≤ answer.time ∧ answer.time ≤ t) := h_time ▸ h_in
      have h_moves : Theory.sumIn f s t (move :: moves) = Theory.sumIn f s t moves := by
        simp [Theory.sumIn, h_in]
      have h_answers : sumOver g s t (answer :: answers) = sumOver g s t answers := by
        simp [sumOver, h_in']
      rw [h_moves, h_answers, ih]

/-- The rate bound of a run of answers. -/
theorem measured_rateBound {answers : List MeasuredAnswer}
    (h_run : Run (Measures id) m answers m') (h_inv : Bounded buckets limit m)
    (h_mem : id ∈ buckets) {start : ℚ}
    (h_start : ∀ answer ∈ answers, start ≤ answer.time)
    (h_clock : answers.Pairwise fun answer later => answer.time ≤ later.time)
    (h_keeps : ∀ request ∈ MeasuredAnswer.requests answers,
      request.KeepsLimits (metricNames buckets.toFinset))
    (h_own : ∀ rid ∈ acquiredIds (MeasuredAnswer.requests answers),
      m.acquiredReservationValues rid = none)
    (h_fresh : (acquiredIds (MeasuredAnswer.requests answers)).Nodup) {s t : ℚ} (h_le : s ≤ t) :
    sumOver (·.admitted id) s t answers ≤
      (limit id).value + (limit id).value / id.window * (t - s) +
        sumOver (·.credit) s t answers := by
  obtain ⟨moves, h_metered, h_shows⟩ :=
    measured_metered h_run h_inv h_mem h_start h_clock h_keeps h_own h_fresh
  rw [← sumIn_of_shows s t h_shows fun _ _ h_move => h_move.2.1,
    ← sumIn_of_shows s t h_shows fun _ _ h_move => h_move.2.2]
  exact h_metered.admittedIn_le (limit id).nonneg (calculateRatePerSec_pos _ _).le
    (h_inv.grows h_mem) h_le

end Moves

/-! ## The two backends -/

/-- The times of a list of answers are in order, none before the clock. -/
def TimesInOrder (clock : ℚ) (answers : List MeasuredAnswer) : Prop :=
  (∀ answer ∈ answers, clock ≤ answer.time) ∧
    answers.Pairwise fun answer later => answer.time ≤ later.time

/-- Steps that move a clock on to the time of their answer. -/
theorem timesInOrder_of_run {σ : Type} {c : σ → ℚ} {step : σ → MeasuredAnswer → σ → Prop}
    (h_step : ∀ s answer s', step s answer s' → c s ≤ answer.time ∧ c s' = answer.time)
    {s s' : σ} {answers : List MeasuredAnswer} (h_run : Run step s answers s') :
    TimesInOrder (c s) answers := by
  induction h_run with
  | nil => exact ⟨List.forall_mem_nil _, .nil⟩
  | @cons s s₁ s' answer answers h_first _ ih =>
    obtain ⟨h_le, h_clock⟩ := h_step s answer s₁ h_first
    obtain ⟨h_start, h_ordered⟩ := ih
    rw [h_clock] at h_start
    refine ⟨fun later h_mem => ?_, .cons h_start h_ordered⟩
    obtain rfl | h_mem := List.mem_cons.mp h_mem
    · exact h_le
    · exact h_le.trans (h_start later h_mem)

section Redis

variable {W : Type} [DecidableEq W]

/-- A call of one of the processes, with what all of them read of the bucket just before it and
    just after it. -/
def Twin.Observes (id : BucketId) (p : Twin W) (answer : MeasuredAnswer) (p' : Twin W) : Prop :=
  ∃ event, Steps p event p' ∧ event.answer = answer.toAnswer ∧
    p.fleet.Reads answer.time id answer.before ∧ p'.fleet.Reads answer.time id answer.after

theorem Twin.steps_clock {p p' : Twin W} {event : AnsweredCall W} (h_step : Steps p event p') :
    p.clock ≤ event.call.currentTime ∧ p'.clock = event.call.currentTime := by
  obtain ⟨h_call, fleet', _, rfl⟩ := h_step
  exact ⟨h_call.clock_le, rfl⟩

/-- What is read is the memory backend's level. -/
theorem Twin.observes_iff {p p' : Twin W} {event : AnsweredCall W} {id : BucketId}
    {before after : ℚ} (h_sim : p.Simulated) (h_mem : id ∈ p.memory.buckets)
    (h_step : Steps p event p') :
    Observes id p ⟨event.answer, before, after⟩ p' ↔
      before = p.memory.capacityAt event.call.currentTime id ∧
        after = p'.memory.capacityAt event.call.currentTime id := by
  have h_sim' := steps_simulated h_sim h_step
  have h_mem' : id ∈ p'.memory.buckets := by
    rw [steps_buckets h_step]
    exact h_mem
  obtain ⟨h_le, h_clock⟩ := steps_clock h_step
  have h_before := h_sim.fleet_reads h_mem h_le
  have h_after := h_sim'.fleet_reads h_mem' h_clock.le
  have : Nonempty W := ⟨event.call.worker⟩
  constructor
  · rintro ⟨_, _, _, h_reads, h_reads'⟩
    exact ⟨h_reads.unique h_before, h_reads'.unique h_after⟩
  · rintro ⟨rfl, rfl⟩
    exact ⟨event, h_step, rfl, h_before, h_after⟩

/-- The memory backend beside the fleet makes the moves that are observed. -/
theorem Twin.run_measures {p p' : Twin W} {id : BucketId} {answers : List MeasuredAnswer}
    (h_sim : p.Simulated) (h_mem : id ∈ p.memory.buckets)
    (h_run : Run (Observes id) p answers p') : ∃ m', Run (Measures id) p.memory answers m' := by
  have h_step : ∀ (p : Twin W) answer p' m,
      p.Simulated ∧ id ∈ p.memory.buckets ∧ p.memory = m → Observes id p answer p' →
      ∃ m', Measures id m answer m' ∧ p'.Simulated ∧ id ∈ p'.memory.buckets ∧ p'.memory = m' := by
    rintro p ⟨_, before, after⟩ p' m ⟨h_sim, h_mem, rfl⟩ ⟨event, h_step, h_answer, h_reads⟩
    obtain rfl : event.answer = _ := h_answer
    obtain ⟨h_before, h_after⟩ :=
      (observes_iff h_sim h_mem h_step).mp ⟨event, h_step, rfl, h_reads⟩
    refine ⟨_, ⟨steps_answers h_sim h_step, h_before, h_after⟩, steps_simulated h_sim h_step,
      ?_, rfl⟩
    rw [steps_buckets h_step]
    exact h_mem
  obtain ⟨m', h_measured, _⟩ := h_run.simulate h_step ⟨h_sim, h_mem, rfl⟩
  exact ⟨m', h_measured⟩

/-- Every run of calls can be observed. -/
theorem Twin.exists_observed {p p' : Twin W} {id : BucketId} {events : List (AnsweredCall W)}
    (h_sim : p.Simulated) (h_mem : id ∈ p.memory.buckets) (h_run : Run Steps p events p') :
    ∃ answers, Run (Observes id) p answers p' ∧
      answers.map MeasuredAnswer.toAnswer = events.map AnsweredCall.answer := by
  induction h_run with
  | nil => exact ⟨[], .nil _, rfl⟩
  | @cons p p₁ p' event events h_step _ ih =>
    obtain ⟨answers, h_observed, h_same⟩ := ih (steps_simulated h_sim h_step) (by
      rw [steps_buckets h_step]
      exact h_mem)
    refine ⟨⟨event.answer, _, _⟩ :: answers,
      .cons ((observes_iff h_sim h_mem h_step).mpr ⟨rfl, rfl⟩) h_observed, ?_⟩
    rw [List.map_cons, List.map_cons, h_same]

/-- However many processes share the server, together they are not admitted more than one limit,
    the refill of the interval, and what was given back in it. -/
theorem redis_rateBound (config : RedisConfiguration) (processes : W → RedisProcess) {clock : ℚ}
    (h_clock : 0 ≤ clock) {events : List (AnsweredCall W)} {p : Twin W}
    (h_run : Run Twin.Steps (Twin.start config processes clock) events p)
    (h_keeps : ∀ request ∈ events.map fun event => event.call.request,
      request.KeepsLimits (metricNames config.sortedBuckets.toFinset))
    (h_fresh : (acquiredIds (events.map fun event => event.call.request)).Nodup) {id : BucketId}
    (h_mem : id ∈ config.sortedBuckets) :
    (∃ answers, Run (Twin.Observes id) (Twin.start config processes clock) answers p ∧
      answers.map MeasuredAnswer.toAnswer = events.map AnsweredCall.answer) ∧
    ∀ answers p', Run (Twin.Observes id) (Twin.start config processes clock) answers p' →
      answers.map MeasuredAnswer.toAnswer = events.map AnsweredCall.answer →
      ∀ s t, s ≤ t → sumOver (·.admitted id) s t answers ≤
        (config.maxCapacityDefault id).value +
          (config.maxCapacityDefault id).value / id.window * (t - s) +
          sumOver (·.credit) s t answers := by
  have h_start := Twin.start_simulated config processes h_clock
  refine ⟨Twin.exists_observed h_start h_mem h_run,
    fun answers p' h_observed h_answers s t h_le => ?_⟩
  have h_requests : MeasuredAnswer.requests answers =
      events.map fun event => event.call.request := by
    have h_same := congrArg (List.map Answer.request) h_answers
    rwa [List.map_map, List.map_map] at h_same
  obtain ⟨_, h_measured⟩ := Twin.run_measures h_start h_mem h_observed
  obtain ⟨h_first, h_ordered⟩ := timesInOrder_of_run (c := Twin.clock) (by
    rintro p answer p' ⟨event, h_step, h_answer, _⟩
    rw [← h_answer]
    exact Twin.steps_clock h_step) h_observed
  rw [← h_requests] at h_keeps h_fresh
  exact measured_rateBound h_measured (MemoryBackend.bounded_init _ _) h_mem h_first h_ordered
    h_keeps (fun _ _ => rfl) h_fresh h_le

end Redis

namespace Side

/-- A call, with what the snapshots show of the bucket just before it and just after it. -/
def Observes (id : BucketId) (p : Side) (answer : MeasuredAnswer) (p' : Side) : Prop :=
  ∃ call, Steps p call p' ∧ p.answer call = answer.toAnswer ∧
    p'.sqlite.db.Unexpired answer.time ∧
    (p.sqlite.snapshot id answer.time).map BucketState.capacity = .ok answer.before ∧
    (p'.sqlite.snapshot id answer.time).map BucketState.capacity = .ok answer.after

theorem steps_clock {p p' : Side} {call : TxnInput × Request} (h_step : Steps p call p') :
    p.clock ≤ call.1.currentTime ∧ p'.clock = call.1.currentTime := by
  obtain ⟨h_call, rfl⟩ := h_step
  exact ⟨h_call.clock_le, rfl⟩

variable {buckets : List BucketId} {p p' : Side} {id : BucketId}

/-- What the snapshots show is the memory backend's level. -/
theorem observes_iff {call : TxnInput × Request} {before after : ℚ}
    (h_sim : p.Simulated buckets) (h_mem : id ∈ buckets) (h_step : Steps p call p')
    (h_unexpired : p'.sqlite.db.Unexpired call.1.currentTime) :
    Observes id p ⟨p.answer call, before, after⟩ p' ↔
      before = p.memory.capacityAt call.1.currentTime id ∧
        after = p'.memory.capacityAt call.1.currentTime id := by
  obtain ⟨h_le, h_clock⟩ := steps_clock h_step
  have h_before := h_sim.reading h_mem h_step.1.unexpired h_le
  have h_after := (steps_simulated h_sim h_step).reading h_mem h_unexpired h_clock.le
  constructor
  · rintro ⟨_, _, _, _, h_reading, h_reading'⟩
    have h_reading := h_reading.symm.trans h_before
    have h_reading' := h_reading'.symm.trans h_after
    injection h_reading with h_reading
    injection h_reading' with h_reading'
    exact ⟨h_reading, h_reading'⟩
  · rintro ⟨rfl, rfl⟩
    exact ⟨call, h_step, rfl, h_unexpired, h_before, h_after⟩

theorem observes {call : TxnInput × Request} {result : Except BackendError Outcome}
    {before after : ℚ} (h_sim : p.Simulated buckets) (h_mem : id ∈ buckets)
    (h_step : Steps p call p') (h_unexpired : p'.sqlite.db.Unexpired call.1.currentTime)
    (h_result : (p.answer call).result = result)
    (h_levels : before = p.memory.capacityAt call.1.currentTime id ∧
      after = p'.memory.capacityAt call.1.currentTime id) :
    Observes id p ⟨⟨call.1.currentTime, call.2, result⟩, before, after⟩ p' := by
  subst h_result
  exact (observes_iff h_sim h_mem h_step h_unexpired).mpr h_levels

/-- Every run of calls can be observed, if nothing has expired by the end of it. -/
theorem exists_observed {calls : List (TxnInput × Request)} (h_sim : p.Simulated buckets)
    (h_mem : id ∈ buckets) (h_run : Run Steps p calls p')
    (h_unexpired : p'.sqlite.db.Unexpired p'.clock) :
    ∃ answers, Run (Observes id) p answers p' ∧
      answers.map MeasuredAnswer.toAnswer = p.answers calls := by
  induction h_run with
  | nil => exact ⟨[], .nil _, rfl⟩
  | @cons p p₁ p' call calls h_step h_rest ih =>
    have h_clock := (steps_clock h_step).2
    -- what the next call finds unexpired was so when this one ended
    have h_found : p₁.sqlite.db.Unexpired call.1.currentTime := by
      cases h_rest with
      | nil => exact h_clock ▸ h_unexpired
      | cons h_next _ =>
        exact h_next.1.unexpired.earlier (h_clock ▸ h_next.1.clock_le)
    obtain ⟨answers, h_observed, h_same⟩ := ih (steps_simulated h_sim h_step) h_unexpired
    refine ⟨⟨p.answer call, _, _⟩ :: answers,
      .cons ((observes_iff h_sim h_mem h_step h_found).mpr ⟨rfl, rfl⟩) h_observed, ?_⟩
    obtain ⟨_, rfl⟩ := h_step
    rw [List.map_cons, h_same]
    rfl

/-- The memory backend beside the engine makes the moves that are observed. -/
theorem run_measures {answers : List MeasuredAnswer} (h_sim : p.Simulated buckets)
    (h_mem : id ∈ buckets) (h_run : Run (Observes id) p answers p') :
    ∃ m', Run (Measures id) p.memory answers m' := by
  have h_step : ∀ (p : Side) answer p' m, p.Simulated buckets ∧ p.memory = m →
      Observes id p answer p' → ∃ m', Measures id m answer m' ∧ p'.Simulated buckets ∧
        p'.memory = m' := by
    rintro p ⟨_, before, after⟩ p' m ⟨h_sim, rfl⟩ ⟨call, h_step, h_answer, h_unexpired, h_read⟩
    obtain rfl : p.answer call = _ := h_answer
    obtain ⟨h_before, h_after⟩ := (observes_iff h_sim h_mem h_step h_unexpired).mp
      ⟨call, h_step, rfl, h_unexpired, h_read⟩
    exact ⟨_, ⟨steps_answers h_sim h_step, h_before, h_after⟩, steps_simulated h_sim h_step, rfl⟩
  obtain ⟨m', h_measured, _⟩ := h_run.simulate h_step ⟨h_sim, rfl⟩
  exact ⟨m', h_measured⟩

end Side

/-- The same bound for a SQLite backend. -/
theorem sqlite_rateBound (e : SqliteEngine) {clock : ℚ} (h_clock : 0 ≤ clock)
    {calls : List (TxnInput × Request)} {p : Side}
    (h_run : Run Side.Steps (Side.start e clock) calls p)
    (h_unexpired : p.sqlite.db.Unexpired p.clock)
    (h_keeps : ∀ request ∈ calls.map Prod.snd,
      request.KeepsLimits (metricNames e.buckets.toFinset))
    (h_fresh : (acquiredIds (calls.map Prod.snd)).Nodup) {id : BucketId}
    (h_mem : id ∈ e.buckets) :
    (∃ answers, Run (Side.Observes id) (Side.start e clock) answers p ∧
      answers.map MeasuredAnswer.toAnswer = (Side.start e clock).answers calls) ∧
    ∀ answers p', Run (Side.Observes id) (Side.start e clock) answers p' →
      answers.map MeasuredAnswer.toAnswer = (Side.start e clock).answers calls →
      ∀ s t, s ≤ t → sumOver (·.admitted id) s t answers ≤
        (e.configuredMaxCapacity id).value +
          (e.configuredMaxCapacity id).value / id.window * (t - s) +
          sumOver (·.credit) s t answers := by
  have h_start := Side.start_simulated e h_clock
  refine ⟨Side.exists_observed h_start h_mem h_run h_unexpired,
    fun answers p' h_observed h_answers s t h_le => ?_⟩
  have h_requests : MeasuredAnswer.requests answers = calls.map Prod.snd := by
    have h_same := congrArg (List.map Answer.request) h_answers
    have h_calls := congrArg (List.map Prod.snd) (Side.answers_calls (Side.start e clock) calls)
    rw [List.map_map] at h_same
    rw [List.map_map, List.map_map] at h_calls
    exact h_same.trans h_calls
  obtain ⟨_, h_measured⟩ := Side.run_measures h_start h_mem h_observed
  obtain ⟨h_first, h_ordered⟩ := timesInOrder_of_run (c := Side.clock) (by
    rintro p answer p' ⟨call, h_step, h_answer, _⟩
    rw [← h_answer]
    exact Side.steps_clock h_step) h_observed
  rw [← h_requests] at h_keeps h_fresh
  exact measured_rateBound h_measured (MemoryBackend.bounded_init _ _) h_mem h_first h_ordered
    h_keeps (fun _ _ => rfl) h_fresh h_le

/-! ## With a debt and a refund -/

/-- The four calls of the example, and what was read before and after each. -/
def measuredExample : List MeasuredAnswer :=
  [⟨⟨0, .awaitForCapacity (tokens 60) (some "a") (some 3600), .ok .consumed⟩, 100, 40⟩,
    ⟨⟨0, .consumeCapacity (tokens 100) (some "b") (some 3600), .ok .consumed⟩, 40, -60⟩,
    ⟨⟨0, .refundCapacityForBuckets exampleRefund, .ok .done⟩, -60, -20⟩,
    ⟨⟨60, .awaitForCapacity (tokens 60) (some "c") (some 3600), .ok .consumed⟩, 80, 20⟩]

theorem measuredExample_keepsLimits : ∀ request ∈ MeasuredAnswer.requests measuredExample,
    request.KeepsLimits (metricNames [tokensPerMinute].toFinset) := by
  intro request h_request
  simp only [MeasuredAnswer.requests, measuredExample, List.map_cons, List.map_nil,
    List.mem_cons, List.not_mem_nil, or_false] at h_request
  obtain rfl | rfl | rfl | rfl := h_request <;> exact trivial

/-- The processes were admitted 120 of at most 100, plus 100 in the minute, plus the 40 that
    were given back. -/
theorem redis_rateBound_repaid :
    Run (Twin.Observes tokensPerMinute) Twin.exampleTwin measuredExample Twin.repaid ∧
      sumOver (·.admitted tokensPerMinute) 0 60 measuredExample = 120 ∧
      sumOver (·.credit) 0 60 measuredExample = 40 ∧
      sumOver (·.admitted tokensPerMinute) 0 60 measuredExample ≤
        100 + 100 / 60 * (60 - 0) + sumOver (·.credit) 0 60 measuredExample := by
  have h_start := Twin.start_simulated exampleEngine.deployment (fun _ : Bool => Twin.exampleProcess)
    (le_refl 0)
  have h_mem : ∀ p : Twin Bool, p.memory.buckets = [tokensPerMinute] →
      tokensPerMinute ∈ p.memory.buckets := fun p h_eq => h_eq ▸ List.mem_singleton_self _
  obtain ⟨h_overdraft, h_refund, h_later⟩ := Twin.repaid_steps
  have h_first := Twin.steps_simulated h_start Twin.firstCall_steps
  have h_indebted := Twin.steps_simulated h_first h_overdraft
  have h_refunded := Twin.steps_simulated h_indebted h_refund
  have h_run : Run (Twin.Observes tokensPerMinute) Twin.exampleTwin measuredExample Twin.repaid :=
    .cons ((Twin.observes_iff h_start (h_mem _ rfl) Twin.firstCall_steps).mpr (by decide +kernel))
      (.cons ((Twin.observes_iff h_first (h_mem _ (by decide +kernel)) h_overdraft).mpr
          (by decide +kernel))
        (.cons ((Twin.observes_iff h_indebted (h_mem _ (by decide +kernel)) h_refund).mpr
            (by decide +kernel))
          (.cons ((Twin.observes_iff h_refunded (h_mem _ (by decide +kernel)) h_later).mpr
            (by decide +kernel)) (.nil _))))
  refine ⟨h_run, by decide +kernel, by decide +kernel, ?_⟩
  exact (redis_rateBound exampleEngine.deployment _ (le_refl 0) Twin.repaid_run
    measuredExample_keepsLimits (by decide +kernel) (List.mem_singleton_self _)).2
      measuredExample _ h_run rfl 0 60 (by norm_num)

/-- The same calls of one SQLite backend. -/
theorem sqlite_rateBound_repaid :
    Run (Side.Observes tokensPerMinute) (Side.start exampleEngine 0) measuredExample
        Side.repaid ∧
      sumOver (·.admitted tokensPerMinute) 0 60 measuredExample = 120 ∧
      sumOver (·.credit) 0 60 measuredExample = 40 ∧
      sumOver (·.admitted tokensPerMinute) 0 60 measuredExample ≤
        100 + 100 / 60 * (60 - 0) + sumOver (·.credit) 0 60 measuredExample := by
  have h_start := Side.start_simulated exampleEngine (le_refl 0)
  have h_mem : tokensPerMinute ∈ exampleEngine.buckets := List.mem_singleton_self _
  obtain ⟨h_overdraft, h_refund, h_later⟩ := Side.repaid_steps
  have h_first := Side.steps_simulated h_start ⟨Side.firstCall_admissible, rfl⟩
  have h_indebted := Side.steps_simulated h_first h_overdraft
  have h_refunded := Side.steps_simulated h_indebted h_refund
  have h_run : Run (Side.Observes tokensPerMinute) (Side.start exampleEngine 0) measuredExample
      Side.repaid :=
    .cons (Side.observes h_start h_mem ⟨Side.firstCall_admissible, rfl⟩
        (Side.firstCall_lasts.unexpired.earlier (by decide)) (by decide +kernel)
        (by decide +kernel))
      (.cons (Side.observes h_first h_mem h_overdraft
          (Side.indebted_lasts.unexpired.earlier (by decide)) (by decide +kernel)
          (by decide +kernel))
        (.cons (Side.observes h_indebted h_mem h_refund
            (Side.refunded_lasts.unexpired.earlier (by decide)) (by decide +kernel)
            (by decide +kernel))
          (.cons (Side.observes h_refunded h_mem h_later
            (Side.repaid_lasts.unexpired.earlier (by decide)) (by decide +kernel)
            (by decide +kernel)) (.nil _))))
  refine ⟨h_run, by decide +kernel, by decide +kernel, ?_⟩
  have h_answers : (Side.start exampleEngine 0).answers
      [Side.firstCall, Side.overdraft, Side.refundCall, Side.laterCall] =
        measuredExample.map MeasuredAnswer.toAnswer :=
    @Side.answers_of_results _ _ [.ok .consumed, .ok .consumed, .ok .done, .ok .consumed]
      (by decide +kernel)
  exact (sqlite_rateBound exampleEngine (le_refl 0) Side.repaid_run
    (Side.repaid_lasts.unexpired.earlier (by decide)) measuredExample_keepsLimits
    (by decide +kernel) h_mem).2 measuredExample _ h_run h_answers.symm 0 60 (by norm_num)

end TokenThrottle
