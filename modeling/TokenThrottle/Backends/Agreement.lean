/-
  TokenThrottle.Backends.Agreement

  What callers see of a backend that refines the memory backend: a list of answers, each the
  memory backend's (`Answers`).

  * A run of the SQLite backend and one of a fleet of Redis processes are lists of such answers
    (`Side.run_answers`, `Twin.run_answers`).
  * So the two agree with each other after the same calls.
  * `RedisFleet.Reads` is what all processes of a fleet read of a bucket.
-/
import TokenThrottle.Redis.RefinesMemory

namespace TokenThrottle

open Theory (Run)

/-! ## Answers -/

/-- A call as its caller sees it. -/
structure Answer where
  time : ℚ
  request : Request
  result : Except BackendError Outcome

/-- The debt that the call would have left could not be retained. -/
def Answer.Refused (answer : Answer) : Prop :=
  answer.result = .error (.valueError .retentionTooLong)

/-- The answer is the memory backend's, or the call was refused and that one did not get it. -/
def Answers (m : MemoryBackend) (answer : Answer) (m' : MemoryBackend) : Prop :=
  (answer.Refused ∧ m' = m) ∨
    (answer.result = (m.step answer.time answer.request).outcome.map Outcome.seen ∧
      m' = (m.step answer.time answer.request).after)

/-- The memory backend after a list of calls. -/
def MemoryBackend.afterCalls (m : MemoryBackend) (calls : List (ℚ × Request)) : MemoryBackend :=
  calls.foldl (fun m call => (m.step call.1 call.2).after) m

theorem answers_afterCalls {m m' : MemoryBackend} {answers : List Answer}
    (h_run : Run Answers m answers m') (h_retained : ∀ answer ∈ answers, ¬ answer.Refused) :
    m' = m.afterCalls (answers.map fun answer => (answer.time, answer.request)) := by
  induction h_run with
  | nil => rfl
  | cons h_first _ ih =>
    rw [ih fun answer h_mem => h_retained answer (List.mem_cons_of_mem _ h_mem)]
    obtain ⟨h_refused, _⟩ | ⟨_, rfl⟩ := h_first
    · exact absurd h_refused (h_retained _ List.mem_cons_self)
    · rfl

theorem eq_error_of_map {x : Except BackendError Outcome} {f : Outcome → Outcome}
    {e : BackendError} (h_map : x.map f = .error e) : x = .error e := by
  cases x with
  | ok _ => cases h_map
  | error e' => exact h_map

/-! ## The two backends -/

namespace Side

/-- What the SQLite backend answers to a call. -/
def answer (p : Side) (call : TxnInput × Request) : Answer :=
  ⟨call.1.currentTime, call.2, (p.sqlite.handle call.1 call.2).1.map Outcome.seen⟩

/-- What it answers to a list of calls. -/
def answers (p : Side) : List (TxnInput × Request) → List Answer
  | [] => []
  | call :: calls => p.answer call :: (p.step call).answers calls

theorem steps_answers {buckets : List BucketId} {p p' : Side} {call : TxnInput × Request}
    (h_sim : p.Simulated buckets) (h_step : Steps p call p') :
    Answers p.memory (p.answer call) p'.memory := by
  obtain ⟨h_call, rfl⟩ := h_step
  refine .inr ⟨?_, rfl⟩
  obtain h_refused | ⟨h_outcome, _⟩ := refines h_sim h_call
  · exact absurd h_refused h_call.retained
  · exact congrArg (Except.map Outcome.seen) h_outcome

theorem run_answers {buckets : List BucketId} {p p' : Side} {calls : List (TxnInput × Request)}
    (h_sim : p.Simulated buckets) (h_run : Run Steps p calls p') :
    Run Answers p.memory (p.answers calls) p'.memory := by
  induction h_run with
  | nil => exact .nil _
  | cons h_step _ ih =>
    have h_first := steps_answers h_sim h_step
    have h_next := steps_simulated h_sim h_step
    obtain ⟨_, rfl⟩ := h_step
    exact .cons h_first (ih h_next)

theorem answers_calls (p : Side) (calls : List (TxnInput × Request)) :
    (p.answers calls).map (fun answer => (answer.time, answer.request)) =
      calls.map fun call => (call.1.currentTime, call.2) := by
  induction calls generalizing p with
  | nil => rfl
  | cons call calls ih =>
    show _ :: _ = _ :: _
    rw [ih]
    rfl

theorem answers_of_results {p : Side} {calls : List (TxnInput × Request)}
    {results : List (Except BackendError Outcome)}
    (h_results : (p.answers calls).map Answer.result = results) :
    p.answers calls = calls.zipWith (fun call result => ⟨call.1.currentTime, call.2, result⟩)
      results := by
  subst h_results
  induction calls generalizing p with
  | nil => rfl
  | cons call calls ih => exact congrArg _ ih

/-- What a snapshot shows is the memory backend's level. -/
theorem Simulated.reading {buckets : List BucketId} {p : Side} {t : ℚ} {id : BucketId}
    (h_sim : p.Simulated buckets) (h_mem : id ∈ buckets) (h_unexpired : p.sqlite.db.Unexpired t)
    (h_le : p.clock ≤ t) :
    (p.sqlite.snapshot id t).map BucketState.capacity = .ok (p.memory.capacityAt t id) := by
  rw [← h_sim.buckets_eq, ← h_sim.sim.buckets_eq] at h_mem
  obtain ⟨state, h_snapshot, h_state⟩ :=
    h_sim.sim.snapshot h_unexpired h_le (h_sim.nonneg.trans h_le) h_mem
  rw [h_snapshot]
  exact congrArg Except.ok h_state.capacity

/-- No admissible call is refused. -/
theorem run_retained {p p' : Side} {calls : List (TxnInput × Request)}
    (h_run : Run Steps p calls p') : ∀ answer ∈ p.answers calls, ¬ answer.Refused := by
  induction h_run with
  | nil => exact List.forall_mem_nil _
  | cons h_step _ ih =>
    obtain ⟨h_call, rfl⟩ := h_step
    intro answer h_mem
    obtain rfl | h_mem := List.mem_cons.mp h_mem
    · intro h_refused
      apply h_call.retained
      exact eq_error_of_map h_refused
    · exact ih answer h_mem

end Side

variable {W : Type}

/-- What every process reads of a bucket. -/
def RedisFleet.Reads (f : RedisFleet W) (t : ℚ) (id : BucketId) (capacity : ℚ) : Prop :=
  ∀ worker, Alone t (fun read _ => read.capacities id = capacity)
    (RedisBackend.getCapacitiesUnsafe (f.clients worker).bucketKeys t) (f.session worker)

/-- There is one capacity that they read. -/
theorem RedisFleet.Reads.unique [Nonempty W] {f : RedisFleet W} {t : ℚ} {id : BucketId}
    {capacity capacity' : ℚ} (h_reads : f.Reads t id capacity) (h_reads' : f.Reads t id capacity') :
    capacity = capacity' := by
  obtain ⟨worker⟩ := ‹Nonempty W›
  have h_both : Alone t (fun read _ => read.capacities id = capacity ∧
      read.capacities id = capacity')
      (RedisBackend.getCapacitiesUnsafe (f.clients worker).bucketKeys t) (f.session worker) := by
    refine (Theory.Program.Follows.and (h_reads worker) (h_reads' worker)).mono ?_
    rintro _ _ ⟨⟨read, rfl, h_read⟩, _, ⟨⟩, h_read'⟩
    exact ⟨read, rfl, h_read, h_read'⟩
  obtain ⟨_, _, _, _, _, h_read, h_read'⟩ := h_both.exists_run (Turn.undisturbed_alone t)
  exact h_read.symm.trans h_read'

theorem Twin.Simulated.fleet_reads {p : Twin W} {t : ℚ} {id : BucketId} (h_sim : p.Simulated)
    (h_mem : id ∈ p.memory.buckets) (h_le : p.clock ≤ t) :
    p.fleet.Reads t id (p.memory.capacityAt t id) := by
  intro worker
  exact (h_sim.reads worker h_le).mono fun read s' h_found => (h_found id h_mem).1

def AnsweredCall.answer (event : AnsweredCall W) : Answer :=
  ⟨event.call.currentTime, event.call.request, event.result⟩

theorem Twin.memoryAfter_of_retained {p : Twin W} {event : AnsweredCall W}
    (h_retained : ¬ event.Refused) :
    p.memoryAfter event = (p.memory.step event.call.currentTime event.call.request).after := by
  unfold memoryAfter
  split
  · rename_i h_refused
    exact absurd h_refused h_retained
  · rfl

theorem Twin.steps_answers [DecidableEq W] {p p' : Twin W} {event : AnsweredCall W}
    (h_sim : p.Simulated) (h_step : Steps p event p') :
    Answers p.memory event.answer p'.memory := by
  obtain ⟨h_call, fleet', ⟨turns, s', h_turns, h_ran, rfl⟩, rfl⟩ := h_step
  have h_agrees := Theory.Program.run_of_follows (calls_agree h_sim h_call) h_turns h_ran
  by_cases h_refused : event.Refused
  · refine .inl ⟨h_refused, ?_⟩
    unfold memoryAfter
    rw [h_refused]
  · have h_result := (memoryAfter_of_agrees h_agrees.agrees).2.1.resolve_left h_refused
    exact .inr ⟨h_result, memoryAfter_of_retained h_refused⟩

theorem Twin.run_answers [DecidableEq W] {p p' : Twin W} {events : List (AnsweredCall W)}
    (h_sim : p.Simulated) (h_run : Run Steps p events p') :
    Run Answers p.memory (events.map AnsweredCall.answer) p'.memory := by
  induction h_run with
  | nil => exact .nil _
  | cons h_step _ ih =>
    exact .cons (steps_answers h_sim h_step) (ih (steps_simulated h_sim h_step))

/-- After the same calls, none of them refused for its debt, SQLite and every Redis process read
    the same capacity and limit of every bucket, and answer the next call alike. -/
theorem sqlite_agrees_redis [DecidableEq W] (e : SqliteEngine) (processes : W → RedisProcess)
    {clock : ℚ} (h_clock : 0 ≤ clock) {calls : List (TxnInput × Request)} {p : Side}
    {events : List (AnsweredCall W)} {q : Twin W}
    (h_sqlite : Run Side.Steps (Side.start e clock) calls p)
    (h_redis : Run Twin.Steps (Twin.start e.deployment processes clock) events q)
    (h_same : calls.map (fun call => (call.1.currentTime, call.2)) =
      events.map fun event => (event.call.currentTime, event.call.request))
    (h_retained : ∀ event ∈ events, ¬ event.Refused) :
    (∀ id ∈ e.buckets, ∀ currentTime, p.clock ≤ currentTime → q.clock ≤ currentTime →
      p.sqlite.db.Unexpired currentTime → ∀ worker,
        ∃ state, p.sqlite.snapshot id currentTime = .ok state ∧
          Alone currentTime
            (fun read s' => read.capacities id = state.capacity ∧
              RedisBackend.maxCapacities s'.client id = state.maxCapacity.value)
            (RedisBackend.getCapacitiesUnsafe (q.fleet.clients worker).bucketKeys currentTime)
            (q.fleet.session worker)) ∧
    ∀ input call, p.Admissible (input, call.request) → q.Admissible call →
      input.currentTime = call.currentTime →
      ∀ result fleet', q.fleet.Calls call result fleet' →
        result = .error (.valueError .retentionTooLong) ∨
          result = (p.sqlite.handle input call.request).1.map Outcome.seen := by
  have h_start := Side.start_simulated e h_clock
  have h_side : p.Simulated e.buckets :=
    h_sqlite.invariant (fun _ _ _ => Side.steps_simulated) h_start
  have h_twin : q.Simulated := Twin.run_simulated h_clock h_redis
  have h_memory : p.memory = q.memory := by
    have h_answers := Side.run_answers h_start h_sqlite
    have h_answers' := Twin.run_answers (Twin.start_simulated e.deployment processes h_clock) h_redis
    have h_kept : ∀ answer ∈ events.map AnsweredCall.answer, ¬ answer.Refused := by
      intro answer h_mem
      obtain ⟨event, h_event, rfl⟩ := List.mem_map.mp h_mem
      exact h_retained event h_event
    rw [answers_afterCalls h_answers (Side.run_retained h_sqlite), Side.answers_calls, h_same,
      answers_afterCalls h_answers' h_kept, List.map_map]
    rfl
  refine ⟨fun id h_mem currentTime h_le h_le' h_unexpired worker => ?_,
    fun input call h_call h_call' h_time result fleet' h_calls => ?_⟩
  · rw [← h_side.buckets_eq] at h_mem
    have h_row := h_mem
    rw [← h_side.sim.buckets_eq] at h_row
    obtain ⟨state, h_snapshot, h_state⟩ :=
      h_side.sim.snapshot h_unexpired h_le (h_side.nonneg.trans h_le) h_row
    refine ⟨state, h_snapshot, (h_twin.reads worker h_le').mono fun read s' h_found => ?_⟩
    rw [h_memory] at h_mem h_state
    obtain ⟨h_capacity, h_limit⟩ := h_found id h_mem
    rw [h_state.capacity, h_state.maxCapacity]
    exact ⟨h_capacity, h_limit⟩
  · obtain h_refused | ⟨h_outcome, _⟩ := Side.refines h_side h_call
    · exact absurd h_refused h_call.retained
    · have h_outcome : (p.sqlite.handle input call.request).1 =
          (p.memory.step input.currentTime call.request).outcome := h_outcome
      rw [h_outcome, h_memory, h_time]
      exact h_twin.answers h_call' h_calls

/-! ## A run with a debt and a refund -/

/-- Of the 60 tokens consumed under `a` only 20 were used. -/
def exampleRefund : RefundRequest where
  reservedUsage := tokens 60
  actualUsage := tokens 20
  bucketIds := none
  reservationId := some "a"
  reservationModelFamily := some "m"
  reservationBucketIds := some {tokensPerMinute}
  reservationReservedUsage := some (tokens 60)

namespace Side

/-- Consumes 100 where 40 are left. -/
def overdraft : TxnInput × Request :=
  (.at 0, .consumeCapacity (tokens 100) (some "b") (some 3600))

def refundCall : TxnInput × Request := (.at 0, .refundCapacityForBuckets exampleRefund)

/-- A minute later the 20 that are still owed are repaid, and 80 are there. -/
def laterCall : TxnInput × Request :=
  (.at 60, .awaitForCapacity (tokens 60) (some "c") (some 3600))

/-- After the first two calls, the first three, and all four. -/
def indebted : Side := ((start exampleEngine 0).step firstCall).step overdraft

def refunded : Side := indebted.step refundCall

def repaid : Side := refunded.step laterCall

theorem indebted_lasts : indebted.sqlite.Lasts 0 600 := by
  refine step_lasts firstCall_lasts (le_refl _) ?_
  rintro seconds ⟨⟩
  show (600 : ℚ) < 0 + 3600
  norm_num

theorem refunded_lasts : refunded.sqlite.Lasts 0 600 := step_lasts indebted_lasts (le_refl _) nofun

theorem repaid_lasts : repaid.sqlite.Lasts 60 600 := by
  refine step_lasts refunded_lasts (by decide) ?_
  rintro seconds ⟨⟩
  show (600 : ℚ) < 60 + 3600
  norm_num

/-- Each of the calls is admissible where it is made. -/
theorem repaid_steps : Steps ((start exampleEngine 0).step firstCall) overdraft indebted ∧
    Steps indebted refundCall refunded ∧ Steps refunded laterCall repaid := by
  refine ⟨⟨?_, rfl⟩, ⟨?_, rfl⟩, ?_, rfl⟩
  · refine ⟨le_refl _, rfl, firstCall_lasts.unexpired.earlier (by decide), by decide +kernel,
      by decide +kernel, ?_⟩
    exact requested_example "b" (by norm_num) (by decide +kernel) (by decide +kernel)
  · refine ⟨le_refl _, rfl, indebted_lasts.unexpired.earlier (by decide), by decide +kernel,
      by decide +kernel, by decide +kernel, ?_⟩
    rintro rid ⟨⟩
    refine ⟨{tokensPerMinute}, tokens 60, by decide +kernel, rfl, rfl, fun live h_live => ?_⟩
    have h_marker : indebted.memory.acquiredReservationValues "a" =
        some ({tokensPerMinute}, tokens 60) := by decide +kernel
    rw [h_marker] at h_live
    injection h_live with h_live
    exact h_live.symm
  · refine ⟨by decide, rfl, refunded_lasts.unexpired.earlier (by decide), by decide +kernel,
      by decide +kernel, ?_⟩
    exact requested_example "c" (by norm_num) (by decide +kernel) (by decide +kernel)

theorem repaid_run :
    Run Steps (start exampleEngine 0) [firstCall, overdraft, refundCall, laterCall] repaid := by
  obtain ⟨h_overdraft, h_refund, h_later⟩ := repaid_steps
  exact .cons ⟨firstCall_admissible, rfl⟩ (.cons h_overdraft (.cons h_refund
    (.cons h_later (.nil _))))

end Side

namespace Twin

/-- The other process consumes 100 where 40 are left. -/
def overdraft : FleetCall Bool :=
  ⟨false, .consumeCapacity (tokens 100) (some "b") (some 3600), 0, false⟩

def refundCall : FleetCall Bool := ⟨true, .refundCapacityForBuckets exampleRefund, 0, false⟩

def laterCall : FleetCall Bool :=
  ⟨false, .awaitForCapacity (tokens 60) (some "c") (some 3600), 60, false⟩

def indebted : Twin Bool := (exampleTwin.play firstCall).play overdraft

def refunded : Twin Bool := indebted.play refundCall

def repaid : Twin Bool := refunded.play laterCall

/-- Each of the calls is admissible where it is made, and ends so. -/
theorem repaid_steps : Steps (exampleTwin.play firstCall) ⟨overdraft, .ok .consumed⟩ indebted ∧
    Steps indebted ⟨refundCall, .ok .done⟩ refunded ∧
    Steps refunded ⟨laterCall, .ok .consumed⟩ repaid := by
  refine ⟨steps_play ⟨le_refl _, ?_, fun _ => by decide⟩ (by decide +kernel),
    steps_play ⟨le_refl _, by decide +kernel, ?_⟩ (by decide +kernel),
    steps_play ⟨by decide, ?_⟩ (by decide +kernel)⟩
  · have h_metrics : ((exampleTwin.play firstCall).fleet.clients false).metricNames =
        {"tokens"} := by decide +kernel
    exact h_metrics ▸ covers_tokens (by norm_num)
  · rintro rid ⟨⟩
    refine ⟨{tokensPerMinute}, tokens 60, ?_, rfl, rfl, by decide +kernel, ?_,
      fun live h_live => ?_⟩
    · decide +kernel
    · decide +kernel
    · have h_marker : indebted.memory.acquiredReservationValues "a" =
          some ({tokensPerMinute}, tokens 60) := by decide +kernel
      rw [h_marker] at h_live
      injection h_live with h_live
      exact h_live.symm
  · exact serves_example (by decide +kernel) (by decide +kernel)

theorem repaid_run : Run Steps exampleTwin
    [⟨firstCall, .ok .consumed⟩, ⟨overdraft, .ok .consumed⟩, ⟨refundCall, .ok .done⟩,
      ⟨laterCall, .ok .consumed⟩] repaid := by
  obtain ⟨h_overdraft, h_refund, h_later⟩ := repaid_steps
  exact .cons firstCall_steps (.cons h_overdraft (.cons h_refund (.cons h_later (.nil _))))

end Twin

/-- After the debt, the refund and the later call both show 30 of 100 tokens at second 66, and
    answer a call for 60 alike. -/
theorem sqlite_agrees_redis_repaid :
    (∀ worker, ∃ state, Side.repaid.sqlite.snapshot tokensPerMinute 66 = .ok state ∧
      state.capacity = 30 ∧
      Alone 66
        (fun read s' => read.capacities tokensPerMinute = state.capacity ∧
          RedisBackend.maxCapacities s'.client tokensPerMinute = state.maxCapacity.value)
        (RedisBackend.getCapacitiesUnsafe (Twin.repaid.fleet.clients worker).bucketKeys 66)
        (Twin.repaid.fleet.session worker)) ∧
    ∀ result fleet', Twin.repaid.fleet.Calls
        ⟨true, .awaitForCapacity (tokens 60) (some "d") (some 3600), 66, false⟩ result fleet' →
      result = .error (.valueError .retentionTooLong) ∨ result = .ok .unavailable := by
  obtain ⟨h_reads, h_next⟩ := sqlite_agrees_redis exampleEngine (fun _ => Twin.exampleProcess)
    (le_refl 0) Side.repaid_run Twin.repaid_run rfl (by simp [AnsweredCall.Refused])
  refine ⟨fun worker => ?_, fun result fleet' h_calls => ?_⟩
  · obtain ⟨state, h_state, h_read⟩ := h_reads tokensPerMinute (by decide) 66 (by decide +kernel)
      (by decide +kernel) (Side.repaid_lasts.unexpired.earlier (by decide)) worker
    have h_snapshot : (Side.repaid.sqlite.snapshot tokensPerMinute 66).map BucketState.capacity =
        .ok 30 := by decide +kernel
    rw [h_state] at h_snapshot
    injection h_snapshot with h_capacity
    exact ⟨state, h_state, h_capacity, h_read⟩
  · have h_sqlite : Side.repaid.Admissible
        (.at 66, .awaitForCapacity (tokens 60) (some "d") (some 3600)) := by
      refine ⟨by decide +kernel, rfl, Side.repaid_lasts.unexpired.earlier (by decide),
        by decide +kernel, by decide +kernel, ?_⟩
      exact Side.requested_example "d" (by norm_num) (by decide +kernel) (by decide +kernel)
    have h_redis : Twin.repaid.Admissible
        ⟨true, .awaitForCapacity (tokens 60) (some "d") (some 3600), 66, false⟩ :=
      ⟨by decide, Twin.serves_example (by decide +kernel) (by decide +kernel)⟩
    have h_outcome : (Side.repaid.sqlite.handle (.at 66) (.awaitForCapacity (tokens 60) (some "d")
        (some 3600))).1.map Outcome.seen = .ok .unavailable := by decide +kernel
    rw [← h_outcome]
    exact h_next (.at 66) ⟨true, .awaitForCapacity (tokens 60) (some "d") (some 3600), 66, false⟩
      h_sqlite h_redis rfl result fleet' h_calls

end TokenThrottle
