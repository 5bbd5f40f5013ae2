/-
  TokenThrottle.Memory.Commits

  What concurrent calls on one memory backend commit to it, and in which order.

  * A commit is a request that was handled under the condition lock.  The backend after any
    interleaving is the one that handles the commits one after the other.
  * A call that ended has committed denied attempts, and then what its end says: a
    consumption or a replay where it returned; nothing, a replay, or a consumption that was
    cleaned up where it raised.
  * The exception is a call that is abandoned: cancelled while it takes the lock again to
    deregister after it consumed, or left by a cleanup that raises.
-/
import TokenThrottle.Memory.Interleaving

namespace TokenThrottle
namespace MemoryBackend

open Theory (Run Steps exists_run_of_exec)

/-! ## Commits -/

/-- A request that was handled under the lock, and the call it was handled for. -/
structure Commit where
  who : Option CallId
  time : ℚ
  request : Request
  outcome : Outcome

/-- One commit after the other. -/
def Handles (s : MemoryBackend) (commit : Commit) (s' : MemoryBackend) : Prop :=
  s.handle commit.request commit.time = .ok (commit.outcome, s')

def AcquireCall.attemptRequest (call : AcquireCall) : Request :=
  .awaitForCapacity call.usage call.reservationId none

def AcquireCall.cleanupRequest (call : AcquireCall) : Request :=
  .refundCancelledConsumption call.usage call.reservationId

namespace System

/-- What a step commits. -/
def commit (s : System) : Label → Option Commit
  | .attempt i time _ =>
    match s.calls i with
    | some call =>
      match s.backend.attempt call.usage call.reservationId time with
      | .ok (outcome, _) => some ⟨some i, time, call.attemptRequest, outcome⟩
      | .error _ => none
    | none => none
  | .cleanup i time =>
    match s.calls i with
    | some call =>
      match s.backend.refundCancelledConsumption call.usage call.reservationId time with
      | .ok (outcome, _) => some ⟨some i, time, call.cleanupRequest, outcome⟩
      | .error _ => none
    | none => none
  | .refund time request =>
    match s.backend.refundCapacityForBuckets request time with
    | .ok (outcome, _) => some ⟨none, time, .refundCapacityForBuckets request, outcome⟩
    | .error _ => none
  | _ => none

/-- The call whose consumption a step leaves behind. -/
def abandons (s : System) : Label → Option CallId
  | .interrupt i =>
    match s.calls i with
    | some call => if call.phase = .deregistering .callbacks then some i else none
    | none => none
  | .cleanup i time =>
    match s.calls i with
    | some call =>
      match s.backend.refundCancelledConsumption call.usage call.reservationId time with
      | .ok _ => none
      | .error _ => some i
    | none => none
  | _ => none

end System

/-- The system with its commits, and the calls whose consumption was abandoned. -/
structure CommitLog where
  system : System
  history : List Commit
  abandoned : List CallId

namespace CommitLog

def init (buckets : List BucketId) (limit : BucketId → MaxCapacity) : CommitLog where
  system := System.init buckets limit
  history := []
  abandoned := []

def step (s : CommitLog) (label : System.Label) : Option CommitLog :=
  (s.system.step label).map fun system =>
    { system := system
      history := s.history ++ (s.system.commit label).toList
      abandoned := (s.system.abandons label).toList ++ s.abandoned }

/-- The outcomes of the commits of a call. -/
def outcomesOf (history : List Commit) (i : CallId) : List Outcome :=
  (history.filter fun commit => commit.who = some i).map Commit.outcome

/-- How the outcomes of a call may end at an await point, after its denied attempts. -/
def tails (abandoned : Bool) : Phase → List (List Outcome)
  | .waiting _ | .deregistering .raised => [[]]
  | .deregistering .returned => [[.replayed]]
  | .deregistering .callbacks | .callbacks | .cleaning => [[.consumed]]
  | .returned => [[.consumed], [.replayed]]
  | .raised => if abandoned then [[.consumed]] else [[], [.replayed], [.consumed, .done]]

/-- The outcomes of a call at an await point. -/
def Settles (abandoned : Bool) (phase : Phase) (outcomes : List Outcome) : Prop :=
  ∃ denied, ∃ tail ∈ tails abandoned phase,
    outcomes = List.replicate denied .unavailable ++ tail

/-- The commits of a call are its attempts and its cleanup. -/
def OwnRequest (call : AcquireCall) (commit : Commit) : Prop :=
  commit.request = if commit.outcome = .done then call.cleanupRequest else call.attemptRequest

/-- The invariant of the log. -/
structure Sound (buckets : List BucketId) (limit : BucketId → MaxCapacity) (s : CommitLog) :
    Prop where
  handled : Run Handles (MemoryBackend.init buckets limit) s.history s.system.backend
  covers : ∀ i call, s.system.calls i = some call →
    Covers call.usage s.system.backend.usageMetricNames
  own : ∀ commit ∈ s.history, ∀ i, commit.who = some i →
    ∃ call, s.system.calls i = some call ∧ OwnRequest call commit
  settled : ∀ i call, s.system.calls i = some call →
    Settles (i ∈ s.abandoned) call.phase (outcomesOf s.history i)
  ended : ∀ i ∈ s.abandoned, ∃ call, s.system.calls i = some call ∧ call.phase = .raised

variable {buckets : List BucketId} {limit : BucketId → MaxCapacity} {s s' : CommitLog}
  {i : CallId} {call : AcquireCall} {phase : Phase} {history : List Commit}
  {outcomes : List Outcome} {outcome : Outcome} {backend : MemoryBackend}

theorem sound_init (buckets : List BucketId) (limit : BucketId → MaxCapacity) :
    (init buckets limit).Sound buckets limit where
  handled := .nil _
  covers _ _ h_call := by cases h_call
  own _ h_mem := absurd h_mem List.not_mem_nil
  settled _ _ h_call := by cases h_call
  ended _ h_mem := absurd h_mem List.not_mem_nil

/-! ### Outcomes -/

theorem outcomesOf_append (history : List Commit) (commit : Commit) (i : CallId) :
    outcomesOf (history ++ [commit]) i =
      outcomesOf history i ++ if commit.who = some i then [commit.outcome] else [] := by
  unfold outcomesOf
  rw [List.filter_append, List.map_append]
  by_cases h_who : commit.who = some i
  · simp [h_who]
  · simp [h_who]

/-- A call without commits has only denied attempts to show. -/
theorem outcomesOf_eq_nil (h_none : ∀ commit ∈ history, commit.who ≠ some i) :
    outcomesOf history i = [] := by
  unfold outcomesOf
  rw [List.map_eq_nil_iff, List.filter_eq_nil_iff]
  intro commit h_mem h_who
  exact h_none commit h_mem (of_decide_eq_true h_who)

/-- Where the tails of one await point are tails of the next, nothing is committed. -/
theorem Settles.mono {abandoned abandoned' : Bool} {phase' : Phase}
    (h_settles : Settles abandoned phase outcomes)
    (h_tails : tails abandoned phase ⊆ tails abandoned' phase') :
    Settles abandoned' phase' outcomes := by
  obtain ⟨denied, tail, h_mem, h_outcomes⟩ := h_settles
  exact ⟨denied, tail, h_tails h_mem, h_outcomes⟩

/-- A commit that is not denied is the end of the outcomes, or the cleanup after it. -/
theorem Settles.snoc {abandoned abandoned' : Bool} {phase' : Phase}
    (h_settles : Settles abandoned phase outcomes)
    (h_tails : ∀ tail ∈ tails abandoned phase, tail ++ [outcome] ∈ tails abandoned' phase') :
    Settles abandoned' phase' (outcomes ++ [outcome]) := by
  obtain ⟨denied, tail, h_mem, h_outcomes⟩ := h_settles
  refine ⟨denied, tail ++ [outcome], h_tails tail h_mem, ?_⟩
  rw [h_outcomes, List.append_assoc]

/-- One more denied attempt. -/
theorem Settles.denied {abandoned abandoned' : Bool} {phase' : Phase}
    (h_settles : Settles abandoned phase outcomes) (h_before : tails abandoned phase = [[]])
    (h_after : [] ∈ tails abandoned' phase') :
    Settles abandoned' phase' (outcomes ++ [.unavailable]) := by
  obtain ⟨denied, tail, h_mem, h_outcomes⟩ := h_settles
  rw [h_before, List.mem_singleton] at h_mem
  refine ⟨denied + 1, [], h_after, ?_⟩
  rw [h_outcomes, h_mem, List.append_nil, List.append_nil, List.replicate_succ']

/-- Whether a call has to deregister does not show in its commits. -/
theorem tails_leave (exit : Exit) (registered : Bool) :
    tails false (.deregistering exit) ⊆ tails false (exit.leave registered) := by
  cases registered with
  | true => exact List.Subset.refl _
  | false =>
    cases exit with
    | returned => decide
    | callbacks => decide
    | raised => decide

/-- An attempt that ends the waiting. -/
theorem Settles.leave {registered : Bool} {exit : Exit}
    (h_settles : Settles false (.waiting registered) outcomes)
    (h_outcome : [outcome] ∈ tails false (.deregistering exit)) :
    Settles false (exit.leave registered) (outcomes ++ [outcome]) := by
  apply h_settles.snoc
  intro tail h_tail
  rw [List.mem_singleton.mp h_tail]
  exact tails_leave exit registered h_outcome

/-! ### Steps -/

/-- A call that has not raised yet is not abandoned. -/
theorem Sound.not_abandoned (h_sound : s.Sound buckets limit)
    (h_call : s.system.calls i = some call) (h_open : call.phase ≠ .raised) :
    i ∉ s.abandoned := by
  intro h_mem
  obtain ⟨ended, h_ended, h_phase⟩ := h_sound.ended i h_mem
  rw [h_call] at h_ended
  cases h_ended
  exact h_open h_phase

/-- What an open call may end with so far. -/
theorem Sound.settles (h_sound : s.Sound buckets limit) (h_call : s.system.calls i = some call)
    (h_open : call.phase ≠ .raised) :
    Settles false call.phase (outcomesOf s.history i) := by
  have h_settles := h_sound.settled i call h_call
  rw [decide_eq_false (h_sound.not_abandoned h_call h_open)] at h_settles
  exact h_settles

/-- A step of one call: the others are where they were, with the commits they had. -/
theorem Sound.update {system' : System} {abandoned' : List CallId} (h_sound : s.Sound buckets limit)
    (h_call : s.system.calls i = some call)
    (h_calls : ∀ j, system'.calls j =
      if j = i then some { call with phase := phase } else s.system.calls j)
    (h_metrics : system'.backend.usageMetricNames = s.system.backend.usageMetricNames)
    (h_handled : Run Handles (MemoryBackend.init buckets limit) history system'.backend)
    (h_own : ∀ commit ∈ history,
      commit ∈ s.history ∨ commit.who = some i ∧ OwnRequest call commit)
    (h_others : ∀ j, j ≠ i → outcomesOf history j = outcomesOf s.history j ∧
      (j ∈ abandoned' ↔ j ∈ s.abandoned))
    (h_ended : i ∈ abandoned' → phase = .raised)
    (h_settles : Settles (i ∈ abandoned') phase (outcomesOf history i)) :
    Sound buckets limit ⟨system', history, abandoned'⟩ := by
  refine ⟨h_handled, fun j call' h_call' => ?_, fun commit h_mem j h_who => ?_,
    fun j call' h_call' => ?_, fun j h_mem => ?_⟩
  · -- the call keeps its usage, and no step changes the buckets
    show Covers call'.usage system'.backend.usageMetricNames
    have h_call' : system'.calls j = some call' := h_call'
    rw [h_metrics]
    rw [h_calls] at h_call'
    split at h_call'
    · cases h_call'
      exact h_sound.covers i call h_call
    · exact h_sound.covers j call' h_call'
  · show ∃ call', system'.calls j = some call' ∧ _
    rw [h_calls]
    rcases h_own commit h_mem with h_old | ⟨h_new, h_request⟩
    · obtain ⟨call', h_call', h_request⟩ := h_sound.own commit h_old j h_who
      by_cases h_same : j = i
      · rw [h_same, h_call] at h_call'
        cases h_call'
        rw [if_pos h_same]
        exact ⟨_, rfl, h_request⟩
      · rw [if_neg h_same]
        exact ⟨call', h_call', h_request⟩
    · rw [h_new] at h_who
      rw [if_pos (Option.some.inj h_who).symm]
      exact ⟨_, rfl, h_request⟩
  · have h_call' : system'.calls j = some call' := h_call'
    rw [h_calls] at h_call'
    split at h_call'
    · rename_i h_same
      cases h_call'
      rw [h_same]
      exact h_settles
    · rename_i h_other
      obtain ⟨h_outcomes, h_abandoned⟩ := h_others j h_other
      show Settles (j ∈ abandoned') call'.phase (outcomesOf history j)
      rw [h_outcomes, decide_eq_decide.mpr h_abandoned]
      exact h_sound.settled j call' h_call'
  · show ∃ call', system'.calls j = some call' ∧ _
    rw [h_calls]
    by_cases h_same : j = i
    · rw [if_pos h_same]
      exact ⟨_, rfl, h_ended (h_same ▸ h_mem)⟩
    · rw [if_neg h_same]
      exact h_sound.ended j ((h_others j h_same).2.mp h_mem)

/-- A call that moves without a commit. -/
theorem Sound.move (h_sound : s.Sound buckets limit) (h_call : s.system.calls i = some call)
    (h_open : call.phase ≠ .raised) (h_tails : tails false call.phase ⊆ tails false phase) :
    Sound buckets limit ⟨s.system.setPhase i call phase, s.history, s.abandoned⟩ := by
  have h_kept := h_sound.not_abandoned h_call h_open
  refine h_sound.update h_call (fun j => System.setPhase_calls _ _ _ _ _) rfl h_sound.handled
    (fun commit h_mem => .inl h_mem) (fun j _ => ⟨rfl, Iff.rfl⟩)
    (fun h_mem => absurd h_mem h_kept) ?_
  rw [decide_eq_false h_kept]
  exact (h_sound.settles h_call h_open).mono h_tails

/-- A call whose consumption is left behind. -/
theorem Sound.abandon (h_sound : s.Sound buckets limit) (h_call : s.system.calls i = some call)
    (h_open : call.phase ≠ .raised) (h_tails : tails false call.phase = [[.consumed]]) :
    Sound buckets limit
      ⟨s.system.setPhase i call .raised, s.history, i :: s.abandoned⟩ := by
  refine h_sound.update h_call (fun j => System.setPhase_calls _ _ _ _ _) rfl h_sound.handled
    (fun commit h_mem => .inl h_mem) (fun j h_other => ⟨rfl, ?_⟩) (fun _ => rfl) ?_
  · rw [List.mem_cons]
    exact or_iff_right h_other
  · rw [decide_eq_true List.mem_cons_self]
    apply (h_sound.settles h_call h_open).mono
    rw [h_tails]
    exact List.Subset.refl _

/-- A call that commits. -/
theorem Sound.commit {system' : System} {time : ℚ} {request : Request}
    (h_sound : s.Sound buckets limit) (h_call : s.system.calls i = some call)
    (h_open : call.phase ≠ .raised)
    (h_calls : system'.calls = (s.system.setPhase i call phase).calls)
    (h_handles : s.system.backend.handle request time = .ok (outcome, system'.backend))
    (h_own : OwnRequest call ⟨some i, time, request, outcome⟩)
    (h_settles : Settles false phase (outcomesOf s.history i ++ [outcome])) :
    Sound buckets limit
      ⟨system', s.history ++ [⟨some i, time, request, outcome⟩], s.abandoned⟩ := by
  have h_kept := h_sound.not_abandoned h_call h_open
  have h_metrics : system'.backend.usageMetricNames = s.system.backend.usageMetricNames := by
    unfold usageMetricNames bucketIds
    rw [handle_buckets h_handles]
  have h_calls : ∀ j, system'.calls j =
      if j = i then some { call with phase := phase } else s.system.calls j := by
    intro j
    rw [h_calls]
    exact System.setPhase_calls _ _ _ _ _
  refine h_sound.update h_call h_calls h_metrics ?_ (fun commit h_mem => ?_)
    (fun j h_other => ⟨?_, Iff.rfl⟩) (fun h_mem => absurd h_mem h_kept) ?_
  · exact h_sound.handled.snoc h_handles
  · rcases List.mem_append.mp h_mem with h_old | h_new
    · exact .inl h_old
    · rw [List.mem_singleton.mp h_new]
      exact .inr ⟨rfl, h_own⟩
  · rw [outcomesOf_append, if_neg fun h_who => h_other (Option.some.inj h_who).symm,
      List.append_nil]
  · rw [decide_eq_false h_kept, outcomesOf_append, if_pos rfl]
    exact h_settles

/-- A new call. -/
theorem Sound.start {usage : FrozenUsage} {reservationId : Option ReservationId}
    (h_sound : s.Sound buckets limit) (h_new : s.system.calls i = none)
    (h_covers : Covers usage s.system.backend.usageMetricNames) :
    Sound buckets limit
      ⟨s.system.setPhase i ⟨usage, reservationId, .waiting false⟩ (.waiting false), s.history,
        s.abandoned⟩ := by
  have h_calls : ∀ j, (s.system.setPhase i ⟨usage, reservationId, .waiting false⟩
      (.waiting false)).calls j = if j = i then some ⟨usage, reservationId, .waiting false⟩
        else s.system.calls j := fun j => System.setPhase_calls _ _ _ _ _
  have h_old : ∀ {j call'}, s.system.calls j = some call' → j ≠ i := by
    intro j call' h_call' h_same
    rw [h_same, h_new] at h_call'
    cases h_call'
  refine ⟨h_sound.handled, fun j call' h_call' => ?_, fun commit h_mem j h_who => ?_,
    fun j call' h_call' => ?_, fun j h_mem => ?_⟩
  · have h_call' := (h_calls j).symm.trans h_call'
    split at h_call'
    · cases h_call'
      exact h_covers
    · exact h_sound.covers j call' h_call'
  · obtain ⟨call', h_call', h_own⟩ := h_sound.own commit h_mem j h_who
    exact ⟨call', ((h_calls j).trans (if_neg (h_old h_call'))).trans h_call', h_own⟩
  · have h_call' := (h_calls j).symm.trans h_call'
    split at h_call'
    · rename_i h_same
      cases h_call'
      -- no commit can be for a call that was not there
      refine ⟨0, [], ?_, ?_⟩
      · exact List.mem_singleton_self _
      · apply outcomesOf_eq_nil
        intro commit h_mem h_who
        obtain ⟨call', h_call', _⟩ := h_sound.own commit h_mem j h_who
        exact h_old h_call' h_same
    · exact h_sound.settled j call' h_call'
  · obtain ⟨call', h_call', h_phase⟩ := h_sound.ended j h_mem
    exact ⟨call', ((h_calls j).trans (if_neg (h_old h_call'))).trans h_call', h_phase⟩

/-- A refund is a commit of no call. -/
theorem Sound.refund {system' : System} {time : ℚ} {request : RefundRequest}
    (h_sound : s.Sound buckets limit) (h_calls : system'.calls = s.system.calls)
    (h_ok : s.system.backend.refundCapacityForBuckets request time =
      .ok (outcome, system'.backend)) :
    Sound buckets limit
      ⟨system', s.history ++ [⟨none, time, .refundCapacityForBuckets request, outcome⟩],
        s.abandoned⟩ := by
  have h_outcomes : ∀ j, outcomesOf
      (s.history ++ [⟨none, time, .refundCapacityForBuckets request, outcome⟩]) j =
        outcomesOf s.history j := by
    intro j
    rw [outcomesOf_append, if_neg (by simp), List.append_nil]
  refine ⟨h_sound.handled.snoc h_ok, fun j call' h_call' => ?_, fun commit h_mem j h_who => ?_,
    fun j call' h_call' => ?_, fun j h_mem => ?_⟩
  · show Covers call'.usage system'.backend.usageMetricNames
    unfold usageMetricNames bucketIds
    rw [refundCapacityForBuckets_buckets h_ok]
    exact h_sound.covers j call' (h_calls ▸ h_call')
  · show ∃ call', system'.calls j = some call' ∧ _
    rw [h_calls]
    rcases List.mem_append.mp h_mem with h_old | h_new
    · exact h_sound.own commit h_old j h_who
    · rw [List.mem_singleton.mp h_new] at h_who
      cases h_who
  · show Settles (j ∈ s.abandoned) call'.phase _
    rw [h_outcomes]
    exact h_sound.settled j call' (h_calls ▸ h_call')
  · show ∃ call', system'.calls j = some call' ∧ _
    rw [h_calls]
    exact h_sound.ended j h_mem

/-! ### Labels -/

/-- An attempt that does not raise consumes, replays, or is denied. -/
theorem attempt_outcome {b b' : MemoryBackend} {usage : FrozenUsage}
    {reservationId : Option ReservationId} {time : ℚ}
    (h_ok : b.attempt usage reservationId time = .ok (outcome, b')) : outcome ≠ .done := by
  obtain ⟨replayed, _, h_ok⟩ := bind_eq_ok h_ok
  cases replayed with
  | true =>
    cases h_ok
    exact fun h_eq => by cases h_eq
  | false =>
    obtain ⟨preconsumption, _, h_ok⟩ := bind_eq_ok h_ok
    obtain ⟨result, _, h_ok⟩ := bind_eq_ok h_ok
    cases result with
    | none =>
      cases h_ok
      exact fun h_eq => by cases h_eq
    | some postconsumption =>
      cases h_ok
      exact fun h_eq => by cases h_eq

theorem cleanup_outcome {b b' : MemoryBackend} {usage : FrozenUsage}
    {reservationId : Option ReservationId} {time : ℚ}
    (h_ok : b.refundCancelledConsumption usage reservationId time = .ok (outcome, b')) :
    outcome = .done := by
  obtain ⟨capacities, _, h_ok⟩ := bind_eq_ok h_ok
  cases h_ok
  rfl

/-- An attempt of a call is the request it makes. -/
theorem Sound.attempt_handles {time : ℚ} (h_sound : s.Sound buckets limit)
    (h_call : s.system.calls i = some call)
    (h_ok : s.system.backend.attempt call.usage call.reservationId time =
      .ok (outcome, backend)) :
    s.system.backend.handle call.attemptRequest time = .ok (outcome, backend) := by
  show s.system.backend.awaitForCapacity call.usage call.reservationId time = _
  have h_valid : validateBackendUsage call.usage s.system.backend.usageMetricNames = .ok () :=
    validateUsageMapping_eq_ok_iff.mpr (h_sound.covers i call h_call)
  unfold awaitForCapacity
  rw [h_valid]
  exact h_ok

theorem attempt_sound {time : ℚ} {deadlinePassed : Bool} (h_sound : s.Sound buckets limit)
    (h_step : Steps step s (.attempt i time deadlinePassed) s') : s'.Sound buckets limit := by
  obtain ⟨system', h_system, rfl⟩ := Option.map_eq_some_iff.mp h_step
  simp only [System.step] at h_system
  split at h_system
  · rename_i call h_call
    split at h_system
    · rename_i registered h_phase
      have h_open : call.phase ≠ .raised := h_phase.trans_ne fun h_eq => by cases h_eq
      have h_settles := h_sound.settles h_call h_open
      rw [h_phase] at h_settles
      simp only [System.commit, System.abandons, h_call]
      split at h_system
      · rename_i after h_ok
        cases h_system
        rw [h_ok]
        refine h_sound.commit h_call h_open rfl (h_sound.attempt_handles h_call h_ok) rfl ?_
        exact h_settles.leave (List.mem_singleton_self _)
      · rename_i after h_ok
        cases h_system
        rw [h_ok]
        -- a denied attempt is a commit too: it leaves the backend as it was
        obtain ⟨_, rfl⟩ | ⟨h_consumed, _⟩ := attempt_cases h_ok
        · refine h_sound.commit h_call h_open rfl (h_sound.attempt_handles h_call h_ok) rfl ?_
          apply h_settles.denied rfl
          cases deadlinePassed with
          | true => decide
          | false => decide
        · cases h_consumed
      · rename_i result h_consumed h_denied h_ok
        obtain ⟨outcome, after⟩ := result
        cases h_system
        rw [h_ok]
        -- the source tells the outcomes apart only as far as it has to
        have h_replayed : outcome = .replayed := by
          cases outcome with
          | consumed => exact absurd rfl (h_consumed _)
          | replayed => rfl
          | unavailable => exact absurd rfl (h_denied _)
          | done => exact absurd rfl (attempt_outcome h_ok)
        rw [h_replayed] at h_ok ⊢
        obtain ⟨_, rfl⟩ | ⟨h_consumed, _⟩ := attempt_cases h_ok
        · refine h_sound.commit h_call h_open rfl (h_sound.attempt_handles h_call h_ok) rfl ?_
          exact h_settles.leave (List.mem_singleton_self _)
        · cases h_consumed
      · rename_i error h_error
        cases h_system
        rw [h_error]
        have h_tails : tails false call.phase ⊆ tails false (Exit.raised.leave registered) := by
          rw [h_phase]
          exact tails_leave .raised registered
        have h_moved := h_sound.move h_call h_open h_tails
        rw [← List.append_nil s.history] at h_moved
        exact h_moved
    · cases h_system
  · cases h_system

theorem interrupt_sound (h_sound : s.Sound buckets limit)
    (h_step : Steps step s (.interrupt i) s') : s'.Sound buckets limit := by
  obtain ⟨system', h_system, rfl⟩ := Option.map_eq_some_iff.mp h_step
  simp only [System.step] at h_system
  split at h_system
  · rename_i call h_call
    simp only [System.commit, System.abandons, h_call, Option.toList_none, List.append_nil]
    split at h_system
    · rename_i registered h_phase
      cases h_system
      rw [h_phase, if_neg (fun h_eq => by cases h_eq)]
      refine h_sound.move h_call (h_phase.trans_ne fun h_eq => by cases h_eq) ?_
      rw [h_phase]
      exact tails_leave .raised registered
    · rename_i exit h_phase
      cases h_system
      have h_open : call.phase ≠ .raised := h_phase.trans_ne fun h_eq => by cases h_eq
      cases exit with
      | callbacks =>
        -- the consumption is left behind
        rw [h_phase, if_pos rfl]
        exact h_sound.abandon h_call h_open (by rw [h_phase]; rfl)
      | returned =>
        rw [h_phase, if_neg (fun h_eq => by cases h_eq)]
        exact h_sound.move h_call h_open (by rw [h_phase]; decide)
      | raised =>
        rw [h_phase, if_neg (fun h_eq => by cases h_eq)]
        exact h_sound.move h_call h_open (by rw [h_phase]; decide)
    · rename_i h_phase
      cases h_system
      rw [h_phase, if_neg (fun h_eq => by cases h_eq)]
      refine h_sound.move h_call (h_phase.trans_ne fun h_eq => by cases h_eq) ?_
      rw [h_phase]
      decide
    · rename_i h_phase
      cases h_system
      rw [h_phase, if_neg (fun h_eq => by cases h_eq)]
      exact h_sound
    · cases h_system
  · cases h_system

theorem deregister_sound (h_sound : s.Sound buckets limit)
    (h_step : Steps step s (.deregister i) s') : s'.Sound buckets limit := by
  obtain ⟨system', h_system, rfl⟩ := Option.map_eq_some_iff.mp h_step
  simp only [System.step] at h_system
  split at h_system
  · rename_i call h_call
    simp only [System.commit, System.abandons, Option.toList_none, List.append_nil]
    split at h_system
    · rename_i exit h_phase
      cases h_system
      refine h_sound.move h_call (h_phase.trans_ne fun h_eq => by cases h_eq) ?_
      rw [h_phase]
      exact tails_leave exit false
    · cases h_system
  · cases h_system

theorem callbacksDone_sound (h_sound : s.Sound buckets limit)
    (h_step : Steps step s (.callbacksDone i) s') : s'.Sound buckets limit := by
  obtain ⟨system', h_system, rfl⟩ := Option.map_eq_some_iff.mp h_step
  simp only [System.step] at h_system
  split at h_system
  · rename_i call h_call
    simp only [System.commit, System.abandons, Option.toList_none, List.append_nil]
    split at h_system
    · rename_i h_phase
      cases h_system
      refine h_sound.move h_call (h_phase.trans_ne fun h_eq => by cases h_eq) ?_
      rw [h_phase]
      decide
    · cases h_system
  · cases h_system

theorem cleanup_sound {time : ℚ} (h_sound : s.Sound buckets limit)
    (h_step : Steps step s (.cleanup i time) s') : s'.Sound buckets limit := by
  obtain ⟨system', h_system, rfl⟩ := Option.map_eq_some_iff.mp h_step
  simp only [System.step] at h_system
  split at h_system
  · rename_i call h_call
    simp only [System.commit, System.abandons, h_call]
    split at h_system
    · rename_i h_phase
      have h_open : call.phase ≠ .raised := h_phase.trans_ne fun h_eq => by cases h_eq
      split at h_system
      · rename_i outcome after h_ok
        cases h_system
        rw [h_ok]
        obtain rfl := cleanup_outcome h_ok
        refine h_sound.commit h_call h_open rfl h_ok rfl ?_
        have h_settles := h_sound.settles h_call h_open
        rw [h_phase] at h_settles
        apply h_settles.snoc
        decide
      · rename_i error h_error
        cases h_system
        rw [h_error]
        have h_left := h_sound.abandon h_call h_open (by rw [h_phase]; rfl)
        rw [← List.append_nil s.history] at h_left
        exact h_left
    · cases h_system
  · cases h_system

theorem refund_sound {time : ℚ} {request : RefundRequest} (h_sound : s.Sound buckets limit)
    (h_step : Steps step s (.refund time request) s') : s'.Sound buckets limit := by
  obtain ⟨system', h_system, rfl⟩ := Option.map_eq_some_iff.mp h_step
  simp only [System.step] at h_system
  split at h_system
  · rename_i outcome after h_ok
    cases h_system
    have h_commit : s.system.commit (.refund time request) =
        some ⟨none, time, .refundCapacityForBuckets request, outcome⟩ := by
      simp only [System.commit, h_ok]
    rw [h_commit]
    exact h_sound.refund rfl h_ok
  · rename_i error h_error
    cases h_system
    have h_commit : s.system.commit (.refund time request) = none := by
      simp only [System.commit, h_error]
    rw [h_commit, Option.toList_none, List.append_nil]
    exact h_sound

theorem start_sound {usage : FrozenUsage} {reservationId : Option ReservationId}
    (h_sound : s.Sound buckets limit)
    (h_step : Steps step s (.start i usage reservationId) s') : s'.Sound buckets limit := by
  obtain ⟨system', h_system, rfl⟩ := Option.map_eq_some_iff.mp h_step
  simp only [System.step] at h_system
  split at h_system
  · rename_i h_new h_valid
    cases h_system
    simp only [System.commit, System.abandons, Option.toList_none, List.append_nil]
    exact h_sound.start h_new (validateUsageMapping_eq_ok_iff.mp h_valid)
  · cases h_system

theorem step_sound {label : System.Label} (h_sound : s.Sound buckets limit)
    (h_step : Steps step s label s') : s'.Sound buckets limit := by
  cases label with
  | start i usage reservationId => exact start_sound h_sound h_step
  | attempt i time deadlinePassed => exact attempt_sound h_sound h_step
  | interrupt i => exact interrupt_sound h_sound h_step
  | deregister i => exact deregister_sound h_sound h_step
  | callbacksDone i => exact callbacksDone_sound h_sound h_step
  | cleanup i time => exact cleanup_sound h_sound h_step
  | refund time request => exact refund_sound h_sound h_step

theorem run_sound {labels : List System.Label}
    (h_run : Run (Steps step) (init buckets limit) labels s) : s.Sound buckets limit :=
  h_run.invariant (fun _ _ _ h_sound h_step => step_sound h_sound h_step)
    (sound_init buckets limit)

/-! ### Runs -/

/-- Every run of the system has its log. -/
theorem exists_log {labels : List System.Label} {system : System}
    (h_run : Run (Steps System.step) (System.init buckets limit) labels system) :
    ∃ s, Run (Steps step) (init buckets limit) labels s ∧ s.system = system := by
  have h_sim : ∀ (before : System) label after (log : CommitLog), log.system = before →
      Steps System.step before label after → ∃ log', Steps step log label log' ∧
        log'.system = after := by
    intro before label after log h_same h_step
    refine ⟨_, Option.map_eq_some_iff.mpr ⟨after, ?_, rfl⟩, rfl⟩
    rw [h_same]
    exact h_step
  have h_init : (init buckets limit).system = System.init buckets limit := rfl
  obtain ⟨s, h_log, h_system⟩ := h_run.simulate h_sim h_init
  exact ⟨s, h_log, h_system⟩

/-- Every interleaving of calls on one backend is a serial one.  Its commits, handled one
    after the other, lead to its backend.  Each of them is made for a call with the call's
    own usage and reservation id, and the outcomes of a call are denied attempts and then
    what its await point says; a call that raised has kept a consumption only if it was
    abandoned. -/
theorem run_serializes (buckets : List BucketId) (limit : BucketId → MaxCapacity)
    (labels : List System.Label) (system : System)
    (h_run : Run (Steps System.step) (System.init buckets limit) labels system) :
    ∃ s, Run (Steps step) (init buckets limit) labels s ∧ s.system = system ∧
      Run Handles (MemoryBackend.init buckets limit) s.history system.backend ∧
      (∀ i call, system.calls i = some call →
        Settles (i ∈ s.abandoned) call.phase (outcomesOf s.history i) ∧
        (i ∈ s.abandoned → call.phase = .raised)) ∧
      ∀ commit ∈ s.history, ∀ i, commit.who = some i →
        ∃ call, system.calls i = some call ∧ OwnRequest call commit := by
  obtain ⟨s, h_log, rfl⟩ := exists_log h_run
  have h_sound := run_sound h_log
  refine ⟨s, h_log, rfl, h_sound.handled, fun i call h_call => ⟨?_, fun h_mem => ?_⟩,
    h_sound.own⟩
  · exact h_sound.settled i call h_call
  · obtain ⟨ended, h_ended, h_phase⟩ := h_sound.ended i h_mem
    rw [h_call] at h_ended
    cases h_ended
    exact h_phase

/-- A waiter consumes after a refund, and is cancelled while it takes the lock again. -/
def cancelledDeregistration : List System.Label :=
  [.start 0 (tokens 60) (some "a"), .attempt 0 0 false, .callbacksDone 0,
   .start 1 (tokens 50) (some "b"), .attempt 1 0 false,
   .refund 0 ⟨tokens 60, tokens 20, none, some "a", none, none, none⟩,
   .attempt 1 0 false, .interrupt 1]

/-- The cancelled waiter's consumption stays. -/
example : (Theory.exec step (init [tokensPerMinute] fun _ => oneHundred)
    cancelledDeregistration).map (fun s => (s.abandoned, outcomesOf s.history 1)) =
      some ([1], [.unavailable, .consumed]) := by decide +kernel

theorem run_serializes_cancelledDeregistration :
    ∃ system : System, (system.calls 1).map AcquireCall.phase = some .raised ∧
      ∃ s, Run (Steps step) (init [tokensPerMinute] fun _ => oneHundred)
          cancelledDeregistration s ∧ s.system = system ∧
        Run Handles (MemoryBackend.init [tokensPerMinute] fun _ => oneHundred) s.history
          system.backend := by
  obtain ⟨system, h_run, h_raised⟩ :
      ∃ system, Run (Steps System.step)
        (System.init [tokensPerMinute] fun _ => oneHundred) cancelledDeregistration system ∧
          (system.calls 1).map AcquireCall.phase = some .raised :=
    exists_run_of_exec (by decide +kernel)
  obtain ⟨s, h_log, h_system, h_handled, _⟩ := run_serializes _ _ _ _ h_run
  exact ⟨system, h_raised, s, h_log, h_system, h_handled⟩

end CommitLog

end MemoryBackend
end TokenThrottle
