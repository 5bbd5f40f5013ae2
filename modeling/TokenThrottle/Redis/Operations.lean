/-
  TokenThrottle.Redis.Operations

  The operations of the Redis backend as calls, and the proof that each keeps the
  discipline: one lemma for each function, from the commands of one bucket up.
-/
import TokenThrottle.Redis.Discipline

namespace TokenThrottle

open Theory (Program)
open Theory.Program

namespace RedisBackend

variable {α : Type} {rebuild : Bool} {view : CallView}

/-! ## One bucket -/

theorem ownerClient_quiet (owner : BucketOwner) :
    owner.client.Follows (discipline rebuild) (Quiet view) view := by
  cases owner with
  | running => exact send_quiet rfl
  | rebuilt client => exact pure_quiet client

theorem updateCaches_quiet (owner : BucketOwner) (f : BucketCaches → BucketCaches) :
    (owner.updateCaches f).Follows (discipline rebuild) (Quiet view) view := by
  cases owner with
  | running => exact Quiet.bind (send_quiet rfl) fun _ _ _ => pure_quiet _
  | rebuilt client => exact pure_quiet _

theorem retainCapacityHistory_quiet (key : BucketKey) :
    (RedisBucket.retainCapacityHistory key).Follows (discipline rebuild) (Quiet view) view :=
  Quiet.bind (send_quiet rfl) fun _ _ _ => when_quiet (send_quiet rfl)

theorem refreshMaxCapacityOverrideTtl_quiet (owner : BucketOwner) (key : BucketKey)
    (override : Option MaxCapacity) :
    (RedisBucket.refreshMaxCapacityOverrideTtl owner key override).Follows
      (discipline rebuild) (Quiet view) view := by
  cases override with
  | none => exact retainCapacityHistory_quiet key
  | some value =>
    refine Quiet.bind (send_quiet rfl) fun currentTime _ _ => ?_
    refine Quiet.bind (ownerClient_quiet owner) fun client _ _ => ?_
    exact Quiet.bind (send_quiet rfl) fun _ _ _ => pure_quiet ()

theorem setCapacity_settled (owner : BucketOwner) {key : BucketKey} (h_ready : view.ready key)
    (h_stage : view.stage ≠ .refused) (newCapacity currentTime : ℚ)
    (retention : Option MaxCapacity) :
    (RedisBucket.setCapacity owner key newCapacity currentTime retention).Follows
      (discipline rebuild) (Settled view) view := by
  refine quiet_bind (ownerClient_quiet owner) (fun client view₁ h₁ => ?_)
    fun _ _ h => h.settled h_stage
  refine quiet_bind (lift_quiet (capacityTtl_raises _ _ _ _)) (fun _ view₂ h₂ => ?_)
    fun _ _ h => (h.after h₁).settled h_stage
  refine quiet_bind (retainCapacityHistory_quiet key) (fun _ view₃ h₃ => ?_)
    fun _ _ h => (h.after (h₁.trans h₂)).settled h_stage
  have h_kept := (h₁.trans h₂).trans h₃
  refine Follows.send_bind ⟨fun write h_mem => ?_, fun _ => h_kept.stage ▸ h_stage⟩ fun _ => ?_
  · rw [List.mem_singleton.mp h_mem]
    exact h_kept.ready key h_ready
  · refine (updateCaches_quiet owner _).mono fun _ _ h_quiet => ?_
    refine (h_quiet.settled (by simp [CallView.observe])).after fun key h => ?_
    exact (kept_wrote _ _).ready key (h_kept.ready key h)

/-! ## Reading a set of buckets -/

theorem retainHistories_quiet (keys : List BucketKey) :
    (retainHistories keys).Follows (discipline rebuild) (Quiet view) view := by
  induction keys generalizing view with
  | nil => exact pure_quiet ()
  | cons key keys ih => exact Quiet.bind (retainCapacityHistory_quiet key) fun _ _ _ => ih

/-- The parsed results are about the buckets that were read, in their order. -/
theorem parseResults_quiet (results : BucketKey → BucketFields × Option OverrideRecord)
    (currentTime : ℚ) (keys : List BucketKey) :
    (parseResults results currentTime keys).Follows (discipline rebuild)
      (fun result view' => Quiet view result view' ∧
        ∀ reads, result = .ok reads → reads.map ParsedCapacityRead.key = keys) view := by
  induction keys generalizing view with
  | nil =>
    refine ⟨⟨Kept.refl view, id⟩, fun reads h_eq => ?_⟩
    cases h_eq
    rfl
  | cons key keys ih =>
    refine quiet_bind (send_quiet rfl) (fun client view₁ h₁ => ?_)
      fun _ _ h => ⟨h, fun _ h_eq => by cases h_eq⟩
    refine quiet_bind (send_quiet rfl) (fun history view₂ h₂ => ?_)
      fun _ _ h => ⟨h.after h₁, fun _ h_eq => by cases h_eq⟩
    refine quiet_bind (lift_quiet (calculate_raises _ _ _ _ _ _)) (fun calculated view₃ h₃ => ?_)
      fun _ _ h => ⟨h.after (h₁.trans h₂), fun _ h_eq => by cases h_eq⟩
    have h_kept := (h₁.trans h₂).trans h₃
    refine Follows.bind ih (fun rest view₄ h₄ => ⟨⟨h_kept.trans h₄.1.1, id⟩, ?_⟩)
      fun e view₄ h₄ => ⟨.after h_kept h₄.1, fun _ h_eq => by cases h_eq⟩
    intro reads h_eq
    cases h_eq
    exact congrArg (key :: ·) (h₄.2 rest rfl)

theorem repairStates_quiet {keys : List BucketKey} (h_ready : ∀ key ∈ keys, view.ready key)
    (currentTime : ℚ) :
    (repairStates keys currentTime).Follows (discipline rebuild) (Quiet view) view := by
  cases keys with
  | nil => exact pure_quiet ()
  | cons key keys =>
    refine Quiet.bind (retainHistories_quiet _) fun _ view' h_kept => ?_
    refine Follows.send ⟨fun write h_mem => ?_, fun h => by cases h⟩ fun _ =>
      ⟨kept_wrote _ _, id⟩
    obtain ⟨key', h_key, rfl⟩ := List.mem_map.mp h_mem
    exact h_kept.ready key' (h_ready key' h_key)

theorem refreshOverrides_quiet (reads : List ParsedCapacityRead) :
    (refreshOverrides reads).Follows (discipline rebuild) (Quiet view) view := by
  induction reads generalizing view with
  | nil => exact pure_quiet ()
  | cons read reads ih =>
    exact Quiet.bind (refreshMaxCapacityOverrideTtl_quiet _ _ _) fun _ _ _ => ih

/-- After a read every bucket of it may be written. -/
theorem getCapacitiesUnsafe_quiet (keys : List BucketKey) (currentTime : ℚ) :
    (getCapacitiesUnsafe keys currentTime).Follows (discipline rebuild)
      (fun result view' => Quiet view result view' ∧ ∀ key ∈ keys, view'.ready key) view := by
  refine Follows.send_bind (permits_plain rfl) fun results => ?_
  have h_read : Kept view (view.learn keys fun key => (results key).1) := kept_learn _ _
  have h_ready : ∀ key ∈ keys, (view.learn keys fun key => (results key).1).ready key :=
    fun key h_mem => ready_learn h_mem
  -- what was read stays known in every later view
  have h_later {γ : Type} {result : Except BackendError γ} {view' view'' : CallView}
      (h_kept : Kept (view.learn keys fun key => (results key).1) view')
      (h_quiet : Quiet view' result view'') :
      Quiet view result view'' ∧ ∀ key ∈ keys, view''.ready key :=
    ⟨h_quiet.after (h_read.trans h_kept), fun key h_mem =>
      (h_kept.trans h_quiet.1).ready key (h_ready key h_mem)⟩
  refine Follows.bind (parseResults_quiet results currentTime keys)
    (fun reads view₁ h₁ => ?_) fun e view₁ h₁ => h_later (Kept.refl _) h₁.1
  have h_kept := h₁.1.1
  have h_lost : ∀ key ∈ (reads.filter ParsedCapacityRead.stateLost).map
      ParsedCapacityRead.key, view₁.ready key := by
    intro key h_mem
    obtain ⟨read, h_read, rfl⟩ := List.mem_map.mp h_mem
    refine h_kept.ready _ (h_ready _ ?_)
    rw [← h₁.2 reads rfl]
    exact List.mem_map_of_mem (List.mem_of_mem_filter h_read)
  refine quiet_bind (repairStates_quiet h_lost currentTime) (fun _ view₂ h₂ => ?_)
    fun _ _ h => h_later h_kept h
  refine quiet_bind (refreshOverrides_quiet reads) (fun _ view₃ h₃ => ?_)
    fun _ _ h => h_later (h_kept.trans h₂) h
  refine quiet_bind (send_quiet rfl) (fun _ view₄ h₄ => ?_)
    fun _ _ h => h_later ((h_kept.trans h₂).trans h₃) h
  exact h_later (((h_kept.trans h₂).trans h₃).trans h₄) ⟨Kept.refl _, id⟩

/-! ## Writing a set of buckets -/

theorem stateWrites_keys {client : RedisClient} {newCapacities : Capacities}
    {allowNegative : Bool} {keys : List BucketKey} {writes : List (BucketKey × ℚ)}
    (h_ok : stateWrites client newCapacities allowNegative keys = .ok writes) :
    writes.map Prod.fst = keys := by
  induction keys generalizing writes with
  | nil =>
    cases h_ok
    rfl
  | cons key keys ih =>
    obtain ⟨_, _, h_ok⟩ := bind_eq_ok h_ok
    obtain ⟨rest, h_rest, h_ok⟩ := bind_eq_ok h_ok
    cases h_ok
    exact congrArg (key :: ·) (ih h_rest)

theorem queueWrites_quiet (newCapacities : Capacities) (allowNegative : Bool)
    (keys : List BucketKey) :
    (queueWrites newCapacities allowNegative keys).Follows (discipline rebuild)
      (fun result view' => Quiet view result view' ∧
        ∀ writes, result = .ok writes → writes.map Prod.fst = keys) view := by
  induction keys generalizing view with
  | nil =>
    refine ⟨⟨Kept.refl view, id⟩, fun writes h_eq => ?_⟩
    cases h_eq
    rfl
  | cons key keys ih =>
    refine quiet_bind (send_quiet rfl) (fun client view₁ h₁ => ?_)
      fun _ _ h => ⟨h, fun _ h_eq => by cases h_eq⟩
    refine quiet_bind (lift_quiet (capacityTtl_raises _ _ _ _)) (fun _ view₂ h₂ => ?_)
      fun _ _ h => ⟨h.after h₁, fun _ h_eq => by cases h_eq⟩
    refine quiet_bind (retainCapacityHistory_quiet key) (fun _ view₃ h₃ => ?_)
      fun _ _ h => ⟨h.after (h₁.trans h₂), fun _ h_eq => by cases h_eq⟩
    have h_kept := (h₁.trans h₂).trans h₃
    refine Follows.bind ih (fun rest view₄ h₄ => ⟨⟨h_kept.trans h₄.1.1, id⟩, ?_⟩)
      fun e view₄ h₄ => ⟨.after h_kept h₄.1, fun _ h_eq => by cases h_eq⟩
    intro writes h_eq
    cases h_eq
    exact congrArg (key :: ·) (h₄.2 rest rfl)

/-- The writes of buckets that were read are permitted. -/
theorem ready_of_writes {writes : List (BucketKey × ℚ)} {keys : List BucketKey}
    (h_keys : writes.map Prod.fst = keys) (h_ready : ∀ key ∈ keys, view.ready key) :
    ∀ write ∈ writes, view.ready write.1 := by
  intro write h_mem
  apply h_ready
  rw [← h_keys]
  exact List.mem_map_of_mem h_mem

/-- What follows a write that landed: the buckets are confirmed. -/
theorem confirmWritten_settled (writes : List (BucketKey × ℚ)) (keys : List BucketKey)
    (currentTime : ℚ) :
    (do
      send (.updateCaches (.confirmWrittenState keys currentTime))
      return true : RedisProgram Bool).Follows (discipline rebuild) (Settled view)
      ((view.wrote writes currentTime).withStage .written) := by
  have h_ready : ∀ key, view.ready key →
      ((view.wrote writes currentTime).withStage .written).ready key := fun key h =>
    (kept_wrote _ _).ready key h
  refine Follows.send_bind (permits_plain rfl) fun _ => ⟨?_, h_ready, id⟩
  simp [CallView.observe]

theorem setCapacitiesUnsafe_settled (newCapacities : Capacities) {keys : List BucketKey}
    (h_ready : ∀ key ∈ keys, view.ready key) (h_stage : view.stage ≠ .refused)
    (currentTime : ℚ) (allowNegative : Bool) (deleteMarker : Option ReservationKey) :
    (setCapacitiesUnsafe newCapacities keys currentTime allowNegative deleteMarker).Follows
      (discipline rebuild) (Settled view) view := by
  refine Follows.bind (queueWrites_quiet newCapacities allowNegative keys)
    (fun writes view₁ h₁ => ?_) fun e view₁ h =>
      Quiet.settled (show Quiet view (.error e) view₁ from h.1) h_stage
  have h_kept := h₁.1.1
  refine Follows.send_bind ⟨ready_of_writes (h₁.2 writes rfl) fun key h_mem =>
    h_kept.ready key (h_ready key h_mem), fun _ => h_kept.stage ▸ h_stage⟩ fun _ => ?_
  exact (confirmWritten_settled writes keys currentTime).mono fun _ _ h => h.after h_kept.ready

theorem acquireMarkerMatches_quiet (key : ReservationKey) (marker : AcquiredMarker) :
    (acquireMarkerMatches key marker).Follows (discipline rebuild) (Quiet view) view :=
  attempt_send_quiet rfl fun _ _ h_kept => ⟨h_kept, id⟩

/-- The writes of a script are about the buckets they were made for. -/
theorem stateWrites_bind {client : RedisClient} {newCapacities : Capacities}
    {allowNegative : Bool} {keys : List BucketKey}
    {f : List (BucketKey × ℚ) → RedisProgram α} {post : Except BackendError α → CallView → Prop}
    (h_ok : ∀ writes, writes.map Prod.fst = keys →
      (f writes).Follows (discipline rebuild) post view)
    (h_error : ∀ e, Quiet view (.error e : Except BackendError α) view → post (.error e) view) :
    (Program.lift (stateWrites client newCapacities allowNegative keys) >>= f).Follows
      (discipline rebuild) post view := by
  refine Follows.lift_bind (fun writes h_writes => h_ok writes (stateWrites_keys h_writes))
    fun e h_eq => h_error e ⟨Kept.refl view, ?_⟩
  have h_calm := (stateWrites_raises client newCapacities allowNegative keys).not_contended
  rw [h_eq] at h_calm
  exact h_calm

theorem setCapacitiesWithMarker_settled (newCapacities : Capacities) {keys : List BucketKey}
    (h_ready : ∀ key ∈ keys, view.ready key) (h_stage : view.stage ≠ .refused)
    (currentTime : ℚ) (allowNegative : Bool) (key : ReservationKey) (marker : AcquiredMarker) :
    (setCapacitiesWithMarker newCapacities keys currentTime allowNegative key marker).Follows
      (discipline rebuild) (Settled view) view := by
  refine quiet_bind (send_quiet rfl) (fun client view₁ h₁ => ?_)
    fun _ _ h => h.settled h_stage
  refine stateWrites_bind (fun writes h_keys => ?_) fun _ h => (h.after h₁).settled h_stage
  refine quiet_bind (retainHistories_quiet _) (fun _ view₂ h₂ => ?_)
    fun _ _ h => (h.after h₁).settled h_stage
  have h_kept := h₁.trans h₂
  have h_stage₂ : view₂.stage ≠ .refused := h_kept.stage ▸ h_stage
  have h_allowed : permits rebuild view₂
      (.acquireMarkerSetScript key marker writes currentTime) :=
    ⟨ready_of_writes h_keys fun key h_mem => h_kept.ready key (h_ready key h_mem),
      fun _ => h_stage₂⟩
  refine attempt_send h_allowed fun status => ?_
  cases status with
  | ok => exact (confirmWritten_settled writes keys currentTime).mono fun _ _ h =>
      h.after h_kept.ready
  | replayedAcquire => exact ⟨h_stage₂, h_kept.ready, id⟩
  | duplicateAcquire =>
    refine quiet_bind (acquireMarkerMatches_quiet key marker) (fun matched view₃ h₃ => ?_)
      fun _ _ h => (h.after h_kept).settled h_stage
    have h_kept₃ : Kept view view₃ := h_kept.trans h₃
    cases matched with
    | true => exact ⟨h_kept₃.stage ▸ h_stage, h_kept₃.ready, id⟩
    | false => exact ⟨h_kept₃.stage ▸ h_stage, h_kept₃.ready, fun h => by cases h⟩

theorem commitRefund_settled (newCapacities : Capacities) {keys : List BucketKey}
    (h_ready : ∀ key ∈ keys, view.ready key) (h_stage : view.stage ≠ .refused)
    (currentTime : ℚ) (key : ReservationKey) (marker : AcquiredMarker) :
    (commitRefundWithAcquireMarkerUnsafe newCapacities keys currentTime key marker).Follows
      (discipline rebuild) (Settled view) view := by
  refine quiet_bind (send_quiet rfl) (fun token view₁ h₁ => ?_)
    fun _ _ h => h.settled h_stage
  refine quiet_bind (send_quiet rfl) (fun client view₂ h₂ => ?_)
    fun _ _ h => (h.after h₁).settled h_stage
  refine stateWrites_bind (fun writes h_keys => ?_)
    fun _ h => (h.after (h₁.trans h₂)).settled h_stage
  refine quiet_bind (retainHistories_quiet _) (fun _ view₃ h₃ => ?_)
    fun _ _ h => (h.after (h₁.trans h₂)).settled h_stage
  have h_kept := (h₁.trans h₂).trans h₃
  have h_stage₃ : view₃.stage ≠ .refused := h_kept.stage ▸ h_stage
  have h_allowed : permits rebuild view₃
      (.refundWithMarkerScript key marker token writes currentTime) :=
    ⟨ready_of_writes h_keys fun key h_mem => h_kept.ready key (h_ready key h_mem),
      fun _ => h_stage₃⟩
  refine attempt_send h_allowed fun status => ?_
  cases status with
  | ok =>
    refine Follows.send (permits_plain rfl) fun _ => ⟨by simp [CallView.observe], ?_, id⟩
    exact fun key h => (kept_wrote _ _).ready key (h_kept.ready key h)
  | replayedRefund => exact ⟨h_stage₃, h_kept.ready, id⟩
  | duplicateRefund | unknownReservation | markerMismatch | incoherentRefund =>
    exact ⟨h_stage₃, h_kept.ready, fun h => by cases h⟩

theorem writeConsumption_settled (postconsumption : Capacities) {keys : List BucketKey}
    (h_ready : ∀ key ∈ keys, view.ready key) (h_stage : view.stage ≠ .refused)
    (currentTime : ℚ) (allowNegative : Bool)
    (marker : Option (ReservationKey × AcquiredMarker)) :
    (writeConsumption postconsumption keys currentTime allowNegative marker).Follows
      (discipline rebuild) (Settled view) view := by
  cases marker with
  | none => exact setCapacitiesUnsafe_settled _ h_ready h_stage _ _ _
  | some marker => exact setCapacitiesWithMarker_settled _ h_ready h_stage _ _ _ _

theorem writeRefund_settled (client : RedisClient) (newCapacities : Capacities)
    {keys : List BucketKey} (h_ready : ∀ key ∈ keys, view.ready key)
    (h_stage : view.stage ≠ .refused) (currentTime : ℚ) (marker : Option AcquiredMarker) :
    (writeRefund client newCapacities keys currentTime marker).Follows
      (discipline rebuild) (Settled view) view := by
  cases marker with
  | none =>
    refine (setCapacitiesUnsafe_settled newCapacities h_ready h_stage currentTime true
      none).bind (fun _ _ h => ?_) fun _ _ h => ⟨h.stage, h.ready, h.calm⟩
    exact ⟨h.stage, h.ready, id⟩
  | some marker => exact commitRefund_settled _ h_ready h_stage _ _ _

/-! ## Callbacks -/

/-- A part of a call that returns and leaves its view as good as it was. -/
def Returns (view : CallView) (result : Except BackendError Unit) (view' : CallView) : Prop :=
  result = .ok () ∧ Kept view view'

theorem Returns.bind {p q : RedisProgram Unit}
    (h_p : p.Follows (discipline rebuild) (Returns view) view)
    (h_q : ∀ view', Kept view view' → q.Follows (discipline rebuild) (Returns view') view') :
    (p >>= fun _ => q).Follows (discipline rebuild) (Returns view) view :=
  h_p.bind (fun _ view' h => (h_q view' h.2).mono fun _ _ h' => ⟨h'.1, h.2.trans h'.2⟩)
    fun _ _ h => by cases h.1

theorem invokeCallback_returns (slot : CallbackSlot) :
    (invokeCallback slot).Follows (discipline rebuild) (Returns view) view := by
  refine Follows.send_bind (permits_plain rfl) fun client => ?_
  unfold Program.when
  split
  · exact Follows.send (permits_plain rfl) fun _ => ⟨rfl, Kept.refl view⟩
  · exact ⟨rfl, Kept.refl view⟩

theorem freshStartBucketsCallback_returns (keys : List BucketKey) :
    (freshStartBucketsCallback keys).Follows (discipline rebuild) (Returns view) view := by
  induction keys generalizing view with
  | nil => exact ⟨rfl, Kept.refl view⟩
  | cons key keys ih => exact Returns.bind (invokeCallback_returns _) fun _ _ => ih

theorem consumptionCallbacks_returns (keys : List BucketKey) :
    (consumptionCallbacks keys).Follows (discipline rebuild) (Returns view) view :=
  Returns.bind (freshStartBucketsCallback_returns keys) fun _ _ => invokeCallback_returns _

/-! ## Locks -/

theorem extendLocks_checked (h_check : view.mayCheck rebuild) (stack : LockStack) :
    (extendLocks stack).Follows (discipline rebuild) (Checked view) view := by
  induction stack with
  | nil => exact Kept.refl view
  | cons lock stack ih =>
    refine Follows.send_bind h_check fun owned => ?_
    cases owned with
    | true => exact ih
    | false => exact ⟨rfl, rfl⟩

theorem releaseLock_returns (key : BucketKey) (token : Token) {stage : Stage}
    (h_stage : view.stage = stage) :
    (do let _ ← send (.releaseLock key token); return () : RedisProgram Unit).Follows
      (discipline rebuild) (fun result view' => result = .ok () ∧ view'.stage = stage) view :=
  Follows.send_bind ⟨fun write h_mem => absurd h_mem List.not_mem_nil, fun h => by cases h⟩
    fun _ => ⟨rfl, h_stage⟩

theorem releaseLocks_returns (stack : LockStack) {stage : Stage} (h_stage : view.stage = stage) :
    (releaseLocks stack).Follows (discipline rebuild)
      (fun result view' => result = .ok () ∧ view'.stage = stage) view := by
  induction stack with
  | nil => exact ⟨rfl, h_stage⟩
  | cons lock stack ih =>
    refine Follows.ensuring ih fun result view' h => ?_
    exact (releaseLock_returns lock.1 lock.2 h.2).mono fun cleaned view'' h' => by
      rw [h'.1]
      exact ⟨h.1, h'.2⟩

theorem acquireLock_taken (h_clean : view.stage = .clean) (key : BucketKey) :
    (acquireLock key).Follows (discipline rebuild) Taken view := by
  refine Follows.send_bind (permits_plain rfl) fun token => ?_
  refine Follows.bind
    (m := fun result view' => match result with
      | .ok true => view'.stage = .clean
      | .ok false => view'.stage = .refused
      | .error _ => False) ?_ (fun acquired view' h => ?_) fun _ _ h => False.elim h
  · refine Follows.onError (m := fun result view' => ∃ acquired, result = .ok acquired ∧
        view'.stage = if acquired then .clean else .refused) ?_ (fun acquired view' h => ?_)
      fun e view' h => ?_
    · refine Follows.send ⟨rfl, h_clean⟩ fun acquired => ⟨acquired, rfl, ?_⟩
      cases acquired with
      | true => exact h_clean
      | false => rfl
    · obtain ⟨acquired', h_eq, h_stage⟩ := h
      cases h_eq
      cases acquired with
      | true => exact h_stage
      | false => exact h_stage
    · obtain ⟨_, h_eq, _⟩ := h
      cases h_eq
  · cases acquired with
    | true => exact h
    | false => exact ⟨rfl, h⟩

theorem lockFrom_taken (keys : List BucketKey) (stack : LockStack)
    (h_clean : view.stage = .clean) :
    (lockFrom stack keys).Follows (discipline rebuild) Taken view := by
  induction keys generalizing view stack with
  | nil => exact h_clean
  | cons key keys ih =>
    refine Follows.bind (m := Taken) ?_ (fun token view' h => ih _ h) fun _ _ h => h
    refine Follows.onError (m := Taken) ?_ (fun _ _ h => h) fun e view' h => ?_
    · refine Follows.bind (extendLocks_checked (.inl h_clean) stack)
        (fun _ view' h => acquireLock_taken (h.stage.trans h_clean) key) fun _ _ h => h
    · refine (releaseLocks_returns stack h.2).mono fun cleaned view'' h' => ?_
      rw [h'.1]
      exact ⟨h.1, h'.2⟩

theorem lockOrContention_taken (keys : List BucketKey) (h_clean : view.stage = .clean) :
    (lockOrContention keys).Follows (discipline rebuild) Taken view :=
  Follows.tryCatch (lockFrom_taken keys [] h_clean) (fun _ _ h => h) fun e _ h =>
    ⟨by
      by_cases h_lock : e = .lockError
      · rw [if_pos h_lock]
        rfl
      · rw [if_neg h_lock]
        exact h.1, h.2⟩

/-! ## Parts of an operation -/

/-- The program ends by contention exactly when a lock was refused or lost; what it returns
    meets `post`. -/
abbrev Accounts (rebuild : Bool) (post : α → Prop) (p : RedisProgram α) (view : CallView) : Prop :=
  p.Follows (discipline rebuild)
    (fun result view' => Accounted result view' ∧ ∀ a, result = .ok a → post a) view

section Parts

variable {β : Type} {p : RedisProgram α} {f : α → RedisProgram β} {post : β → Prop}

theorem accounts_error {e : BackendError} {view' : CallView}
    (h_accounted : Accounted (.error e : Except BackendError β) view') :
    Accounted (.error e : Except BackendError β) view' ∧
      ∀ b, (.error e : Except BackendError β) = .ok b → post b :=
  ⟨h_accounted, fun _ h_eq => by cases h_eq⟩

theorem pure_accounts {b : β} (h_stage : view.stage ≠ .refused) (h_post : post b) :
    Accounts rebuild post (pure b) view := by
  refine ⟨⟨fun h => absurd h id, fun h => absurd h h_stage⟩, ?_⟩
  rintro b' h_eq
  cases h_eq
  exact h_post

/-- What was raised before is raised again. -/
theorem throw_accounts {e : BackendError} (h_calm : isContention e = false)
    (h_stage : view.stage ≠ .refused) : Accounts rebuild post (throw e) view := by
  apply accounts_error
  refine ⟨fun h_contended => ?_, fun h => absurd h h_stage⟩
  rw [show isContention e = true from h_contended] at h_calm
  cases h_calm

/-- A part that does not touch the buckets, before anything was refused. -/
theorem quiet_accounts (h_p : p.Follows (discipline rebuild) (Quiet view) view)
    (h_stage : view.stage ≠ .refused)
    (h_f : ∀ a view', Kept view view' → view'.stage ≠ .refused →
      Accounts rebuild post (f a) view') : Accounts rebuild post (p >>= f) view :=
  quiet_bind h_p (fun a view' h_kept => h_f a view' h_kept (h_kept.stage ▸ h_stage))
    fun _ _ h_quiet => accounts_error (h_quiet.settled h_stage).accounted

theorem suspend_accounts (h_stage : view.stage ≠ .refused) :
    Accounts rebuild (fun _ => True) (send .suspend) view :=
  (send_quiet rfl).mono fun _ _ h_quiet =>
    ⟨(h_quiet.settled h_stage).accounted, fun _ _ => trivial⟩

/-- A check of the locks, and what follows it when it passes. -/
theorem checked_accounts (h_p : p.Follows (discipline rebuild) (Checked view) view)
    (h_f : ∀ a view', Kept view view' → Accounts rebuild post (f a) view') :
    Accounts rebuild post (p >>= f) view :=
  h_p.bind (fun a view' h_kept => h_f a view' h_kept)
    fun _ _ h_lost => accounts_error ⟨fun _ => h_lost.2, fun _ => h_lost.1⟩

/-- What follows a part that is accounted for. -/
theorem accounts_bind {m : α → Prop} (h_p : Accounts rebuild m p view)
    (h_f : ∀ a view', view'.stage ≠ .refused → Accounts rebuild post (f a) view') :
    Accounts rebuild post (p >>= f) view :=
  Follows.bind h_p (fun a view' h_result => h_f a view' fun h => (h_result.1.mpr h).elim)
    fun _ _ h_result => accounts_error h_result.1

/-- A part that may have changed something. -/
theorem settled_accounts (h_p : p.Follows (discipline rebuild) (Settled view) view)
    (h_f : ∀ a view', Settled view (.ok a : Except BackendError α) view' →
      Accounts rebuild post (f a) view') : Accounts rebuild post (p >>= f) view :=
  h_p.bind h_f fun _ _ h_settled =>
    accounts_error ⟨fun h => absurd h h_settled.calm, fun h => absurd h h_settled.stage⟩

theorem returns_accounts {q : RedisProgram Unit} {f : Unit → RedisProgram β}
    (h_q : q.Follows (discipline rebuild) (Returns view) view) (h_stage : view.stage ≠ .refused)
    (h_f : ∀ view', view'.stage ≠ .refused → Accounts rebuild post (f ()) view') :
    Accounts rebuild post (q >>= f) view :=
  h_q.bind (fun _ view' h_returns => h_f view' (h_returns.2.stage ▸ h_stage))
    fun _ _ h_returns => by cases h_returns.1

theorem Settled.accounts (h_p : p.Follows (discipline rebuild) (Settled view) view) :
    Accounts rebuild (fun _ => True) p view :=
  h_p.mono fun _ _ h_settled => ⟨h_settled.accounted, fun _ _ => trivial⟩

/-- A read of the buckets, and what follows it. -/
theorem read_accounts {keys : List BucketKey} {currentTime : ℚ}
    {f : CapacitiesGetterResult → RedisProgram β} (h_stage : view.stage ≠ .refused)
    (h_f : ∀ read view', Kept view view' → view'.stage ≠ .refused →
      (∀ key ∈ keys, view'.ready key) → Accounts rebuild post (f read) view') :
    Accounts rebuild post (getCapacitiesUnsafe keys currentTime >>= f) view :=
  Follows.bind (getCapacitiesUnsafe_quiet keys currentTime)
    (fun read view' h_read => h_f read view' h_read.1.1 (h_read.1.1.stage ▸ h_stage) h_read.2)
    fun e view' h_read => accounts_error
      (Quiet.settled (show Quiet view (.error e : Except BackendError β) view' from h_read.1)
        h_stage).accounted

/-- A write and the wait for it, which nothing interrupts. -/
theorem written_accounts {f : Except BackendError α → Except BackendError Unit → RedisProgram β}
    (h_p : p.Follows (discipline rebuild) (Settled view) view)
    (h_ok : ∀ a view', view'.stage ≠ .refused → Accounts rebuild post (f (.ok a) (.ok ())) view')
    (h_error : ∀ e view', isContention e = false → view'.stage ≠ .refused →
      Accounts rebuild post (f (.error e) (.ok ())) view') :
    Accounts rebuild post (do
      let written ← p.attempt
      let awaited ← (send .suspend).attempt
      f written awaited) view := by
  refine Follows.attempt_bind h_p fun written view' h_settled => ?_
  refine attempt_send (permits_plain rfl) fun _ => ?_
  cases written with
  | ok a => exact h_ok a view' h_settled.stage
  | error e => exact h_error e view' (Bool.eq_false_iff.mpr h_settled.calm) h_settled.stage

/-- A body that is accounted for stays so when its locks are released. -/
theorem withLocks_accounts {acquire : RedisProgram LockStack} {body : LockStack → RedisProgram β}
    (h_acquire : acquire.Follows (discipline rebuild) Taken view)
    (h_body : ∀ stack view', view'.stage = .clean → Accounts rebuild post (body stack) view') :
    Accounts rebuild post (withLocks acquire body) view := by
  refine Follows.bind h_acquire (fun stack view' h_clean => ?_)
    fun _ _ h_refused => accounts_error ⟨fun _ => h_refused.2, fun _ => h_refused.1⟩
  refine Follows.ensuring (h_body stack view' h_clean) fun result view'' h_result => ?_
  refine (releaseLocks_returns stack rfl).mono fun cleaned view₃ h_released => ?_
  rw [h_released.1]
  refine ⟨?_, h_result.2⟩
  show Contended result ↔ view₃.stage = .refused
  rw [h_released.2]
  exact h_result.1

end Parts

/-! ## Acquiring, consuming and refunding -/

section Calls

variable (usage : FrozenUsage) (reservationId : Option ReservationId) (lifetime : Option ℚ)

theorem attemptUnderLocks_accounts (h_clean : view.stage = .clean) (keys : List BucketKey)
    (stack : LockStack) :
    Accounts rebuild (fun attempt => attempt.raised = none)
      (attemptUnderLocks usage reservationId lifetime keys stack) view := by
  have h_stage : view.stage ≠ .refused := by rw [h_clean]; exact nofun
  refine quiet_accounts (send_quiet rfl) h_stage fun currentTime view₁ h₁ h_stage₁ => ?_
  refine read_accounts h_stage₁ fun read view₂ h₂ h_stage₂ h_ready => ?_
  refine quiet_accounts (send_quiet rfl) h_stage₂ fun client view₃ h₃ h_stage₃ => ?_
  have h_kept := (h₁.trans h₂).trans h₃
  dsimp only
  split
  · exact throw_accounts rfl h_stage₃
  · split
    · exact throw_accounts rfl h_stage₃
    · split
      · refine returns_accounts (freshStartBucketsCallback_returns _) h_stage₃ fun view₄ h_stage₄ => ?_
        exact pure_accounts h_stage₄ rfl
      · refine checked_accounts (extendLocks_checked (.inl (h_kept.stage.trans h_clean)) stack)
          fun _ view₄ h₄ => ?_
        have h_stage₄ : view₄.stage ≠ .refused := h₄.stage ▸ h_stage₃
        refine quiet_accounts (lift_quiet (acquiredMarker_raises _ _ _ _ _)) h_stage₄
          fun marker view₅ h₅ h_stage₅ => ?_
        have h_ready₅ : ∀ key ∈ keys, view₅.ready key := fun key h_mem =>
          ((h₃.trans h₄).trans h₅).ready key (h_ready key h_mem)
        refine written_accounts (writeConsumption_settled _ h_ready₅ h_stage₅ _ _ _)
          (fun consumed view₆ h_stage₆ => pure_accounts h_stage₆ rfl) ?_
        exact fun e view₆ h_calm h_stage₆ => throw_accounts h_calm h_stage₆

/-- What follows an attempt that nothing interrupted. -/
theorem finishAttempt_accounts (h_stage : view.stage ≠ .refused) (recovering : Bool)
    (keys : List BucketKey) (attempt : LockedAttempt) :
    Accounts rebuild (fun _ => True)
      (finishAttempt usage reservationId recovering keys attempt none) view := by
  unfold finishAttempt
  dsimp only
  split
  · exact pure_accounts h_stage trivial
  · split
    · exact pure_accounts h_stage trivial
    · apply Follows.settle (consumptionCallbacks_returns _)
      rintro called view' ⟨rfl, h_kept⟩
      exact pure_accounts (h_kept.stage ▸ h_stage) trivial

theorem checkAndConsumeCapacity_accounts (h_clean : view.stage = .clean) (recovering : Bool) :
    Accounts rebuild (fun _ => True)
      (checkAndConsumeCapacity usage reservationId lifetime recovering) view := by
  have h_stage : view.stage ≠ .refused := by rw [h_clean]; exact nofun
  refine quiet_accounts (send_quiet rfl) h_stage fun client view₁ h₁ _ => ?_
  refine Follows.bind (lockFrom_taken _ [] (h₁.stage.trans h_clean)) (fun stack view₂ h₂ => ?_)
    fun _ _ h_refused => accounts_error ⟨fun _ => h_refused.2, fun _ => h_refused.1⟩
  refine Follows.attempt_bind (attemptUnderLocks_accounts usage reservationId lifetime h₂
    client.bucketKeys stack) fun attempted view₃ h_attempted => ?_
  refine Follows.attempt_bind (releaseLocks_returns stack rfl) fun released view₄ h_released => ?_
  rw [h_released.1]
  cases attempted with
  | ok attempt =>
    have h_calm : view₃.stage ≠ .refused := fun h => (h_attempted.1.mpr h).elim
    dsimp only
    rw [h_attempted.2 attempt rfl]
    exact finishAttempt_accounts usage reservationId (h_released.2 ▸ h_calm) recovering _ attempt
  | error e =>
    apply accounts_error
    show Contended _ ↔ view₄.stage = .refused
    rw [h_released.2]
    exact h_attempted.1

theorem consumeUnderLocks_accounts (h_clean : view.stage = .clean) (keys : List BucketKey)
    (stack : LockStack) :
    Accounts rebuild (fun _ => True)
      (consumeUnderLocks usage reservationId lifetime keys stack) view := by
  have h_stage : view.stage ≠ .refused := by rw [h_clean]; exact nofun
  refine quiet_accounts (send_quiet rfl) h_stage fun currentTime view₁ h₁ h_stage₁ => ?_
  refine read_accounts h_stage₁ fun read view₂ h₂ h_stage₂ h_ready => ?_
  refine quiet_accounts (send_quiet rfl) h_stage₂ fun client view₃ h₃ h_stage₃ => ?_
  have h_kept := (h₁.trans h₂).trans h₃
  split
  · exact throw_accounts rfl h_stage₃
  · refine checked_accounts (extendLocks_checked (.inl (h_kept.stage.trans h_clean)) stack)
      fun _ view₄ h₄ => ?_
    have h_stage₄ : view₄.stage ≠ .refused := h₄.stage ▸ h_stage₃
    refine quiet_accounts (lift_quiet (acquiredMarker_raises _ _ _ _ _)) h_stage₄
      fun marker view₅ h₅ h_stage₅ => ?_
    have h_ready₅ : ∀ key ∈ keys, view₅.ready key := fun key h_mem =>
      ((h₃.trans h₄).trans h₅).ready key (h_ready key h_mem)
    refine written_accounts (writeConsumption_settled _ h_ready₅ h_stage₅ _ _ _)
      (fun consumed view₆ h_stage₆ => pure_accounts h_stage₆ trivial) ?_
    exact fun e view₆ h_calm h_stage₆ => throw_accounts h_calm h_stage₆

theorem consumeCapacity_accounts (h_clean : view.stage = .clean) :
    Accounts rebuild (fun _ => True) (consumeCapacity usage reservationId lifetime) view := by
  have h_stage : view.stage ≠ .refused := by rw [h_clean]; exact nofun
  refine quiet_accounts (send_quiet rfl) h_stage fun client view₁ h₁ h_stage₁ => ?_
  refine quiet_accounts (lift_quiet (validateUsageMapping_raises _ _)) h_stage₁
    fun _ view₂ h₂ _ => ?_
  have h_clean₂ : view₂.stage = .clean := (h₁.trans h₂).stage.trans h_clean
  refine accounts_bind (withLocks_accounts (lockOrContention_taken client.bucketKeys h_clean₂)
    fun stack _ h_clean₃ => consumeUnderLocks_accounts usage reservationId lifetime h_clean₃
      client.bucketKeys stack) fun result view₃ h_stage₃ => ?_
  split
  · exact pure_accounts h_stage₃ trivial
  · exact pure_accounts h_stage₃ trivial
  · exact returns_accounts (consumptionCallbacks_returns _) h_stage₃ fun view₄ h_stage₄ =>
      pure_accounts h_stage₄ trivial

theorem refundUnderLocks_accounts (h_clean : view.stage = .clean) (refund : RefundRequest)
    (refundBucketIds : Finset BucketId) (marker : Option AcquiredMarker) (keys : List BucketKey)
    (stack : LockStack) :
    Accounts rebuild (fun _ => True)
      (refundUnderLocks refund refundBucketIds marker keys stack) view := by
  have h_stage : view.stage ≠ .refused := by rw [h_clean]; exact nofun
  refine quiet_accounts (send_quiet rfl) h_stage fun currentTime view₁ h₁ h_stage₁ => ?_
  refine read_accounts h_stage₁ fun read view₂ h₂ h_stage₂ h_ready => ?_
  refine quiet_accounts (send_quiet rfl) h_stage₂ fun client view₃ h₃ h_stage₃ => ?_
  have h_kept := (h₁.trans h₂).trans h₃
  refine checked_accounts (extendLocks_checked (.inl (h_kept.stage.trans h_clean)) stack)
    fun _ view₄ h₄ => ?_
  have h_ready₄ : ∀ key ∈ keys.filter fun key => key.id ∈ refundBucketIds, view₄.ready key :=
    fun key h_mem => (h₃.trans h₄).ready key (h_ready key (List.mem_of_mem_filter h_mem))
  refine written_accounts (writeRefund_settled client _ h_ready₄ (h₄.stage ▸ h_stage₃) _ marker)
    (fun _ view₅ h_stage₅ => pure_accounts h_stage₅ trivial) ?_
  exact fun e view₅ h_calm h_stage₅ => throw_accounts h_calm h_stage₅

theorem refundCapacityForBuckets_accounts (h_clean : view.stage = .clean)
    (refund : RefundRequest) :
    Accounts rebuild (fun _ => True) (refundCapacityForBuckets refund) view := by
  have h_stage : view.stage ≠ .refused := by rw [h_clean]; exact nofun
  refine quiet_accounts (send_quiet rfl) h_stage fun client view₁ h₁ h_stage₁ => ?_
  refine quiet_accounts (lift_quiet (validateBackendRefundUsage_raises _ _ _ _)) h_stage₁
    fun _ view₂ h₂ h_stage₂ => ?_
  refine quiet_accounts (lift_quiet (expectedMarker_raises _ _)) h_stage₂
    fun marker view₃ h₃ h_stage₃ => ?_
  have h_kept := (h₁.trans h₂).trans h₃
  split
  · split
    · exact pure_accounts h_stage₃ trivial
    · refine quiet_accounts (send_quiet rfl) h_stage₃ fun currentTime view₄ _ h_stage₄ => ?_
      exact Settled.accounts (commitRefund_settled _
        (fun _ h_mem => absurd h_mem List.not_mem_nil) h_stage₄ _ _ _)
  · refine accounts_bind (withLocks_accounts
      (lockOrContention_taken client.bucketKeys (h_kept.stage.trans h_clean))
      fun stack _ h_clean₄ => refundUnderLocks_accounts h_clean₄ refund
        (refund.bucketIds.getD client.bucketIds) marker client.bucketKeys stack)
      fun result view₄ h_stage₄ => ?_
    split
    · exact pure_accounts h_stage₄ trivial
    · refine quiet_accounts (send_quiet rfl) h_stage₄ fun _ view₅ _ h_stage₅ => ?_
      refine returns_accounts (freshStartBucketsCallback_returns _) h_stage₅ fun view₆ h_stage₆ => ?_
      exact (invokeCallback_returns _).mono fun result view₇ h_returns =>
        ⟨⟨fun h => by rw [h_returns.1] at h; exact h.elim,
          fun h => absurd h (h_returns.2.stage ▸ h_stage₆)⟩, fun _ _ => trivial⟩

end Calls

/-! ## Limits -/

section Limits

/-- A state that was read is known. -/
theorem projectBucketState_quiet (owner : BucketOwner) (key : BucketKey) :
    (projectBucketState owner key).Follows (discipline rebuild)
      (fun result view' => Quiet view result view' ∧
        ∀ projection, result = .ok projection → view'.ready key) view := by
  refine quiet_bind (send_quiet rfl) (fun raw view₁ h₁ => ?_)
    fun _ _ h => ⟨h, fun _ h_eq => by cases h_eq⟩
  refine quiet_bind (ownerClient_quiet owner) (fun client view₂ h₂ => ?_)
    fun _ _ h => ⟨h.after h₁, fun _ h_eq => by cases h_eq⟩
  refine quiet_bind (send_quiet rfl) (fun currentTime view₃ h₃ => ?_)
    fun _ _ h => ⟨h.after (h₁.trans h₂), fun _ h_eq => by cases h_eq⟩
  refine Follows.send_bind (permits_plain rfl) fun fields => ?_
  have h_read : Kept view₃ (view₃.learn [key] fun _ => fields) := kept_learn _ _
  have h_kept := ((h₁.trans h₂).trans h₃).trans h_read
  have h_ready : (view₃.learn [key] fun _ => fields).ready key :=
    ready_learn List.mem_cons_self
  refine quiet_bind (ownerClient_quiet owner) (fun client view₄ h₄ => ?_)
    fun _ _ h => ⟨h.after h_kept, fun _ h_eq => by cases h_eq⟩
  dsimp only
  split
  · refine quiet_bind (send_quiet rfl) (fun history view₅ h₅ => ?_)
      fun _ _ h => ⟨h.after (h_kept.trans h₄), fun _ h_eq => by cases h_eq⟩
    refine quiet_bind (ownerClient_quiet owner) (fun client view₆ h₆ => ?_)
      fun _ _ h => ⟨h.after ((h_kept.trans h₄).trans h₅), fun _ h_eq => by cases h_eq⟩
    have h_later := (h₄.trans h₅).trans h₆
    exact ⟨⟨h_kept.trans h_later, id⟩, fun _ _ => h_later.ready key h_ready⟩
  · exact ⟨⟨h_kept.trans h₄, id⟩, fun _ _ => h₄.ready key h_ready⟩

/-- A projection of a bucket, and what follows it. -/
theorem project_bind {β : Type} {owner : BucketOwner} {key : BucketKey}
    {f : Projection → RedisProgram β} {post : Except BackendError β → CallView → Prop}
    (h_f : ∀ projection view', Kept view view' → view'.ready key →
      (f projection).Follows (discipline rebuild) post view')
    (h_error : ∀ e view', Quiet view (.error e : Except BackendError β) view' →
      post (.error e) view') :
    (projectBucketState owner key >>= f).Follows (discipline rebuild) post view :=
  Follows.bind (projectBucketState_quiet owner key)
    (fun projection view' h => h_f projection view' h.1.1 (h.2 projection rfl))
    fun e view' h => h_error e view' h.1

/-- What follows a part that may have changed something, before something was refused. -/
theorem settled_bind {β : Type} {p : RedisProgram α} {f : α → RedisProgram β}
    (h_p : p.Follows (discipline rebuild) (Settled view) view)
    (h_f : ∀ a view', view'.stage ≠ .refused → (∀ key, view.ready key → view'.ready key) →
      (f a).Follows (discipline rebuild) (Settled view') view') :
    (p >>= f).Follows (discipline rebuild) (Settled view) view :=
  Follows.bind h_p (fun a view' h => (h_f a view' h.stage h.ready).mono fun _ _ h' => h'.after h.ready)
    fun _ _ h => ⟨h.stage, h.ready, h.calm⟩

/-- A part that may have changed something, after a quiet one. -/
theorem settled_after {p : RedisProgram α} {view' : CallView} (h_kept : Kept view view')
    (h_p : p.Follows (discipline rebuild) (Settled view') view') :
    p.Follows (discipline rebuild) (Settled view) view' :=
  h_p.mono fun _ _ h_settled => h_settled.after h_kept.ready

theorem Quiet.settles {p : RedisProgram α} (h_p : p.Follows (discipline rebuild) (Quiet view) view)
    (h_stage : view.stage ≠ .refused) : p.Follows (discipline rebuild) (Settled view) view :=
  h_p.mono fun _ _ h_quiet => h_quiet.settled h_stage

theorem pure_settled (a : α) (h_stage : view.stage ≠ .refused) :
    (pure a : RedisProgram α).Follows (discipline rebuild) (Settled view) view :=
  ⟨h_stage, fun _ h => h, id⟩

theorem snapshotBucketState_settled (h_stage : view.stage ≠ .refused) (key : BucketKey)
    (proposed : MaxCapacity) :
    (snapshotBucketState key proposed).Follows (discipline rebuild) (Settled view) view := by
  refine project_bind (fun projection view₁ h₁ h_ready => ?_) fun _ _ h => h.settled h_stage
  refine quiet_bind (refreshMaxCapacityOverrideTtl_quiet .running key projection.override)
    (fun _ view₂ h₂ => ?_) fun _ _ h => (h.after h₁).settled h_stage
  have h_kept := h₁.trans h₂
  have h_stage₂ : view₂.stage ≠ .refused := h_kept.stage ▸ h_stage
  have h_end : ∀ {view' : CallView}, view'.stage ≠ .refused →
      (send (.updateCaches (.applyParsedMaxCapacityOverride key.id projection.override))).Follows
        (discipline rebuild) (Settled view') view' :=
    fun h_stage' => Quiet.settles (send_quiet rfl) h_stage'
  split
  · exact settled_after h_kept (h_end h_stage₂)
  · exact settled_after h_kept (settled_bind
      (setCapacity_settled .running (h₂.ready key h_ready) h_stage₂ _ _ _)
      fun _ view₃ h_stage₃ _ => h_end h_stage₃)

/-- One command that changes a limit, and no bucket. -/
theorem send_settled {command : Command} (h_allowed : permits rebuild view command)
    (h_written : ∀ response, view.observe command response = view.withStage .written) :
    (send command).Follows (discipline rebuild) (Settled view) view := by
  apply Follows.send h_allowed
  intro response
  rw [h_written]
  exact ⟨nofun, fun _ h_ready => h_ready, id⟩

theorem updateCaches_settled (h_stage : view.stage ≠ .refused) (owner : BucketOwner)
    (f : BucketCaches → BucketCaches) :
    (owner.updateCaches f).Follows (discipline rebuild) (Settled view) view :=
  Quiet.settles (updateCaches_quiet owner f) h_stage

theorem clearMaxCapacityOverride_settled (h_stage : view.stage ≠ .refused) (owner : BucketOwner)
    (key : BucketKey) :
    (RedisBucket.clearMaxCapacityOverride owner key).Follows (discipline rebuild) (Settled view)
      view :=
  settled_bind (send_settled ⟨fun _ h_mem => absurd h_mem List.not_mem_nil, fun _ => h_stage⟩
    fun _ => rfl) fun _ _ h_stage' _ => updateCaches_settled h_stage' owner _

theorem bucketSetMaxCapacity_settled (h_stage : view.stage ≠ .refused) (key : BucketKey)
    (value : MaxCapacity) :
    (RedisBucket.setMaxCapacity key value).Follows (discipline rebuild) (Settled view) view := by
  refine quiet_bind (send_quiet rfl) (fun currentTime view₁ h₁ => ?_)
    fun _ _ h => h.settled h_stage
  refine quiet_bind (send_quiet rfl) (fun client view₂ h₂ => ?_)
    fun _ _ h => (h.after h₁).settled h_stage
  have h_kept := h₁.trans h₂
  have h_stage₂ : view₂.stage ≠ .refused := h_kept.stage ▸ h_stage
  refine settled_after h_kept (settled_bind (send_settled
    ⟨fun _ h_mem => absurd h_mem List.not_mem_nil, fun _ => h_stage₂⟩ fun _ => rfl)
    fun _ _ h_stage₃ _ => ?_)
  exact Quiet.settles (send_quiet rfl) h_stage₃

/-- A change of a limit under its locks: one check, and then the change. -/
theorem limitChange_accounts {change : MaxCapacity → RedisProgram Unit}
    (h_change : ∀ maxCapacity view, view.stage ≠ .refused →
      (change maxCapacity).Follows (discipline rebuild) (Settled view) view)
    (h_clean : view.stage = .clean) (keys : List BucketKey) (value : ℚ) :
    Accounts rebuild (fun _ => True) (do
      withLocks (lockOrContention keys) fun stack => do
        extendLocks stack
        let value ← Program.lift (validateMaxCapacityFinitePositive value)
        change value
      send .suspend) view := by
  have h_body : ∀ stack view', view'.stage = .clean → Accounts rebuild (fun _ => True) (do
      extendLocks stack
      let value ← Program.lift (validateMaxCapacityFinitePositive value)
      change value) view' := by
    intro stack view₁ h_clean₁
    refine checked_accounts (extendLocks_checked (.inl h_clean₁) stack) fun _ view₂ h₂ => ?_
    have h_stage₂ : view₂.stage ≠ .refused := by
      rw [h₂.stage, h_clean₁]
      exact nofun
    refine quiet_accounts (lift_quiet (validateMaxCapacity_raises value)) h_stage₂
      fun maxCapacity view₃ _ h_stage₃ => ?_
    exact Settled.accounts (h_change maxCapacity view₃ h_stage₃)
  exact accounts_bind (withLocks_accounts (lockOrContention_taken keys h_clean) h_body)
    fun _ _ h_stage => suspend_accounts h_stage

theorem setMaxCapacity_accounts (h_clean : view.stage = .clean) (id : BucketId) (value : ℚ) :
    Accounts rebuild (fun _ => True) (setMaxCapacity id value) view := by
  have h_stage : view.stage ≠ .refused := by rw [h_clean]; exact nofun
  refine quiet_accounts (send_quiet rfl) h_stage fun client view₁ h₁ h_stage₁ => ?_
  split
  · exact throw_accounts rfl h_stage₁
  · apply limitChange_accounts _ (h₁.stage.trans h_clean)
    intro maxCapacity view₂ h_stage₂
    exact settled_bind (snapshotBucketState_settled h_stage₂ _ _) fun _ _ h_stage₃ _ =>
      bucketSetMaxCapacity_settled h_stage₃ _ _

theorem applyConfiguredMaxCapacity_accounts (h_clean : view.stage = .clean) (id : BucketId)
    (value : ℚ) :
    Accounts rebuild (fun _ => True) (applyConfiguredMaxCapacity id value) view := by
  have h_stage : view.stage ≠ .refused := by rw [h_clean]; exact nofun
  refine quiet_accounts (send_quiet rfl) h_stage fun client view₁ h₁ h_stage₁ => ?_
  split
  · exact throw_accounts rfl h_stage₁
  · apply limitChange_accounts _ (h₁.stage.trans h_clean)
    intro maxCapacity view₂ h_stage₂
    refine settled_bind (snapshotBucketState_settled h_stage₂ _ _) fun _ view₃ h_stage₃ _ => ?_
    refine settled_bind (clearMaxCapacityOverride_settled h_stage₃ _ _)
      fun _ view₄ h_stage₄ _ => ?_
    exact send_settled ⟨fun _ h_mem => absurd h_mem List.not_mem_nil, fun _ => h_stage₄⟩
      fun _ => rfl

end Limits

/-! ## Rebuilding -/

section Rebuild

theorem prepareSnapshot_quiet (owner : BucketOwner) (target : RebuildTarget) (key : BucketKey) :
    (prepareSnapshot owner target key).Follows (discipline rebuild)
      (fun result view' => Quiet view result view' ∧
        ∀ plan, result = .ok plan → view'.ready plan.key) view := by
  have h_error : ∀ e view', Quiet view (.error e : Except BackendError BucketSnapshotPlan) view' →
      Quiet view (.error e : Except BackendError BucketSnapshotPlan) view' ∧
        ∀ plan, (.error e : Except BackendError BucketSnapshotPlan) = .ok plan →
          view'.ready plan.key :=
    fun _ _ h => ⟨h, fun _ h_eq => by cases h_eq⟩
  refine project_bind (fun projection view₁ h₁ h_ready => ?_) h_error
  refine quiet_bind (ownerClient_quiet owner) (fun client view₂ h₂ => ?_)
    fun e _ h => h_error e _ (h.after h₁)
  have h_kept := h₁.trans h₂
  have h_ready₂ := h₂.ready key h_ready
  have h_plan {view' : CallView} {plan : BucketSnapshotPlan} (h_kept : Kept view view')
      (h_key : plan.key = key) (h_ready : view'.ready key) :
      Quiet view (.ok plan : Except BackendError BucketSnapshotPlan) view' ∧
        ∀ plan', (.ok plan : Except BackendError BucketSnapshotPlan) = .ok plan' →
          view'.ready plan'.key := by
    refine ⟨⟨h_kept, id⟩, ?_⟩
    rintro plan' h_eq
    cases h_eq
    rw [h_key]
    exact h_ready
  split
  · exact h_plan h_kept rfl h_ready₂
  · refine quiet_bind (lift_quiet (capacityTtl_raises _ _ _ _)) (fun _ view₃ h₃ => ?_)
      fun e _ h => h_error e _ (h.after h_kept)
    exact h_plan (h_kept.trans h₃) rfl (h₃.ready key h_ready₂)

/-- The first pass of a rebuild: it changes nothing, and every bucket of a plan is known. -/
theorem prepareSnapshots_ready (stack : LockStack) (current newBackend : RedisClient)
    (targets : List RebuildTarget) (h_clean : view.stage = .clean) :
    (prepareSnapshots stack current newBackend targets).Follows (discipline rebuild)
      (fun result view' => match result with
        | .ok plans => Kept view view' ∧ ∀ plan ∈ plans, view'.ready plan.key
        | .error e => Accounted (.error e : Except BackendError Unit) view') view := by
  have h_stage : view.stage ≠ .refused := by rw [h_clean]; exact nofun
  induction targets generalizing view with
  | nil => exact ⟨Kept.refl view, fun plan h_mem => absurd h_mem List.not_mem_nil⟩
  | cons target targets ih =>
    refine Follows.bind (extendLocks_checked (.inl h_clean) stack) (fun _ view₁ h₁ => ?_)
      fun _ _ h => ⟨fun _ => h.2, fun _ => h.1⟩
    have h_clean₁ : view₁.stage = .clean := h₁.stage.trans h_clean
    have h_stage₁ : view₁.stage ≠ .refused := by rw [h_clean₁]; exact nofun
    refine Follows.bind (prepareSnapshot_quiet _ target _) (fun plan view₂ h₂ => ?_)
      fun _ _ h => (Quiet.settled h.1 h_stage₁).accounted
    have h_kept₂ : Kept view view₂ := h₁.trans h₂.1.1
    have h_clean₂ : view₂.stage = .clean := h_kept₂.stage.trans h_clean
    have h_stage₂ : view₂.stage ≠ .refused := by rw [h_clean₂]; exact nofun
    refine Follows.bind (ih h_clean₂ h_stage₂) (fun plans view₃ h₃ => ?_) fun _ _ h => h
    refine ⟨h_kept₂.trans h₃.1, fun plan' h_mem => ?_⟩
    rcases List.mem_cons.mp h_mem with rfl | h_mem
    · exact h₃.1.ready _ (h₂.2 _ rfl)
    · exact h₃.2 plan' h_mem

theorem commitBucketSnapshot_settled (h_stage : view.stage ≠ .refused) (owner : BucketOwner)
    {plan : BucketSnapshotPlan} (h_ready : view.ready plan.key) :
    (commitBucketSnapshot owner plan).Follows (discipline rebuild) (Settled view) view := by
  refine quiet_bind (refreshMaxCapacityOverrideTtl_quiet _ _ _) (fun _ view₁ h₁ => ?_)
    fun _ _ h => h.settled h_stage
  have h_stage₁ : view₁.stage ≠ .refused := h₁.stage ▸ h_stage
  apply settled_after h₁
  split
  · exact settled_bind (pure_settled owner h_stage₁) fun _ _ h_stage₂ _ =>
      updateCaches_settled h_stage₂ _ _
  · exact settled_bind (setCapacity_settled _ (h₁.ready _ h_ready) h_stage₁ _ _ _)
      fun _ _ h_stage₂ _ => updateCaches_settled h_stage₂ _ _

theorem commitPlan_settled (h_stage : view.stage ≠ .refused) (newBackend : RedisClient)
    {plan : BucketSnapshotPlan} (h_ready : view.ready plan.key) :
    (commitPlan newBackend plan).Follows (discipline rebuild) (Settled view) view := by
  have h_snapshot : ∀ owner, (commitBucketSnapshot owner plan).Follows (discipline rebuild)
      (Settled view) view := fun owner => commitBucketSnapshot_settled h_stage owner h_ready
  unfold commitPlan
  split
  · refine settled_bind (h_snapshot _) fun _ view₁ h_stage₁ _ => ?_
    exact settled_bind (clearMaxCapacityOverride_settled h_stage₁ _ _) fun _ _ h_stage₂ _ =>
      pure_settled _ h_stage₂
  · refine settled_bind (h_snapshot _) fun _ view₁ h_stage₁ _ => ?_
    refine settled_bind (Quiet.settles (send_quiet rfl) h_stage₁) fun _ view₂ h_stage₂ _ => ?_
    split
    · exact settled_bind (clearMaxCapacityOverride_settled h_stage₂ _ _) fun _ _ h_stage₃ _ =>
        pure_settled _ h_stage₃
    · exact settled_bind (pure_settled _ h_stage₂) fun _ _ h_stage₃ _ => pure_settled _ h_stage₃
  · exact settled_bind (h_snapshot _) fun _ _ h_stage₁ _ => pure_settled _ h_stage₁

/-- Between its commits a rebuild may check its locks again. -/
theorem CallView.mayCheck_of_not_refused (h_stage : view.stage ≠ .refused) :
    view.mayCheck true := by
  unfold CallView.mayCheck
  cases h_view : view.stage with
  | clean => exact .inl rfl
  | written => exact .inr ⟨rfl, rfl⟩
  | refused => exact absurd h_view h_stage

theorem commitPlans_accounts (stack : LockStack) (newBackend : RedisClient)
    (plans : List BucketSnapshotPlan) (h_stage : view.stage ≠ .refused)
    (h_ready : ∀ plan ∈ plans, view.ready plan.key) :
    Accounts true (fun _ => True) (commitPlans stack newBackend plans) view := by
  induction plans generalizing view newBackend with
  | nil => exact pure_accounts h_stage trivial
  | cons plan plans ih =>
    refine checked_accounts (extendLocks_checked (CallView.mayCheck_of_not_refused h_stage) stack)
      fun _ view₁ h₁ => ?_
    have h_stage₁ : view₁.stage ≠ .refused := h₁.stage ▸ h_stage
    refine settled_accounts (commitPlan_settled h_stage₁ newBackend
      (h₁.ready _ (h_ready plan List.mem_cons_self))) fun newBackend view₂ h₂ => ?_
    refine ih newBackend h₂.stage fun plan' h_mem => ?_
    exact h₂.ready _ (h₁.ready _ (h_ready plan' (List.mem_cons_of_mem _ h_mem)))

theorem prepareReconfiguredBackend_accounts (h_clean : view.stage = .clean)
    (newBackend : RedisClient) (quotas : List (BucketId × MaxCapacity)) :
    Accounts true (fun _ => True) (prepareReconfiguredBackend newBackend quotas) view := by
  have h_stage : view.stage ≠ .refused := by rw [h_clean]; exact nofun
  refine quiet_accounts (send_quiet rfl) h_stage fun current view₁ h₁ h_stage₁ => ?_
  have h_body : ∀ stack view', view'.stage = .clean → Accounts true (fun _ => True) (do
      let targets ← Program.lift (rebuildTargets current newBackend quotas)
      let plans ← prepareSnapshots stack current newBackend targets
      let newBackend ← commitPlans stack newBackend plans
      extendLocks stack
      installReconfiguredState newBackend) view' := by
    intro stack view₂ h_clean₂
    have h_stage₂ : view₂.stage ≠ .refused := by rw [h_clean₂]; exact nofun
    refine quiet_accounts (lift_quiet (rebuildTargets_raises _ _ _)) h_stage₂
      fun targets view₃ h₃ h_stage₃ => ?_
    have h_clean₃ : view₃.stage = .clean := h₃.stage.trans h_clean₂
    refine Follows.bind (prepareSnapshots_ready stack current newBackend targets h_clean₃)
      (fun plans view₄ h₄ => ?_) fun _ _ h => accounts_error h
    have h_stage₄ : view₄.stage ≠ .refused := h₄.1.stage ▸ h_stage₃
    refine accounts_bind (commitPlans_accounts stack newBackend plans h_stage₄ h₄.2)
      fun newBackend view₅ h_stage₅ => ?_
    refine checked_accounts (extendLocks_checked (CallView.mayCheck_of_not_refused h_stage₅) stack)
      fun _ view₆ h₆ => ?_
    refine quiet_accounts (send_quiet rfl) (h₆.stage ▸ h_stage₅) fun current view₇ _ h_stage₇ => ?_
    split
    · exact throw_accounts rfl h_stage₇
    · exact Settled.accounts (send_settled
        ⟨fun _ h_mem => absurd h_mem List.not_mem_nil, fun _ => h_stage₇⟩ fun _ => rfl)
  exact accounts_bind (withLocks_accounts
    (lockOrContention_taken _ (h₁.stage.trans h_clean)) h_body)
    fun _ _ h_stage => suspend_accounts h_stage

end Rebuild

end RedisBackend

end TokenThrottle
