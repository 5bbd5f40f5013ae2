/-
  TokenThrottle.Redis.LockOrder

  The order in which an operation takes the locks of its buckets: one at a time, each above
  all that it holds.  Whatever the server answers and wherever an exception arrives, the
  operation asks for the release of every lock it has taken before it ends.

  * `Held` is what an operation may hold by the answers it got: a lock command that raised may
    have taken the lock, and a release is asked for once, whether it gets through or not.
  * `lockOrder` says which locks may be asked for, and takes the order of `sorted_buckets` as
    given wherever a call reads them; in return only ordered buckets are installed.
-/
import TokenThrottle.Redis.LockBodies
import TokenThrottle.Redis.Footprint

namespace TokenThrottle

open Theory (Program Protocol)
open Theory.Program

/-- `full_redis_key` ascends strictly. -/
def AscendingKeys (keys : List BucketKey) : Prop :=
  keys.Pairwise fun a b => a.fullRedisKey < b.fullRedisKey

/-- The buckets of the backend are in the order of `full_redis_key`. -/
def RedisClient.Ascending (client : RedisClient) : Prop := AscendingKeys client.bucketKeys

/-- Locks that the running operation has taken, and not asked to release yet. -/
abbrev Held := Finset (BucketKey × Token)

/-- The locks held after a command, by its answer. -/
def heldAfter (held : Held) : (command : Command) → Except BackendError command.Response → Held
  | .acquireLock _ _, .ok false => held
  | .acquireLock key token, _ => insert (key, token) held
  | .releaseLock key token, _ => held.erase (key, token)
  | _, _ => held

/-- The buckets that a command reads from the backend are ordered. -/
def ReadsAscending : (command : Command) → Except BackendError command.Response → Prop
  | .client, .ok client => client.Ascending
  | _, _ => True

/-- A lock is asked for above all that is held, and only ordered buckets are installed. -/
def lockOrder : Protocol Command Command.Response BackendError Held where
  allowed held
    | .acquireLock key _ => ∀ lock ∈ held, lock.1.fullRedisKey < key.fullRedisKey
    | .installReconfiguredState client => client.Ascending
    | _ => True
  after held command answer held' :=
    held' = heldAfter held command answer ∧ ReadsAscending command answer

/-! ## Sorted buckets -/

section Sorted

variable {buckets : List BucketKey}

/-- Sorted by `full_redis_key`, buckets of distinct keys ascend. -/
theorem ascending_insertionSort
    (h_distinct : buckets.Pairwise fun a b => a.fullRedisKey ≠ b.fullRedisKey) :
    AscendingKeys (buckets.insertionSort fun a b => a.fullRedisKey ≤ b.fullRedisKey) := by
  have h_sorted := List.pairwise_insertionSort
    (fun a b : BucketKey => a.fullRedisKey ≤ b.fullRedisKey) buckets
  have h_perm := List.perm_insertionSort
    (fun a b : BucketKey => a.fullRedisKey ≤ b.fullRedisKey) buckets
  have h_distinct' := (h_perm.pairwise_iff fun h_ne => h_ne.symm).mpr h_distinct
  exact (h_sorted.and h_distinct').imp fun ⟨h_le, h_ne⟩ => lt_of_le_of_ne h_le h_ne

theorem combinedBucketSnapshot_ascending (buckets : List BucketKey) :
    AscendingKeys (RedisBackend.combinedBucketSnapshot buckets) :=
  ascending_insertionSort (List.pairwise_pwFilter _)

theorem mem_of_mem_combinedBucketSnapshot {key : BucketKey}
    (h_mem : key ∈ RedisBackend.combinedBucketSnapshot buckets) : key ∈ buckets :=
  List.pwFilter_subset _ ((List.mem_insertionSort _).mp h_mem)

/-- Every bucket has a lock in the combined snapshot. -/
theorem exists_mem_combinedBucketSnapshot {key : BucketKey} (h_mem : key ∈ buckets) :
    ∃ key' ∈ RedisBackend.combinedBucketSnapshot buckets, key'.fullRedisKey = key.fullRedisKey := by
  by_contra h_none
  push Not at h_none
  have h_filtered : ∀ key' ∈ buckets.pwFilter fun a b => a.fullRedisKey ≠ b.fullRedisKey,
      key.fullRedisKey ≠ key'.fullRedisKey := by
    intro key' h_mem'
    exact (h_none key' ((List.mem_insertionSort _).mpr h_mem')).symm
  have h_all := (List.forall_mem_pwFilter (R := fun a b : BucketKey =>
    a.fullRedisKey ≠ b.fullRedisKey) ?_ key buckets).mp h_filtered
  · exact h_all key h_mem rfl
  · intro a b c h_ne
    by_contra h_same
    push Not at h_same
    exact h_ne (h_same.1.trans h_same.2)

end Sorted

/-! ## Programs that keep the locks they found -/

section Rules

variable {α β : Type} {held : Held} {m : α → Prop} {post : β → Prop} {p : RedisProgram α}

/-- The program takes its locks in order and ends with those it began with; what it returns
    meets `post`. -/
abbrev InOrder {α : Type} (held : Held) (post : α → Prop) (p : RedisProgram α) : Prop :=
  p.Follows lockOrder (fun result held' => held' = held ∧ ∀ a, result = .ok a → post a) held

theorem InOrder.pure {a : β} (h_post : post a) : InOrder held post (Pure.pure a) := by
  refine ⟨rfl, ?_⟩
  rintro a' h_eq
  cases h_eq
  exact h_post

theorem InOrder.throw (e : BackendError) :
    InOrder held post (MonadExcept.throw e : RedisProgram β) := by
  refine ⟨rfl, ?_⟩
  intro a h_eq
  cases h_eq

theorem InOrder.settle {f : Except BackendError α → RedisProgram β} (h_p : InOrder held m p)
    (h_ok : ∀ a, m a → InOrder held post (f (.ok a)))
    (h_error : ∀ e, InOrder held post (f (.error e))) : InOrder held post (p.settle f) := by
  apply Follows.settle h_p
  rintro result held' ⟨h_held, h_mid⟩
  rw [h_held]
  cases result with
  | ok a => exact h_ok a (h_mid a rfl)
  | error e => exact h_error e

theorem InOrder.bind {f : α → RedisProgram β} (h_p : InOrder held m p)
    (h_f : ∀ a, m a → InOrder held post (f a)) : InOrder held post (p >>= f) :=
  InOrder.settle h_p h_f InOrder.throw

/-- What follows a program whose result does not matter. -/
theorem InOrder.then {f : α → RedisProgram β} (h_p : InOrder held (fun _ => True) p)
    (h_f : ∀ a, InOrder held post (f a)) : InOrder held post (p >>= f) :=
  InOrder.bind h_p fun a _ => h_f a

theorem InOrder.attempt (h_p : InOrder held m p) :
    InOrder held (fun result => ∀ a, result = .ok a → m a) p.attempt := by
  refine InOrder.settle h_p (fun a h_a => InOrder.pure ?_) fun e => InOrder.pure ?_
  · rintro a' h_eq
    cases h_eq
    exact h_a
  · intro a h_eq
    cases h_eq

/-- The buckets that a call reads are in order. -/
theorem client_inOrder : InOrder held RedisClient.Ascending (send .client) := by
  refine ⟨trivial, fun answer held' h_after => ?_⟩
  rw [show held' = held from h_after.1]
  cases answer with
  | ok client => exact InOrder.pure h_after.2
  | error e => exact InOrder.throw e

/-! ### Between the locks -/

theorem heldAfter_betweenLocks {command : Command} (h_between : command.betweenLocks = true)
    (answer : Except BackendError command.Response) : heldAfter held command answer = held := by
  cases command with
  | acquireLock => cases h_between
  | releaseLock => cases h_between
  | _ => rfl

theorem allowed_betweenLocks {command : Command} (h_between : command.betweenLocks = true) :
    lockOrder.allowed held command := by
  cases command with
  | acquireLock => cases h_between
  | installReconfiguredState => cases h_between
  | _ => trivial

/-- A program between the locks leaves them, and returns what it emits. -/
theorem BetweenLocks.inOrder_of_emits {allowed : Command → Prop} (h_p : BetweenLocks p)
    (h_emits : p.Emits allowed m) : InOrder held m p := by
  unfold Emits at h_emits
  induction p with
  | done result =>
    refine ⟨rfl, ?_⟩
    rintro a rfl
    exact h_emits
  | call command next ih =>
    refine ⟨allowed_betweenLocks h_p.1, ?_⟩
    rintro answer held' ⟨rfl, -⟩
    rw [heldAfter_betweenLocks h_p.1]
    exact ih answer (h_p.2 answer) (h_emits.2 answer () trivial)

theorem BetweenLocks.inOrder (h_p : BetweenLocks p) : InOrder held (fun _ => True) p :=
  BetweenLocks.inOrder_of_emits h_p h_p.emits

/-- What follows a part that leaves the locks alone. -/
theorem BetweenLocks.then {f : α → RedisProgram β} (h_p : BetweenLocks p)
    (h_f : ∀ a, InOrder held post (f a)) : InOrder held post (p >>= f) :=
  InOrder.then (BetweenLocks.inOrder h_p) h_f

/-- A cleanup that leaves the locks alone, however the program ended. -/
theorem InOrder.ensuring {cleanup : RedisProgram Unit} (h_p : InOrder held m p)
    (h_cleanup : BetweenLocks cleanup) : InOrder held m (p.ensuring cleanup) := by
  apply Follows.ensuring h_p
  rintro result held' ⟨h_held, h_result⟩
  rw [h_held]
  apply (BetweenLocks.inOrder h_cleanup).mono
  rintro cleaned held' ⟨rfl, -⟩
  cases cleaned with
  | ok _ => exact ⟨rfl, h_result⟩
  | error e => exact InOrder.throw e

end Rules

namespace RedisBackend

/-! ## The lock stack -/

section Stack

variable {held : Held}

/-- Every lock of the stack is released, whatever becomes of the releases. -/
theorem releaseLocks_follows (stack : LockStack) (held : Held) :
    (releaseLocks stack).Follows lockOrder (fun _ held' => held' = held \ stack.toFinset) held := by
  induction stack with
  | nil => exact (Finset.sdiff_empty).symm
  | cons lock stack ih =>
    obtain ⟨key, token⟩ := lock
    refine Follows.ensuring ih fun result held' h_held => ?_
    have h_erase : held'.erase (key, token) = held \ ((key, token) :: stack).toFinset := by
      rw [h_held, List.toFinset_cons, Finset.sdiff_insert]
    refine ⟨trivial, ?_⟩
    rintro answer held'' ⟨rfl, -⟩
    cases answer with
    | ok response => exact h_erase
    | error e => exact h_erase

/-- A lock that is not returned is not kept. -/
theorem acquireLock_follows {key : BucketKey}
    (h_above : ∀ lock ∈ held, lock.1.fullRedisKey < key.fullRedisKey) :
    (acquireLock key).Follows lockOrder
      (fun result held' => match result with
        | .ok token => held' = insert (key, token) held
        | .error _ => held' = held) held := by
  refine ⟨trivial, fun answer held' h_after => ?_⟩
  rw [show held' = held from h_after.1]
  cases answer with
  | error e => exact rfl
  | ok token =>
    have h_new : (key, token) ∉ held := by
      intro h_mem
      have h_lt : key.fullRedisKey < key.fullRedisKey := h_above (key, token) h_mem
      exact lt_irrefl key.fullRedisKey h_lt
    refine ⟨h_above, fun answer held' h_after => ?_⟩
    match answer with
    | .ok true => exact h_after.1
    | .ok false => exact h_after.1
    | .error e =>
      -- the lock may have been taken: it is released with the token that was drawn before
      have h_erase : held'.erase (key, token) = held := by
        rw [h_after.1]
        exact Finset.erase_insert h_new
      refine ⟨trivial, fun answer held'' h_after => ?_⟩
      cases answer with
      | ok response => exact h_after.1.trans h_erase
      | error e => exact h_after.1.trans h_erase

/-- The locks held are those of the stack returned; where one is missing, none is held. -/
def Locked (result : Except BackendError LockStack) (held : Held) : Prop :=
  match result with
  | .ok stack => held = stack.toFinset
  | .error _ => held = ∅

theorem lockFrom_follows (keys : List BucketKey) (stack : LockStack)
    (h_keys : AscendingKeys (stack.map Prod.fst ++ keys)) :
    (lockFrom stack keys).Follows lockOrder Locked stack.toFinset := by
  induction keys generalizing stack with
  | nil => exact rfl
  | cons key keys ih =>
    have h_above : ∀ lock ∈ stack.toFinset, lock.1.fullRedisKey < key.fullRedisKey := by
      intro lock h_mem
      have h_key : lock.1 ∈ stack.map Prod.fst :=
        List.mem_map_of_mem (List.mem_toFinset.mp h_mem)
      exact (List.pairwise_append.mp h_keys).2.2 _ h_key _ List.mem_cons_self
    have h_next : (do extendLocks stack; acquireLock key : RedisProgram Token).Follows lockOrder
        (fun result held' => match result with
          | .ok token => held' = insert (key, token) stack.toFinset
          | .error _ => held' = stack.toFinset) stack.toFinset := by
      apply Follows.bind (BetweenLocks.inOrder (extendLocks_betweenLocks stack))
      · rintro _ held' ⟨rfl, -⟩
        exact acquireLock_follows h_above
      · rintro e held' ⟨rfl, -⟩
        rfl
    have h_token : (Program.onError (do extendLocks stack; acquireLock key)
        (releaseLocks stack)).Follows lockOrder
        (fun result held' => match result with
          | .ok token => held' = insert (key, token) stack.toFinset
          | .error _ => held' = ∅) stack.toFinset := by
      refine h_next.onError (fun token held' h_held => h_held) ?_
      rintro e held' rfl
      refine (releaseLocks_follows stack _).mono ?_
      rintro result held' rfl
      cases result with
      | ok _ => exact Finset.sdiff_self _
      | error _ => exact Finset.sdiff_self _
    refine h_token.bind ?_ fun e held' h_held => h_held
    rintro token held' rfl
    have h_stack : insert (key, token) stack.toFinset = (stack ++ [(key, token)]).toFinset := by
      rw [List.toFinset_append, Finset.union_comm]
      rfl
    rw [h_stack]
    apply ih
    rw [List.map_append, List.append_assoc]
    exact h_keys

theorem lock_follows {keys : List BucketKey} (h_keys : AscendingKeys keys) :
    (lock keys).Follows lockOrder Locked ∅ :=
  lockFrom_follows keys [] h_keys

theorem lockOrContention_follows {keys : List BucketKey} (h_keys : AscendingKeys keys) :
    (lockOrContention keys).Follows lockOrder Locked ∅ :=
  (lock_follows h_keys).tryCatch (fun _ _ h_locked => h_locked) fun _ _ h_locked => h_locked

end Stack

/-! ## Bodies between locks -/

section Bodies

variable {β : Type} {post : β → Prop} {keys : List BucketKey} {body : LockStack → RedisProgram β}

/-- A body between ordered locks. -/
theorem withLocks_inOrder (h_keys : AscendingKeys keys)
    (h_body : ∀ stack, InOrder stack.toFinset post (body stack)) :
    InOrder ∅ post (withLocks (lockOrContention keys) body) := by
  apply (lockOrContention_follows h_keys).bind
  · rintro stack held rfl
    apply Follows.ensuring (h_body stack)
    rintro result held ⟨rfl, h_result⟩
    apply (releaseLocks_follows stack _).mono
    rintro cleaned held rfl
    rw [Finset.sdiff_self]
    cases cleaned with
    | ok _ => exact ⟨rfl, h_result⟩
    | error e => exact InOrder.throw e
  · rintro e held rfl
    exact InOrder.throw e

theorem withLocks_betweenLocks (h_keys : AscendingKeys keys)
    (h_body : ∀ stack, BetweenLocks (body stack)) :
    InOrder ∅ (fun _ => True) (withLocks (lockOrContention keys) body) :=
  withLocks_inOrder h_keys fun stack => BetweenLocks.inOrder (h_body stack)

end Bodies

/-! ## Operations -/

section Operations

variable (usage : FrozenUsage) (reservationId : Option ReservationId) (lifetime : Option ℚ)
  (recovering : Bool)

theorem refundCancelledConsumption_inOrder {keys : List BucketKey} (h_keys : AscendingKeys keys) :
    InOrder ∅ (fun _ => True) (refundCancelledConsumption usage reservationId recovering keys) :=
  InOrder.then (withLocks_betweenLocks h_keys fun stack =>
    refundCancelledUnderLocks_betweenLocks usage reservationId recovering keys stack)
    fun _ => BetweenLocks.inOrder (send_betweenLocks rfl)

theorem refundInterrupted_inOrder {α : Type} {post : α → Prop} {keys : List BucketKey}
    (h_keys : AscendingKeys keys) (e : BackendError) :
    InOrder ∅ post (refundInterrupted usage reservationId recovering keys e) := by
  refine InOrder.settle
    (refundCancelledConsumption_inOrder usage reservationId recovering h_keys)
    (fun _ _ => InOrder.throw e) fun e' => ?_
  cases e' with
  | interrupted => exact InOrder.throw _
  | _ => exact InOrder.throw _

theorem finishAttempt_inOrder {keys : List BucketKey} (h_keys : AscendingKeys keys)
    (attempt : LockedAttempt) (interruption : Option BackendError) :
    InOrder ∅ (fun result => AscendingKeys result.buckets)
      (finishAttempt usage reservationId recovering keys attempt interruption) := by
  cases interruption with
  | some e =>
    unfold finishAttempt
    dsimp only
    split
    · exact refundInterrupted_inOrder usage reservationId recovering h_keys e
    · exact InOrder.throw e
  | none =>
    unfold finishAttempt
    dsimp only
    split
    · exact InOrder.pure h_keys
    · split
      · exact InOrder.pure h_keys
      · exact InOrder.settle (BetweenLocks.inOrder (consumptionCallbacks_betweenLocks _))
          (fun _ _ => InOrder.pure h_keys) fun e =>
            refundInterrupted_inOrder usage reservationId recovering h_keys e

theorem checkAndConsumeCapacity_inOrder :
    InOrder ∅ (fun result => AscendingKeys result.buckets)
      (checkAndConsumeCapacity usage reservationId lifetime recovering) := by
  refine InOrder.bind client_inOrder fun client h_keys => ?_
  apply (lock_follows h_keys).bind
  · rintro stack held rfl
    have h_attempt := attemptUnderLocks_betweenLocks usage reservationId lifetime
      client.bucketKeys stack
    apply (BetweenLocks.inOrder h_attempt).attempt_bind
    rintro attempted held ⟨rfl, -⟩
    apply (releaseLocks_follows stack stack.toFinset).attempt_bind
    rintro released held rfl
    rw [Finset.sdiff_self]
    cases attempted with
    | ok attempt =>
      cases released with
      | ok _ => exact finishAttempt_inOrder usage reservationId recovering h_keys attempt _
      | error e => exact finishAttempt_inOrder usage reservationId recovering h_keys attempt _
    | error e =>
      cases released with
      | ok _ => exact InOrder.throw e
      | error e' => exact InOrder.throw e'
  · rintro e held rfl
    exact InOrder.throw e

theorem finishWait_inOrder (hasWaited : Bool) {result : CheckResult}
    (h_keys : AscendingKeys result.buckets) :
    InOrder ∅ (fun _ => True) (finishWait usage reservationId recovering hasWaited result) := by
  cases hasWaited with
  | true =>
    exact InOrder.settle (BetweenLocks.inOrder (invokeCallback_betweenLocks _))
      (fun _ _ => InOrder.pure trivial) fun e =>
        refundInterrupted_inOrder usage reservationId recovering h_keys e
  | false => exact InOrder.pure trivial

theorem awaitLoop_inOrder (deadline : Option ℚ) (attempts : ℕ) (hasWaited : Bool) :
    InOrder ∅ (fun _ => True)
      (awaitLoop usage reservationId lifetime recovering deadline attempts hasWaited) := by
  induction attempts generalizing hasWaited with
  | zero => exact InOrder.pure trivial
  | succ attempts ih =>
    have h_checked :=
      (checkAndConsumeCapacity_inOrder usage reservationId lifetime recovering).attempt
    refine InOrder.bind h_checked fun checked h_result => ?_
    cases checked with
    | error e =>
      dsimp only
      split
      · refine BetweenLocks.then (send_betweenLocks rfl) fun now => ?_
        split
        · exact BetweenLocks.then (send_betweenLocks rfl) fun _ => ih hasWaited
        · exact InOrder.throw _
      · exact InOrder.throw e
    | ok result =>
      dsimp only
      split
      · exact finishWait_inOrder usage reservationId recovering hasWaited (h_result result rfl)
      · refine BetweenLocks.then (send_betweenLocks rfl) fun _ => ?_
        have h_wait : BetweenLocks (Program.when (!hasWaited) (waitStartCallback deadline)) :=
          .when (waitStartCallback_betweenLocks deadline)
        have h_waiting : InOrder ∅ (fun _ => True) (do
            let now ← send .monotonic
            if deadline.any (· ≤ now) then throw .capacityTimeout
            else do
              Program.when (!hasWaited) (waitStartCallback deadline)
              send .suspend
              awaitLoop usage reservationId lifetime recovering deadline attempts true) := by
          refine BetweenLocks.then (send_betweenLocks rfl) fun now => ?_
          split
          · exact InOrder.throw _
          · exact BetweenLocks.then h_wait fun _ =>
              BetweenLocks.then (send_betweenLocks rfl) fun _ => ih true
        split
        · exact h_waiting
        · exact InOrder.ensuring h_waiting (send_betweenLocks rfl)

theorem awaitForCapacity_inOrder (timeout : Option ℚ) (attempts : ℕ) :
    InOrder ∅ (fun _ => True)
      (awaitForCapacity usage timeout reservationId lifetime recovering attempts) := by
  refine BetweenLocks.then (send_betweenLocks rfl) fun client => ?_
  refine BetweenLocks.then (Issues.lift _) fun _ => BetweenLocks.then (Issues.lift _) fun _ => ?_
  refine BetweenLocks.then (send_betweenLocks rfl) fun start => ?_
  exact awaitLoop_inOrder usage reservationId lifetime recovering _ attempts false

theorem consumeCapacity_inOrder :
    InOrder ∅ (fun _ => True) (consumeCapacity usage reservationId lifetime) := by
  refine InOrder.bind client_inOrder fun client h_keys => ?_
  refine BetweenLocks.then (Issues.lift _) fun _ => ?_
  refine InOrder.then (withLocks_betweenLocks h_keys fun stack =>
    consumeUnderLocks_betweenLocks usage reservationId lifetime client.bucketKeys stack)
    fun result => ?_
  split
  · exact InOrder.pure trivial
  · exact InOrder.pure trivial
  · exact BetweenLocks.then (consumptionCallbacks_betweenLocks _) fun _ => InOrder.pure trivial

theorem refundCapacityForBuckets_inOrder (refund : RefundRequest) :
    InOrder ∅ (fun _ => True) (refundCapacityForBuckets refund) := by
  refine InOrder.bind client_inOrder fun client h_keys => ?_
  refine BetweenLocks.then (Issues.lift _) fun _ => BetweenLocks.then (Issues.lift _) fun marker => ?_
  split
  · split
    · exact InOrder.pure trivial
    · exact BetweenLocks.then (send_betweenLocks rfl) fun _ =>
        BetweenLocks.inOrder (commitRefund_betweenLocks _ _ _ _ _)
  · refine InOrder.then (withLocks_betweenLocks h_keys fun stack =>
      refundUnderLocks_betweenLocks refund _ marker client.bucketKeys stack) fun result => ?_
    split
    · exact InOrder.pure trivial
    · exact BetweenLocks.then (send_betweenLocks rfl) fun _ =>
        BetweenLocks.then (freshStartBucketsCallback_betweenLocks _) fun _ =>
          BetweenLocks.inOrder (invokeCallback_betweenLocks _)

theorem setMaxCapacity_inOrder (id : BucketId) (value : ℚ) :
    InOrder ∅ (fun _ => True) (setMaxCapacity id value) := by
  refine InOrder.bind client_inOrder fun client h_keys => ?_
  split
  · exact InOrder.throw _
  · refine InOrder.then (withLocks_betweenLocks h_keys fun stack => ?_)
      fun _ => BetweenLocks.inOrder (send_betweenLocks rfl)
    exact (extendLocks_betweenLocks stack).bind fun _ => (Issues.lift _).bind fun _ =>
      (snapshotBucketState_betweenLocks _ _).bind fun _ => bucketSetMaxCapacity_betweenLocks _ _

theorem applyConfiguredMaxCapacity_inOrder (id : BucketId) (value : ℚ) :
    InOrder ∅ (fun _ => True) (applyConfiguredMaxCapacity id value) := by
  refine InOrder.bind client_inOrder fun client h_keys => ?_
  split
  · exact InOrder.throw _
  · refine InOrder.then (withLocks_betweenLocks h_keys fun stack => ?_)
      fun _ => BetweenLocks.inOrder (send_betweenLocks rfl)
    exact (extendLocks_betweenLocks stack).bind fun _ => (Issues.lift _).bind fun _ =>
      (snapshotBucketState_betweenLocks _ _).bind fun _ =>
        (clearMaxCapacityOverride_betweenLocks _ _).bind fun _ => send_betweenLocks rfl

/-- Only the buckets of the new backend are installed, and these are in order. -/
theorem prepareReconfiguredBackend_inOrder {newBackend : RedisClient}
    (h_new : newBackend.Ascending) (quotas : List (BucketId × MaxCapacity)) :
    InOrder ∅ (fun _ => True) (prepareReconfiguredBackend newBackend quotas) := by
  refine BetweenLocks.then (send_betweenLocks rfl) fun current => ?_
  refine InOrder.then (withLocks_inOrder (combinedBucketSnapshot_ascending _) fun stack => ?_)
    fun _ => BetweenLocks.inOrder (send_betweenLocks rfl)
  refine BetweenLocks.then (Issues.lift _) fun targets => ?_
  refine BetweenLocks.then (prepareSnapshots_betweenLocks _ _ _ _) fun plans => ?_
  have h_plans : InOrder stack.toFinset (fun client => client.bucketKeys = newBackend.bucketKeys)
      (commitPlans stack newBackend plans) :=
    BetweenLocks.inOrder_of_emits (commitPlans_betweenLocks stack newBackend plans)
      (commitPlans_emits rfl stack plans)
  refine InOrder.bind h_plans fun client h_client => ?_
  refine BetweenLocks.then (extendLocks_betweenLocks stack) fun _ => ?_
  refine BetweenLocks.then (send_betweenLocks rfl) fun current' => ?_
  split
  · exact InOrder.throw _
  · refine ⟨?_, fun answer held' h_after => ?_⟩
    · show AscendingKeys client.bucketKeys
      rw [h_client]
      exact h_new
    · exact ⟨h_after.1, fun _ _ => trivial⟩

end Operations

end RedisBackend

end TokenThrottle
