/-
  TokenThrottle.Redis.Reservations

  The reservations of any number of workers on one Redis server, with a book of every
  consumption under a reservation id and of its credits.

  * A command whose answer does not come may reach the server all the same, at any later
    time and any number of times; a worker may stop at any command.
  * Every key may run out at any time: locks, bucket state, overrides, markers, tombstones.
  * Each consumption is credited at most once, and no credit is without its consumption; a
    worker whose operation returns can rely on what the book says of its reservation.
-/
import TokenThrottle.Redis.Markers

namespace TokenThrottle

open Theory (Program Run Steps exists_run_of_exec)
open Theory.Program
open Theory.Redemption

/-! ## Keys that run out -/

/-- A key that Redis removes at the end of its time. -/
inductive Expiry
  | lock (key : BucketKey)
  | lastChecked (key : BucketKey)
  | capacity (key : BucketKey)
  | maxCapacityOverride (key : BucketKey)
  | overrideExpiry (key : BucketKey)
  | acquired (key : ReservationKey)
  | refundDedup (key : ReservationKey)

namespace RedisServer

def expire (server : RedisServer) : Expiry → RedisServer
  | .lock key => server.setLock key none
  | .lastChecked key =>
    { server with
      state := Function.update server.state key { server.state key with lastChecked := none } }
  | .capacity key =>
    { server with
      state := Function.update server.state key { server.state key with capacity := none } }
  | .maxCapacityOverride key => server.putOverride key none (server.overrideExpiry key)
  | .overrideExpiry key => server.putOverride key (server.maxCapacityOverride key) none
  | .acquired key => server.setMarker key none
  | .refundDedup key => server.setTombstone key none

end RedisServer

/-- A marker that runs out is noted in the book. -/
def Expiry.entry (server : RedisServer) : Expiry → ReservationEntry
  | .acquired key => if (server.acquired key).isSome then .expired key else .nothing
  | _ => .nothing

theorem expire_move (server : RedisServer) (expiry : Expiry) :
    Move server.desk (expiry.entry server) (server.expire expiry).desk := by
  cases expiry with
  | acquired key =>
    have h_desk : (server.setMarker key none).desk =
        ⟨Function.update server.desk.live key none, server.desk.stub⟩ := rfl
    dsimp only [Expiry.entry, RedisServer.expire]
    rw [h_desk]
    cases h_live : server.acquired key with
    | some marker => exact .expireTicket h_live
    | none =>
      have h_same : Function.update server.desk.live key none = server.desk.live := by
        rw [Function.update_eq_self_iff]
        exact h_live.symm
      rw [h_same]
      exact .idle
  | refundDedup key =>
    dsimp only [RedisServer.expire]
    rw [setTombstone_desk]
    exact .expireStub key
  | _ => exact .idle

/-! ## Workers -/

/-- A server, the backend of each process, and where each worker stands: the operation it
    started last, and what is left of it.  `unanswered` are the commands that are still on
    their way, `book` says which reservations were consumed and credited. -/
structure ReservationWorkers (W P : Type) where
  server : RedisServer
  client : P → RedisClient
  operation : W → Option RedisOperation
  program : W → RedisProgram Bool
  unanswered : List (W × Command)
  book : ReservationBook

inductive ReservationEvent (W : Type)
  | start (w : W) (operation : RedisOperation)
  | serve (w : W) (delivery : Delivery) (currentTime monotonic : ℚ)
  /-- The worker's process is killed. -/
  | crash (w : W)
  /-- A command without an answer reaches the server. -/
  | arrive (n : ℕ) (currentTime : ℚ)
  | expire (expiry : Expiry)

/-- A limiter starts its operations with recovery for failed cleanups. -/
def ReservationEvent.recovers {W : Type} : ReservationEvent W → Bool
  | .start _ operation => operation.recovers
  | _ => true

namespace ReservationWorkers

variable {W P : Type} {process : W → P}

/-- Whether the server executes a command that is served. -/
def executes : Delivery → Bool
  | .refused _ => false
  | _ => true

/-- Whether the worker learns that its command was executed. -/
def answers : Delivery → Bool
  | .answered => true
  | _ => false

/-- The command that a worker waits for. -/
def pending (s : ReservationWorkers W P) (w : W) : List (W × Command) :=
  match s.program w with
  | .done _ => []
  | .call command _ => [(w, command)]

/-- The server after a command that arrives without its worker. -/
def received (process : W → P) (s : ReservationWorkers W P) (sent : W × Command)
    (currentTime : ℚ) : RedisServer :=
  (Session.execute ⟨id, currentTime, 0, .answered⟩ ⟨s.server, s.client (process sent.1)⟩
    sent.2).2.server

def step [DecidableEq W] [DecidableEq P] (process : W → P) (s : ReservationWorkers W P) :
    ReservationEvent W → Option (ReservationWorkers W P)
  | .start w operation =>
    match s.program w with
    | .done _ => some
        { s with
          operation := Function.update s.operation w (some operation)
          program := Function.update s.program w operation.outcome }
    | .call _ _ => none
  | .serve w delivery currentTime monotonic =>
    match s.program w with
    | .done _ => none
    | .call command next =>
      let served := Session.serve ⟨id, currentTime, monotonic, delivery⟩ command
        ⟨s.server, s.client (process w)⟩
      some
        { s with
          server := served.2.server
          client := Function.update s.client (process w) served.2.client
          program := Function.update s.program w (next served.1)
          unanswered := if answers delivery then s.unanswered else (w, command) :: s.unanswered
          book := if executes delivery then s.book.enter (command.entry s.server) else s.book }
  -- the command that was on its way may arrive yet
  | .crash w => some
      { s with
        program := Function.update s.program w (throw .interrupted)
        unanswered := s.pending w ++ s.unanswered }
  -- the command stays on its way, so that it may arrive again
  | .arrive n currentTime =>
    s.unanswered[n]?.map fun sent =>
      { s with
        server := s.received process sent currentTime
        book := s.book.enter (sent.2.entry s.server) }
  | .expire expiry => some
      { s with
        server := s.server.expire expiry
        book := s.book.enter (expiry.entry s.server) }

/-- The worker's operation has come to its end. -/
def hasEnded (s : ReservationWorkers W P) (w : W) : Bool :=
  match s.program w with
  | .done (.ok ended) => ended
  | _ => false

/-- No reservation was ever made, and no operation is under way. -/
structure Fresh (s : ReservationWorkers W P) : Prop where
  unmarked : ∀ key, s.server.acquired key = none
  uncredited : ∀ key, s.server.refundDedup key = none
  idle : ∀ w, s.operation w = none ∧ ∃ result, s.program w = .done result
  quiet : s.unanswered = []
  book : s.book = .empty

/-- The worker goes on by the rules of the desk, all it was told is in the book, and at its
    end it was told how its operation went. -/
def Honest (process : W → P) (s : ReservationWorkers W P) (w : W) : Prop :=
  ∃ told, (∀ fact ∈ told, fact.Holds s.book) ∧
    (s.program w).Follows (atDesk (s.client (process w)).keyPrefix)
      (fun result told' => result = .ok true → ∀ operation ∈ s.operation w,
        operation.ToldOf (s.client (process w)).keyPrefix told') told

structure Sound (process : W → P) (s : ReservationWorkers W P) : Prop where
  balanced : Balanced s.server.desk s.book
  unanswered : ∀ sent ∈ s.unanswered, sent.2.keepsMarkers = true
  honest : ∀ w, s.Honest process w

theorem Fresh.sound {s : ReservationWorkers W P} (h_fresh : s.Fresh) : s.Sound process where
  balanced := by
    have h_desk : s.server.desk = ⟨fun _ => none, fun _ => false⟩ := by
      refine Desk.ext (funext h_fresh.unmarked) (funext fun key => ?_)
      show (s.server.refundDedup key).isSome = false
      rw [h_fresh.uncredited key]
      rfl
    rw [h_desk, h_fresh.book]
    exact Balanced.empty
  unanswered sent h_mem := by
    rw [h_fresh.quiet] at h_mem
    exact absurd h_mem List.not_mem_nil
  honest w := by
    obtain ⟨h_none, result, h_done⟩ := h_fresh.idle w
    refine ⟨[], fun _ h_mem => absurd h_mem List.not_mem_nil, ?_⟩
    rw [h_done]
    intro _ operation h_operation
    rw [h_none] at h_operation
    cases h_operation

/-! ### Steps -/

variable {s s' : ReservationWorkers W P} {w : W}

/-- What is entered later takes nothing back, so that a worker who does nothing stays honest. -/
theorem Honest.enter {t : ReservationWorkers W P} (h_honest : s.Honest process w)
    (entry : ReservationEntry) (h_program : t.program w = s.program w)
    (h_operation : t.operation w = s.operation w)
    (h_under : (t.client (process w)).keyPrefix = (s.client (process w)).keyPrefix)
    (h_book : t.book = s.book.enter entry) : t.Honest process w := by
  obtain ⟨told, h_told, h_follows⟩ := h_honest
  refine ⟨told, fun fact h_mem => ?_, ?_⟩
  · rw [h_book]
    exact (h_told fact h_mem).enter entry
  · rw [h_program, h_operation, h_under]
    exact h_follows

/-- A worker's client stays one of its key prefix. -/
theorem execute_keyPrefix {turn : Turn} {session : Session} {command : Command}
    {keyPrefix : String} (h_under : session.client.keyPrefix = keyPrefix)
    (h_installs : command.installsUnder keyPrefix) :
    (session.execute turn command).2.client.keyPrefix = keyPrefix := by
  cases command with
  | installReconfiguredState client => exact h_installs
  | acquireLock key token =>
    dsimp only [Session.execute]
    split <;> exact h_under
  | releaseLock key token =>
    dsimp only [Session.execute]
    split <;> exact h_under
  | _ => exact h_under

theorem execute_reads {turn : Turn} {session : Session} {command : Command} {keyPrefix : String}
    (h_under : session.client.keyPrefix = keyPrefix) :
    ReadsUnder keyPrefix command (.ok (session.execute turn command).1) := by
  cases command with
  | client => exact h_under
  | _ => trivial

theorem reads_error {command : Command} {keyPrefix : String} (e : BackendError) :
    ReadsUnder keyPrefix command (.error e) := by
  cases command <;> trivial

theorem tells_error (command : Command) (e : BackendError) : command.tells (.error e) = [] := by
  cases command <;> rfl

/-- What a delivery makes of a command: its answer and what it tells, the session and the book. -/
structure Delivered (command : Command) (session : Session) (book : ReservationBook)
    (keyPrefix : String) (answer : Except BackendError command.Response) (session' : Session)
    (book' : ReservationBook) : Prop where
  reads : ReadsUnder keyPrefix command answer
  keyPrefix : session'.client.keyPrefix = keyPrefix
  balanced : Balanced session'.server.desk book'
  tells : ∀ fact ∈ command.tells answer, fact.Holds book'
  keeps : ∃ entry, book' = book.enter entry

theorem serve_delivered {delivery : Delivery} {currentTime monotonic : ℚ} {session : Session}
    {command : Command} {book : ReservationBook} {keyPrefix : String}
    (h_bal : Balanced session.server.desk book) (h_under : session.client.keyPrefix = keyPrefix)
    (h_keeps : command.keepsMarkers = true) (h_installs : command.installsUnder keyPrefix) :
    Delivered command session book keyPrefix
      (Session.serve ⟨id, currentTime, monotonic, delivery⟩ command session).1
      (Session.serve ⟨id, currentTime, monotonic, delivery⟩ command session).2
      (if executes delivery then book.enter (command.entry session.server) else book) := by
  -- only an answer tells something; only a refused command leaves the server as it was
  cases delivery with
  | answered =>
    exact ⟨execute_reads h_under, execute_keyPrefix h_under h_installs,
      h_bal.move (execute_move h_keeps), execute_tells h_bal, _, rfl⟩
  | lost e =>
    refine ⟨reads_error e, execute_keyPrefix h_under h_installs,
      h_bal.move (execute_move h_keeps), fun fact h_mem => ?_, _, rfl⟩
    exact absurd (tells_error command e ▸ h_mem) List.not_mem_nil
  | refused e =>
    refine ⟨reads_error e, h_under, h_bal, fun fact h_mem => ?_, .nothing, rfl⟩
    exact absurd (tells_error command e ▸ h_mem) List.not_mem_nil

variable [DecidableEq W] [DecidableEq P]

theorem start_sound {operation : RedisOperation} (h_sound : s.Sound process)
    (h_recovers : operation.recovers = true)
    (h_step : Steps (step process) s (.start w operation) s') : s'.Sound process := by
  unfold Steps step at h_step
  dsimp only at h_step
  split at h_step
  · cases h_step
    refine ⟨h_sound.balanced, h_sound.unanswered, fun w' => ?_⟩
    by_cases h_same : w' = w
    -- what it was told before is of no use to a new operation
    · rw [h_same]
      refine ⟨[], fun _ h_mem => absurd h_mem List.not_mem_nil, ?_⟩
      dsimp only
      rw [Function.update_self, Function.update_self]
      apply Follows.mono (RedisOperation.outcome_tells h_recovers)
      rintro result told' ⟨_, h_told⟩ h_ended started h_started
      cases h_started
      exact h_told true h_ended rfl
    · exact (h_sound.honest w').enter .nothing (Function.update_of_ne h_same ..)
        (Function.update_of_ne h_same ..) rfl rfl
  · cases h_step

theorem serve_sound {delivery : Delivery} {currentTime monotonic : ℚ} (h_sound : s.Sound process)
    (h_step : Steps (step process) s (.serve w delivery currentTime monotonic) s') :
    s'.Sound process := by
  unfold Steps step at h_step
  dsimp only at h_step
  split at h_step
  · cases h_step
  rename_i command next h_call
  cases h_step
  obtain ⟨told, h_told, h_follows⟩ := h_sound.honest w
  rw [h_call] at h_follows
  obtain ⟨⟨h_keeps, h_installs⟩, h_next⟩ := h_follows
  have h_served := @serve_delivered delivery currentTime monotonic
    ⟨s.server, s.client (process w)⟩ command s.book _ h_sound.balanced rfl h_keeps h_installs
  obtain ⟨entry, h_book⟩ := h_served.keeps
  -- the client of the worker's process may be another one, with the same prefix
  have h_under : ∀ w', (Function.update s.client (process w)
      (Session.serve ⟨id, currentTime, monotonic, delivery⟩ command
        ⟨s.server, s.client (process w)⟩).2.client (process w')).keyPrefix =
          (s.client (process w')).keyPrefix := by
    intro w'
    by_cases h_same : process w' = process w
    · rw [h_same, Function.update_self]
      exact h_served.keyPrefix
    · rw [Function.update_of_ne h_same]
  refine ⟨h_served.balanced, fun sent h_mem => ?_, fun w' => ?_⟩
  · dsimp only at h_mem
    split at h_mem
    · exact h_sound.unanswered sent h_mem
    · rcases List.mem_cons.mp h_mem with rfl | h_mem
      · exact h_keeps
      · exact h_sound.unanswered sent h_mem
  · by_cases h_same : w' = w
    · rw [h_same]
      refine ⟨command.tells (Session.serve ⟨id, currentTime, monotonic, delivery⟩ command
        ⟨s.server, s.client (process w)⟩).1 ++ told, fun fact h_mem => ?_, ?_⟩
      · rcases List.mem_append.mp h_mem with h_mem | h_mem
        · exact h_served.tells fact h_mem
        · dsimp only
          rw [h_book]
          exact (h_told fact h_mem).enter entry
      · dsimp only
        rw [h_under w, Function.update_self]
        exact h_next _ _ ⟨h_served.reads, rfl⟩
    · exact (h_sound.honest w').enter entry (Function.update_of_ne h_same ..) rfl (h_under w')
        h_book

theorem crash_sound (h_sound : s.Sound process)
    (h_step : Steps (step process) s (.crash w) s') : s'.Sound process := by
  cases h_step
  refine ⟨h_sound.balanced, fun sent h_mem => ?_, fun w' => ?_⟩
  · rcases List.mem_append.mp h_mem with h_mem | h_mem
    -- the command it was about to send is one its rules allow
    · obtain ⟨told, _, h_follows⟩ := h_sound.honest w
      unfold pending at h_mem
      split at h_mem
      · exact absurd h_mem List.not_mem_nil
      · rename_i command next h_call
        obtain rfl := List.mem_singleton.mp h_mem
        rw [h_call] at h_follows
        exact h_follows.1.1
    · exact h_sound.unanswered sent h_mem
  · by_cases h_same : w' = w
    · rw [h_same]
      refine ⟨[], fun _ h_mem => absurd h_mem List.not_mem_nil, ?_⟩
      dsimp only
      rw [Function.update_self]
      exact Follows.throw fun h_ok => nomatch h_ok
    · exact (h_sound.honest w').enter .nothing (Function.update_of_ne h_same ..) rfl rfl
        rfl

theorem arrive_sound {n : ℕ} {currentTime : ℚ} (h_sound : s.Sound process)
    (h_step : Steps (step process) s (.arrive n currentTime) s') : s'.Sound process := by
  obtain ⟨sent, h_sent, rfl⟩ := Option.map_eq_some_iff.mp h_step
  have h_keeps := h_sound.unanswered sent (List.mem_of_getElem? h_sent)
  have h_move := @execute_move ⟨id, currentTime, 0, .answered⟩
    ⟨s.server, s.client (process sent.1)⟩ sent.2 h_keeps
  refine ⟨h_sound.balanced.move h_move, h_sound.unanswered, fun w' => ?_⟩
  exact (h_sound.honest w').enter _ rfl rfl rfl rfl

theorem expire_sound {expiry : Expiry} (h_sound : s.Sound process)
    (h_step : Steps (step process) s (.expire expiry) s') : s'.Sound process := by
  cases h_step
  refine ⟨h_sound.balanced.move (expire_move s.server expiry), h_sound.unanswered, fun w' => ?_⟩
  exact (h_sound.honest w').enter _ rfl rfl rfl rfl

theorem step_sound {event : ReservationEvent W} (h_sound : s.Sound process)
    (h_recovers : event.recovers = true) (h_step : Steps (step process) s event s') :
    s'.Sound process := by
  cases event with
  | start w operation => exact start_sound h_sound h_recovers h_step
  | serve w delivery currentTime monotonic => exact serve_sound h_sound h_step
  | crash w => exact crash_sound h_sound h_step
  | arrive n currentTime => exact arrive_sound h_sound h_step
  | expire expiry => exact expire_sound h_sound h_step

theorem run_sound {s₀ : ReservationWorkers W P} {events : List (ReservationEvent W)}
    (h_sound : s₀.Sound process) (h_recovers : ∀ event ∈ events, event.recovers = true)
    (h_run : Run (Steps (step process)) s₀ events s) : s.Sound process := by
  induction h_run with
  | nil => exact h_sound
  | cons h_step _ ih =>
    obtain ⟨h_event, h_rest⟩ := List.forall_mem_cons.mp h_recovers
    exact ih (step_sound h_sound h_event h_step) h_rest

/-! ### What the book says -/

/-- Each consumption under a reservation id is credited at most once, and not once its marker
    has run out; no credit is for anything else than the consumption whose marker is there; a
    consumption that is neither credited nor run out can be credited still; and a marker and a
    tombstone are never there at once. -/
theorem credited_at_most_once {s₀ : ReservationWorkers W P} {events : List (ReservationEvent W)}
    (h_fresh : s₀.Fresh) (h_recovers : ∀ event ∈ events, event.recovers = true)
    (h_run : Run (Steps (step process)) s₀ events s) :
    s.book.stray = 0 ∧
      (∀ key, ∀ record ∈ s.book.history key,
        record.redeemed ≤ (if record.expired then 0 else 1) ∧
          (record.redeemed = 0 → record.expired = false →
            s.server.acquired key = some record.ticket)) ∧
      ∀ key, s.server.acquired key = none ∨ s.server.refundDedup key = none := by
  have h_sound : s.Sound process := run_sound h_fresh.sound h_recovers h_run
  have h_bal := h_sound.balanced
  refine ⟨h_bal.noStray, fun key record h_mem => ⟨?_, fun h_redeemed h_expired => ?_⟩,
    fun key => ?_⟩
  · exact (h_bal.accounted key).redeemed_le h_mem
  · exact (h_bal.accounted key).live_of_open h_mem h_redeemed h_expired
  · apply (h_bal.exclusive key).imp_right
    intro h_stub
    exact Option.isNone_iff_eq_none.mp (Option.isSome_eq_false_iff.mp h_stub)

end ReservationWorkers

/-- What the book says of the reservation of an operation: it was consumed with this usage;
    it was credited, once. -/
def RedisOperation.OnBooks (keyPrefix : String) (book : ReservationBook) : RedisOperation → Prop
  | .awaitForCapacity usage _ reservationId _ _ _ | .consumeCapacity usage reservationId _ =>
    ∀ rid ∈ reservationId, ∃ record ∈ book.history ⟨keyPrefix, rid⟩,
      record.ticket.reservationId = rid ∧ record.ticket.usage = usage
  | .refundCapacityForBuckets refund =>
    ∀ rid ∈ refund.reservationId, ∃ record ∈ book.history ⟨keyPrefix, rid⟩, record.redeemed = 1
  | _ => True

/-- The reservation that an operation is to credit. -/
def RedisOperation.creditedId : RedisOperation → Option ReservationId
  | .refundCapacityForBuckets refund => refund.reservationId
  | _ => none

theorem onBooks_of_toldReserved {keyPrefix : String} {reservationId : Option ReservationId}
    {usage : FrozenUsage} {told : List Fact} {book : ReservationBook}
    (h_holds : ∀ fact ∈ told, fact.Holds book)
    (h_told : ToldReserved keyPrefix reservationId usage told) :
    ∀ rid ∈ reservationId, ∃ record ∈ book.history ⟨keyPrefix, rid⟩,
      record.ticket.reservationId = rid ∧ record.ticket.usage = usage := by
  intro rid h_rid
  obtain ⟨marker, h_mem, h_id, h_usage⟩ := h_told rid h_rid
  obtain ⟨record, h_record, rfl⟩ := h_holds _ h_mem
  exact ⟨record, h_record, h_id, h_usage⟩

namespace ReservationWorkers

variable {W P : Type} {process : W → P} [DecidableEq W] [DecidableEq P]
  {s₀ s : ReservationWorkers W P}

/-- An operation that has come to its end finds its reservation in the book: a consumption is
    consumed, a refund is credited exactly once. -/
theorem ended_onBooks {events : List (ReservationEvent W)} {w : W} {operation : RedisOperation}
    (h_fresh : s₀.Fresh) (h_recovers : ∀ event ∈ events, event.recovers = true)
    (h_run : Run (Steps (step process)) s₀ events s) (h_operation : operation ∈ s.operation w)
    (h_ended : s.hasEnded w = true) :
    operation.OnBooks (s.client (process w)).keyPrefix s.book := by
  have h_sound : s.Sound process := run_sound h_fresh.sound h_recovers h_run
  obtain ⟨told, h_holds, h_follows⟩ := h_sound.honest w
  have h_done : s.program w = .done (.ok true) := by
    unfold hasEnded at h_ended
    split at h_ended
    · rename_i ended h_done
      rw [h_done, h_ended]
    · cases h_ended
  rw [h_done] at h_follows
  have h_told := h_follows rfl operation h_operation
  cases operation with
  | awaitForCapacity usage timeout reservationId lifetime recovering attempts =>
    exact onBooks_of_toldReserved h_holds h_told
  | consumeCapacity usage reservationId lifetime => exact onBooks_of_toldReserved h_holds h_told
  | refundCapacityForBuckets refund =>
    intro rid h_rid
    obtain ⟨record, h_mem, h_redeemed⟩ := h_holds _ (h_told rid h_rid)
    have h_once := (h_sound.balanced.accounted _).redeemed_le h_mem
    refine ⟨record, h_mem, Nat.le_antisymm (h_once.trans ?_) h_redeemed⟩
    split <;> omega
  | setMaxCapacity | applyConfiguredMaxCapacity | syncChangedMetricSet => trivial

/-! ### Answers that are lost -/

/-- Two processes that limit tokens, of which 10 are left. -/
def twoProcesses : ReservationWorkers Bool Bool where
  server := RedisServer.empty.setState ⟨"limits", "m", tokensPerMinute⟩ 10 0
  client _ := exampleBuilder.built tokensOnly
  operation _ := none
  program _ := pure false
  unanswered := []
  book := .empty

theorem twoProcesses_fresh : twoProcesses.Fresh :=
  ⟨fun _ => rfl, fun _ => rfl, fun _ => ⟨rfl, .ok false, rfl⟩, rfl, rfl⟩

/-- Of 4 reserved tokens, 1 was used. -/
def unusedTokens : RefundRequest where
  reservedUsage := tokens 4
  actualUsage := tokens 1
  bucketIds := none
  reservationId := some "r"
  reservationModelFamily := some "m"
  reservationBucketIds := some {tokensPerMinute}
  reservationReservedUsage := some (tokens 4)

/-- The worker's next commands are answered, and the answer to the script after them is lost. -/
def losesAnswer (w : Bool) (before after : ℕ) : List (ReservationEvent Bool) :=
  List.replicate before (.serve w .answered 0 0) ++ [.serve w (.lost .redisError) 0 0] ++
    List.replicate after (.serve w .answered 0 0)

/-- One worker consumes, the other one refunds; both scripts lose their answer, and both
    arrive once more afterwards. -/
def lostAnswers : List (ReservationEvent Bool) :=
  [.start true (.consumeCapacity (tokens 4) (some "r") (some 60))] ++ losesAnswer true 13 5 ++
    [.start false (.refundCapacityForBuckets unusedTokens)] ++ losesAnswer false 14 7 ++
    [.arrive 0 0, .arrive 1 0]

theorem lostAnswers_recovers : ∀ event ∈ lostAnswers, event.recovers = true := by
  have h_loses : ∀ w before after, ∀ event ∈ losesAnswer w before after,
      event.recovers = true := by
    intro w before after event h_mem
    rcases List.mem_append.mp h_mem with h_mem | h_mem
    · rcases List.mem_append.mp h_mem with h_mem | h_mem
      · rw [List.eq_of_mem_replicate h_mem]
        rfl
      · rw [List.mem_singleton.mp h_mem]
        rfl
    · rw [List.eq_of_mem_replicate h_mem]
      rfl
  intro event h_mem
  simp only [lostAnswers, List.mem_append] at h_mem
  rcases h_mem with (((h_mem | h_mem) | h_mem) | h_mem) | h_mem
  · rw [List.mem_singleton.mp h_mem]
    rfl
  · exact h_loses _ _ _ event h_mem
  · rw [List.mem_singleton.mp h_mem]
    rfl
  · exact h_loses _ _ _ event h_mem
  · rcases List.mem_pair.mp h_mem with rfl | rfl <;> rfl

/-- The one consumption is credited once. -/
theorem credited_at_most_once_lostAnswers :
    ∃ s, Run (Steps (step id)) twoProcesses lostAnswers s ∧
      (s.book.history ⟨"limits", "r"⟩).map Record.redeemed = [1] ∧ s.book.stray = 0 := by
  obtain ⟨s, h_run, h_once⟩ : ∃ s, Run (Steps (step id)) twoProcesses lostAnswers s ∧
      (s.book.history ⟨"limits", "r"⟩).map Record.redeemed = [1] :=
    exists_run_of_exec (by decide +kernel)
  exact ⟨s, h_run, h_once,
    (credited_at_most_once twoProcesses_fresh lostAnswers_recovers h_run).1⟩

/-- The worker whose refund had no answer ends with its credit in the book. -/
theorem ended_onBooks_lostAnswers :
    ∃ s, Run (Steps (step id)) twoProcesses lostAnswers s ∧ s.hasEnded false = true ∧
      ∃ record ∈ s.book.history ⟨(s.client false).keyPrefix, "r"⟩, record.redeemed = 1 := by
  obtain ⟨s, h_run, h_ended, h_refund⟩ : ∃ s,
      Run (Steps (step id)) twoProcesses lostAnswers s ∧ s.hasEnded false = true ∧
        (s.operation false).bind RedisOperation.creditedId = some "r" :=
    exists_run_of_exec (by decide +kernel)
  obtain ⟨operation, h_operation, h_credited⟩ := Option.bind_eq_some_iff.mp h_refund
  have h_books := ended_onBooks twoProcesses_fresh lostAnswers_recovers h_run h_operation h_ended
  refine ⟨s, h_run, h_ended, ?_⟩
  cases operation with
  | refundCapacityForBuckets refund => exact h_books "r" h_credited
  | _ => cases h_credited

end ReservationWorkers

end TokenThrottle
