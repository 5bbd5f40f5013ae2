import TokenThrottle.Theory.Runs
import TokenThrottle.Theory.Meter
import TokenThrottle.Memory.Interleaving
import TokenThrottle.Memory.Commits
import TokenThrottle.Memory.Steps
import TokenThrottle.Persistence
import TokenThrottle.Sqlite.Rows
import TokenThrottle.Theory.Body
import TokenThrottle.Sqlite.Engine
import TokenThrottle.Sqlite.Steps
import TokenThrottle.Sqlite.Transactions
import TokenThrottle.Sqlite.Backend
import TokenThrottle.Sqlite.Simulation
import TokenThrottle.Sqlite.RefinesMemory
import TokenThrottle.Theory.Program
import TokenThrottle.Redis.Bucket
import TokenThrottle.Redis.Backend
import TokenThrottle.Redis.Discipline
import TokenThrottle.Redis.Operations
import TokenThrottle.Limiter.Config
import TokenThrottle.Limiter.Registry
import TokenThrottle.Limiter.RegistryBounds
import TokenThrottle.Limiter.RefundOnce
import TokenThrottle.Redis.Scripts
import TokenThrottle.Limiter.Acquire
import TokenThrottle.Limiter.AcquireStanding
import TokenThrottle.Limiter.CloseDrain
import TokenThrottle.Limiter.AcquireOutcome
import TokenThrottle.Limiter.Eviction
import TokenThrottle.Limiter.EvictionRouting
import TokenThrottle.Limiter.Rebuild
import TokenThrottle.Limiter.RebuildLimits
import TokenThrottle.Memory.Reconfigure
import TokenThrottle.Sqlite.Reconfigure
import TokenThrottle.Limiter.RebuildFailure
import TokenThrottle.Sqlite.RowSteps
import TokenThrottle.Sqlite.CallRows
import TokenThrottle.Sqlite.Fleet
import TokenThrottle.Sqlite.DebtRetention
import TokenThrottle.Sqlite.Snapshot
import TokenThrottle.Limiter.Projection
import TokenThrottle.Redis.ServerTime
import TokenThrottle.Backends.OverrideExpiry
import TokenThrottle.Backends.LimitChanges
import TokenThrottle.Limiter.SetMaxCapacity
import TokenThrottle.Limiter.Reserve
import TokenThrottle.Sqlite.Pruning
import TokenThrottle.Limiter.BackendLookup
import TokenThrottle.Limiter.StaleBackend
import TokenThrottle.Sqlite.LaterAttempt
import TokenThrottle.Redis.Alone
import TokenThrottle.Redis.LaterAttempt
import TokenThrottle.Backends.Waiting
import TokenThrottle.Redis.Keys
import TokenThrottle.Redis.KeyLayout
import TokenThrottle.Factories.TokenCounter
import TokenThrottle.Factories.UnsupportedContent
import TokenThrottle.Callbacks.Cancellation
import TokenThrottle.Redis.LockBodies
import TokenThrottle.Redis.LockOrder
import TokenThrottle.Theory.WaitGraph
import TokenThrottle.Limiter.RedisWorkers
import TokenThrottle.Redis.Contention
import TokenThrottle.Redis.Leases
import TokenThrottle.Sqlite.LossDetection
import TokenThrottle.Redis.Simulation
import TokenThrottle.Redis.CallsAgree
import TokenThrottle.Redis.RefinesMemory
import TokenThrottle.Backends.Agreement
import TokenThrottle.Backends.RateBound
import TokenThrottle.Backends.Debt
import TokenThrottle.Sqlite.Tasks
import TokenThrottle.Sqlite.TaskLedger
import TokenThrottle.Redis.Reservations
