import Switchboard.PowerOfTwo
import Switchboard.Settings.Basic
import Switchboard.SocketAddress
import Switchboard.Text.Quoted

/-!
# Problems of settings

Settings of the right types may still make no sense. `Settings.problems` lists everything that is
wrong with them, section by section, and settings without problems are valid.
-/

namespace Switchboard

/-- Something wrong with settings. -/
inductive Problem where
  /-- The text under a key is no socket address. -/
  | invalidAddress (key value : String)
  | capacityNotPowerOfTwo (capacity : Nat)
  /-- The number under a key is zero. -/
  | zero (key : String)
  | watermarks (min max : Nat)
  | backoff (base max : Nat)
  | noCanaries
  | watchWithoutFile
  deriving DecidableEq, Repr

namespace Problem

/-- A problem in words. -/
def message : Problem → String
  | invalidAddress key value => key ++ ": invalid socket address " ++ Quoted.quote value
  | capacityNotPowerOfTwo n => "queue.capacity must be a power of two, got " ++ toString n
  | zero key => key ++ " must be greater than zero"
  | watermarks min max =>
    "pool.min_staged (" ++ toString min ++ ") exceeds pool.max_staged (" ++ toString max ++ ")"
  | backoff base max =>
    "polling.base_ms (" ++ toString base ++ ") exceeds polling.max_ms (" ++ toString max ++ ")"
  | noCanaries => "access_control.canaries must not be empty"
  | watchWithoutFile => "access_control.watch_file requires access_control.allow_file"

/-- Several problems in words. -/
def summary (ps : List Problem) : String :=
  "Validation failed: " ++ ", ".intercalate (ps.map message)

end Problem

/-- A problem, if a condition says so. -/
def problemIf (wrong : Bool) (p : Problem) : List Problem := if wrong then [p] else []

namespace ListenerSettings

/-- The problems of the listening side. -/
def problems (s : ListenerSettings) : List Problem :=
  problemIf (SocketAddress.parse? s.bindAddress).isNone
      (.invalidAddress "listener.bind_address" s.bindAddress) ++
    problemIf (s.acceptTimeoutMs == 0) (.zero "listener.accept_timeout_ms") ++
    problemIf (s.maxConnections == 0) (.zero "listener.max_connections")

end ListenerSettings

namespace QueueSettings

/-- The problems of the queue. -/
def problems (s : QueueSettings) : List Problem :=
  problemIf (!isPowerOfTwo s.capacity.toNat) (.capacityNotPowerOfTwo s.capacity.toNat) ++
    problemIf (s.workerThreads == 0) (.zero "queue.worker_threads")

end QueueSettings

namespace PoolSettings

/-- The problems of the marks. -/
def problems (s : PoolSettings) : List Problem :=
  problemIf (s.maxStaged < s.minStaged) (.watermarks s.minStaged.toNat s.maxStaged.toNat)

end PoolSettings

namespace RoutingSettings

/-- The problems of the memo. -/
def problems (s : RoutingSettings) : List Problem :=
  problemIf (s.memoCapacity == 0) (.zero "routing.memo_capacity")

end RoutingSettings

namespace PollingSettings

/-- The problems of the polling times. -/
def problems (s : PollingSettings) : List Problem :=
  problemIf (s.baseMs == 0) (.zero "polling.base_ms") ++
    problemIf (s.maxMs < s.baseMs) (.backoff s.baseMs.toNat s.maxMs.toNat)

end PollingSettings

namespace AccessSettings

/-- The problems of the access control. -/
def problems (s : AccessSettings) : List Problem :=
  problemIf s.canaries.isEmpty .noCanaries ++
    problemIf (s.watchFile && s.allowFile.isNone) .watchWithoutFile

end AccessSettings

namespace ObservabilitySettings

/-- The problems of the reports; the address only counts if it is used. -/
def problems (s : ObservabilitySettings) : List Problem :=
  problemIf (s.metricsEnabled && (SocketAddress.parse? s.metricsAddress).isNone)
    (.invalidAddress "observability.metrics_address" s.metricsAddress)

end ObservabilitySettings

namespace Settings

/-- Everything that is wrong with settings. -/
def problems (s : Settings) : List Problem :=
  s.listener.problems ++ s.queue.problems ++ s.pool.problems ++ s.routing.problems ++
    s.polling.problems ++ s.access.problems ++ s.observability.problems

/-- Settings without problems. -/
def Valid (s : Settings) : Prop := s.problems = []

instance (s : Settings) : Decidable s.Valid := inferInstanceAs (Decidable (_ = _))

end Settings

end Switchboard
