/-!
# Settings

Everything about a server that can be configured, by section, with the values that hold where
nothing is said. Numbers are 64-bit words, as in the files they are read from.
-/

namespace Switchboard

/-- The listening side: the address, the times a read may take, and the bounds on connections and
requests. -/
structure ListenerSettings where
  bindAddress : String := "0.0.0.0:8080"
  secure : Bool := false
  acceptTimeoutMs : UInt64 := 250
  readTimeoutMs : UInt64 := 5000
  maxConnections : UInt64 := 10000
  maxRequestBytes : UInt64 := 65536
  deriving DecidableEq, Repr, Inhabited

/-- What the shutdown does with the requests under way. -/
inductive Drain where
  /-- They are dropped. -/
  | abandon
  /-- They are finished first. -/
  | complete
  deriving DecidableEq, Repr, Inhabited

/-- The event queue and the threads that work on it. -/
structure QueueSettings where
  capacity : UInt64 := 1024
  workerThreads : UInt64 := 4
  drain : Drain := .abandon
  deriving DecidableEq, Repr, Inhabited

/-- How many copies of a handler stand ready. -/
structure PoolSettings where
  minStaged : UInt64 := 2
  maxStaged : UInt64 := 8
  deriving DecidableEq, Repr, Inhabited

/-- How many derived routes are remembered. -/
structure RoutingSettings where
  memoCapacity : UInt64 := 1024
  deriving DecidableEq, Repr, Inhabited

/-- Who may send requests. -/
structure AccessSettings where
  allow : List String := ["127\\.0\\.0\\.1", "::1"]
  allowFile : Option String := none
  allowKey : String := "allow"
  ttlSecs : UInt64 := 300
  canaries : List String :=
    ["192.0.2.1", "198.51.100.23", "203.0.113.254", "8.8.8.8", "attacker.example.net"]
  reverseLookup : Bool := false
  caseSensitive : Bool := false
  watchFile : Bool := false
  deriving DecidableEq, Repr, Inhabited

/-- How a stage polls for a result. -/
structure PollingSettings where
  baseMs : UInt64 := 1
  maxMs : UInt64 := 100
  deriving DecidableEq, Repr, Inhabited

/-- The times that starting and stopping may take. -/
structure LifecycleSettings where
  warmUpMs : UInt64 := 0
  shutdownGraceMs : UInt64 := 5000
  deriving DecidableEq, Repr, Inhabited

/-- What the server reports about itself. -/
structure ObservabilitySettings where
  logLevel : String := "info"
  metricsEnabled : Bool := false
  metricsAddress : String := "0.0.0.0:9090"
  deriving DecidableEq, Repr, Inhabited

/-- The settings of a server. -/
structure Settings where
  listener : ListenerSettings := {}
  queue : QueueSettings := {}
  pool : PoolSettings := {}
  routing : RoutingSettings := {}
  access : AccessSettings := {}
  polling : PollingSettings := {}
  lifecycle : LifecycleSettings := {}
  observability : ObservabilitySettings := {}
  deriving DecidableEq, Repr, Inhabited

end Switchboard
