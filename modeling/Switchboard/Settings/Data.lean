import Switchboard.Settings.Basic
import Switchboard.Text.Json

/-!
# Settings as data

Settings are written as an object with one member for each section, whose members are the fields.
Reading fills in the defaults for all that is missing and passes over members it does not know. A
section may also be given as the list of its fields' values, as far as it goes.

* `Settings.toJson` writes settings in full;
* `Settings.ofJson?` reads them, and is `none` if a value is of the wrong kind.

Files of two formats are read this way, and `Format` says where the formats differ.
-/

namespace Switchboard

/-- The format in which settings arrived. -/
inductive Format where
  | json
  | toml
  deriving DecidableEq, Repr

namespace Settings

/-! ### Kinds of values -/

/-- A 64-bit word. -/
def word? : Json → Option UInt64
  | .int n => if 0 ≤ n ∧ n.toNat < UInt64.size then some (UInt64.ofNat n.toNat) else none
  | _ => none

/-- A truth value. -/
def flag? : Json → Option Bool
  | .bool b => some b
  | _ => none

/-- A list of strings. -/
def texts? : Json → Option (List String)
  | .arr js => js.mapM Json.str?
  | _ => none

/-- A string or nothing. -/
def optionalText? : Json → Option (Option String)
  | .null => some none
  | .str s => some (some s)
  | _ => none

/-- The name of a drain policy. -/
def drainName : Drain → String
  | .abandon => "abandon"
  | .complete => "complete"

/-- The drain policy of a name. -/
def drainOfName? : String → Option Drain
  | "abandon" => some .abandon
  | "complete" => some .complete
  | _ => none

/-- A value that says nothing: the empty value of a format. -/
def isBlankValue : Format → Json → Bool
  | .json, .null => true
  | .toml, .arr [] => true
  | .toml, .obj [] => true
  | _, _ => false

/-- A drain policy: its name, or an object with its name as the one key and an empty value. -/
def drain? (f : Format) : Json → Option Drain
  | .str name => drainOfName? name
  | .obj [(name, j)] => if isBlankValue f j then drainOfName? name else none
  | _ => none

/-! ### Sections -/

/-- The members of a section, which is an object, or the list of the values of its keys in order;
one of the formats lets such a list be too long. -/
def members? (f : Format) (keys : List String) : Json → Option (List (String × Json))
  | .obj ms => some ms
  | .arr js => if f = .json ∧ keys.length < js.length then none else some (keys.zip js)
  | _ => none

/-- A field of a section, with its default. -/
def field {α : Type} (ms : List (String × Json)) (key : String) (read : Json → Option α)
    (default : α) : Option α :=
  match Json.member? ms key with
  | some j => read j
  | none => some default

end Settings

namespace ListenerSettings

/-- The keys of the section. -/
def keys : List String :=
  ["bind_address", "secure", "accept_timeout_ms", "read_timeout_ms", "max_connections",
    "max_request_bytes"]

/-- Reads the section. -/
def ofJson? (f : Format) (j : Json) : Option ListenerSettings := do
  let ms ← Settings.members? f keys j
  let d : ListenerSettings := {}
  return {
    bindAddress := ← Settings.field ms "bind_address" Json.str? d.bindAddress
    secure := ← Settings.field ms "secure" Settings.flag? d.secure
    acceptTimeoutMs := ← Settings.field ms "accept_timeout_ms" Settings.word? d.acceptTimeoutMs
    readTimeoutMs := ← Settings.field ms "read_timeout_ms" Settings.word? d.readTimeoutMs
    maxConnections := ← Settings.field ms "max_connections" Settings.word? d.maxConnections
    maxRequestBytes := ← Settings.field ms "max_request_bytes" Settings.word? d.maxRequestBytes }

/-- Writes the section. -/
def toJson (s : ListenerSettings) : Json :=
  .obj [("bind_address", .str s.bindAddress), ("secure", .bool s.secure),
    ("accept_timeout_ms", .nat s.acceptTimeoutMs.toNat),
    ("read_timeout_ms", .nat s.readTimeoutMs.toNat),
    ("max_connections", .nat s.maxConnections.toNat),
    ("max_request_bytes", .nat s.maxRequestBytes.toNat)]

end ListenerSettings

namespace QueueSettings

/-- The keys of the section. -/
def keys : List String := ["capacity", "worker_threads", "drain"]

/-- Reads the section. -/
def ofJson? (f : Format) (j : Json) : Option QueueSettings := do
  let ms ← Settings.members? f keys j
  let d : QueueSettings := {}
  return {
    capacity := ← Settings.field ms "capacity" Settings.word? d.capacity
    workerThreads := ← Settings.field ms "worker_threads" Settings.word? d.workerThreads
    drain := ← Settings.field ms "drain" (Settings.drain? f) d.drain }

/-- Writes the section. -/
def toJson (s : QueueSettings) : Json :=
  .obj [("capacity", .nat s.capacity.toNat), ("worker_threads", .nat s.workerThreads.toNat),
    ("drain", .str (Settings.drainName s.drain))]

end QueueSettings

namespace PoolSettings

/-- The keys of the section. -/
def keys : List String := ["min_staged", "max_staged"]

/-- Reads the section. -/
def ofJson? (f : Format) (j : Json) : Option PoolSettings := do
  let ms ← Settings.members? f keys j
  let d : PoolSettings := {}
  return {
    minStaged := ← Settings.field ms "min_staged" Settings.word? d.minStaged
    maxStaged := ← Settings.field ms "max_staged" Settings.word? d.maxStaged }

/-- Writes the section. -/
def toJson (s : PoolSettings) : Json :=
  .obj [("min_staged", .nat s.minStaged.toNat), ("max_staged", .nat s.maxStaged.toNat)]

end PoolSettings

namespace RoutingSettings

/-- The keys of the section. -/
def keys : List String := ["memo_capacity"]

/-- Reads the section. -/
def ofJson? (f : Format) (j : Json) : Option RoutingSettings := do
  let ms ← Settings.members? f keys j
  let d : RoutingSettings := {}
  return { memoCapacity := ← Settings.field ms "memo_capacity" Settings.word? d.memoCapacity }

/-- Writes the section. -/
def toJson (s : RoutingSettings) : Json := .obj [("memo_capacity", .nat s.memoCapacity.toNat)]

end RoutingSettings

namespace AccessSettings

/-- The keys of the section. -/
def keys : List String :=
  ["allow", "allow_file", "allow_key", "ttl_secs", "canaries", "reverse_lookup", "case_sensitive",
    "watch_file"]

/-- Reads the section. -/
def ofJson? (f : Format) (j : Json) : Option AccessSettings := do
  let ms ← Settings.members? f keys j
  let d : AccessSettings := {}
  return {
    allow := ← Settings.field ms "allow" Settings.texts? d.allow
    allowFile := ← Settings.field ms "allow_file" Settings.optionalText? d.allowFile
    allowKey := ← Settings.field ms "allow_key" Json.str? d.allowKey
    ttlSecs := ← Settings.field ms "ttl_secs" Settings.word? d.ttlSecs
    canaries := ← Settings.field ms "canaries" Settings.texts? d.canaries
    reverseLookup := ← Settings.field ms "reverse_lookup" Settings.flag? d.reverseLookup
    caseSensitive := ← Settings.field ms "case_sensitive" Settings.flag? d.caseSensitive
    watchFile := ← Settings.field ms "watch_file" Settings.flag? d.watchFile }

/-- Writes the section. -/
def toJson (s : AccessSettings) : Json :=
  .obj [("allow", .strings s.allow), ("allow_file", .optional s.allowFile),
    ("allow_key", .str s.allowKey), ("ttl_secs", .nat s.ttlSecs.toNat),
    ("canaries", .strings s.canaries), ("reverse_lookup", .bool s.reverseLookup),
    ("case_sensitive", .bool s.caseSensitive), ("watch_file", .bool s.watchFile)]

end AccessSettings

namespace PollingSettings

/-- The keys of the section. -/
def keys : List String := ["base_ms", "max_ms"]

/-- Reads the section. -/
def ofJson? (f : Format) (j : Json) : Option PollingSettings := do
  let ms ← Settings.members? f keys j
  let d : PollingSettings := {}
  return {
    baseMs := ← Settings.field ms "base_ms" Settings.word? d.baseMs
    maxMs := ← Settings.field ms "max_ms" Settings.word? d.maxMs }

/-- Writes the section. -/
def toJson (s : PollingSettings) : Json :=
  .obj [("base_ms", .nat s.baseMs.toNat), ("max_ms", .nat s.maxMs.toNat)]

end PollingSettings

namespace LifecycleSettings

/-- The keys of the section. -/
def keys : List String := ["warm_up_ms", "shutdown_grace_ms"]

/-- Reads the section. -/
def ofJson? (f : Format) (j : Json) : Option LifecycleSettings := do
  let ms ← Settings.members? f keys j
  let d : LifecycleSettings := {}
  return {
    warmUpMs := ← Settings.field ms "warm_up_ms" Settings.word? d.warmUpMs
    shutdownGraceMs := ← Settings.field ms "shutdown_grace_ms" Settings.word? d.shutdownGraceMs }

/-- Writes the section. -/
def toJson (s : LifecycleSettings) : Json :=
  .obj [("warm_up_ms", .nat s.warmUpMs.toNat),
    ("shutdown_grace_ms", .nat s.shutdownGraceMs.toNat)]

end LifecycleSettings

namespace ObservabilitySettings

/-- The keys of the section. -/
def keys : List String := ["log_level", "metrics_enabled", "metrics_address"]

/-- Reads the section. -/
def ofJson? (f : Format) (j : Json) : Option ObservabilitySettings := do
  let ms ← Settings.members? f keys j
  let d : ObservabilitySettings := {}
  return {
    logLevel := ← Settings.field ms "log_level" Json.str? d.logLevel
    metricsEnabled := ← Settings.field ms "metrics_enabled" Settings.flag? d.metricsEnabled
    metricsAddress := ← Settings.field ms "metrics_address" Json.str? d.metricsAddress }

/-- Writes the section. -/
def toJson (s : ObservabilitySettings) : Json :=
  .obj [("log_level", .str s.logLevel), ("metrics_enabled", .bool s.metricsEnabled),
    ("metrics_address", .str s.metricsAddress)]

end ObservabilitySettings

namespace Settings

/-- The sections in order. -/
def sections : List String :=
  ["listener", "queue", "pool", "routing", "access_control", "polling", "lifecycle",
    "observability"]

/-- Reads settings. -/
def ofJson? (f : Format) (j : Json) : Option Settings := do
  let ms ← members? f sections j
  return {
    listener := ← field ms "listener" (ListenerSettings.ofJson? f) {}
    queue := ← field ms "queue" (QueueSettings.ofJson? f) {}
    pool := ← field ms "pool" (PoolSettings.ofJson? f) {}
    routing := ← field ms "routing" (RoutingSettings.ofJson? f) {}
    access := ← field ms "access_control" (AccessSettings.ofJson? f) {}
    polling := ← field ms "polling" (PollingSettings.ofJson? f) {}
    lifecycle := ← field ms "lifecycle" (LifecycleSettings.ofJson? f) {}
    observability := ← field ms "observability" (ObservabilitySettings.ofJson? f) {} }

/-- Writes settings in full. -/
def toJson (s : Settings) : Json :=
  .obj [("listener", s.listener.toJson), ("queue", s.queue.toJson), ("pool", s.pool.toJson),
    ("routing", s.routing.toJson), ("access_control", s.access.toJson),
    ("polling", s.polling.toJson), ("lifecycle", s.lifecycle.toJson),
    ("observability", s.observability.toJson)]

end Settings

end Switchboard
