import Mathlib.Data.List.Nodup
import Mathlib.Data.List.Perm.Basic
import Switchboard.Settings.Data

/-!
# Settings read back

Settings that are written in full say all there is to say, so reading gives them back. A document
need not be full: sections and fields may be deleted and members with unknown keys added, in any
order. `Deletion.Remains` relates what was written to what is then found, and
`Settings.without` says what is to be read from it.

A section is to the settings what a field is to a section: a member with a default. So both levels
are read by `Settings.field`, and one lemma, `Json.Remains.field`, serves both.

Main statement: `Settings.reads_back`.
-/

namespace Switchboard

/-! ### Objects with deletions -/

namespace Json

variable {cut : String → Bool} {R : String → Json → Json → Prop} {ms : List (String × Json)}
  {written found : List (String × Json)} {key : String} {j j' : Json} {α : Type}

/-- What **remains** of a written object when its members with a key in `cut` are deleted and
members with unknown keys are added. The order is free; `R` relates the members that are kept. -/
inductive Remains (cut : String → Bool) (R : String → Json → Json → Prop) : Json → Json → Prop where
  | obj {written found : List (String × Json)}
      (hkeys : ((found.map Prod.fst).filter (· ∈ written.map Prod.fst)).Perm
        ((written.map Prod.fst).filter (!cut ·)))
      (hvalues : ∀ m ∈ written, ∀ m' ∈ found, m.1 = m'.1 → R m.1 m.2 m'.2) :
      Remains cut R (.obj written) (.obj found)

theorem member?_eq_none_iff : member? ms key = none ↔ key ∉ ms.map Prod.fst := by
  rw [member?, Option.map_eq_none_iff, List.find?_eq_none]
  simp only [List.mem_reverse, beq_iff_eq, List.mem_map, not_exists, not_and]

theorem mem_of_member? (h : member? ms key = some j) : (key, j) ∈ ms := by
  obtain ⟨⟨k, j'⟩, hfind, rfl⟩ := Option.map_eq_some_iff.mp h
  obtain rfl : k = key := by simpa using List.find?_some hfind
  exact List.mem_reverse.mp (List.mem_of_find?_eq_some hfind)

/-- All that is related to a value is **read** as `v`. -/
def Reads (R : Json → Json → Prop) (read : Json → Option α) (j : Json) (v : α) : Prop :=
  ∀ j', R j j' → read j' = some v

/-- **A member with a default**: deleted, it has the default, and otherwise what is read from it. -/
theorem Remains.field (h : Remains cut R (.obj written) (.obj found)) (key : String)
    {read : Json → Option α} {v default : α} (hread : Reads (R key) read j v)
    (hj : (key, j) ∈ written := by simp) :
    Settings.field found key read default = some (if cut key then default else v) := by
  obtain ⟨hkeys, hvalues⟩ := h
  have hkey : key ∈ written.map Prod.fst := List.mem_map_of_mem hj
  have hfound : key ∈ found.map Prod.fst ↔ cut key = false := by
    have hmem := hkeys.mem_iff (a := key)
    rw [List.mem_filter, List.mem_filter] at hmem
    simpa [hkey] using hmem
  cases hmember : member? found key with
  | none =>
    have hcut : cut key = true := by
      simpa using mt hfound.mpr (member?_eq_none_iff.mp hmember)
    simp [Settings.field, hmember, hcut]
  | some j' =>
    have hmem := mem_of_member? hmember
    have hcut : cut key = false := hfound.mp (List.mem_map_of_mem hmem)
    simp [Settings.field, hmember, hcut, hread j' (hvalues _ hj _ hmem rfl)]

/-- The same for a member that is kept as it is. -/
theorem Remains.field_eq (h : Remains cut (fun _ => Eq) (.obj written) (.obj found)) (key : String)
    {read : Json → Option α} {v : α} (hread : read j = some v) {default : α}
    (hj : (key, j) ∈ written := by simp) :
    Settings.field found key read default = some (if cut key then default else v) :=
  h.field key (fun _ hj' => hj' ▸ hread) hj

/-- What remains of an object is an object. -/
theorem Remains.exists_obj (h : Remains cut R (.obj written) j') :
    ∃ found, j' = .obj found ∧ Remains cut R (.obj written) (.obj found) := by
  cases h with
  | obj hkeys hvalues => exact ⟨_, rfl, .obj hkeys hvalues⟩

/-- Deletes the members of an object with a key in `cut`, and changes the others by `g`. -/
def prune (cut : String → Bool) (g : String → Json → Json) : Json → Json
  | .obj ms => .obj ((ms.filter fun m => !cut m.1).map fun m => (m.1, g m.1 m.2))
  | j => j

/-- Deleting leaves what remains. -/
theorem remains_prune {g : String → Json → Json} (hkeys : (ms.map Prod.fst).Nodup)
    (hg : ∀ m ∈ ms, R m.1 m.2 (g m.1 m.2)) :
    Remains cut R (.obj ms) (prune cut g (.obj ms)) := by
  refine .obj ?_ ?_
  · have hmap : ((ms.filter fun m => !cut m.1).map fun m => (m.1, g m.1 m.2)).map Prod.fst =
        (ms.map Prod.fst).filter (!cut ·) := by
      rw [List.map_map, List.filter_map]
      rfl
    rw [hmap, List.filter_eq_self.mpr fun key hkey => decide_eq_true (List.mem_filter.mp hkey).1]
  · intro m hm m' hm' heq
    obtain ⟨n, hn, rfl⟩ := List.mem_map.mp hm'
    obtain rfl : m = n := List.inj_on_of_nodup_map hkeys hm (List.mem_filter.mp hn).1 heq
    exact hg m hm

end Json

/-! ### Fields -/

namespace Settings

theorem str?_str (s : String) : Json.str? (.str s) = some s := rfl

theorem flag?_bool (b : Bool) : flag? (.bool b) = some b := rfl

theorem word?_nat (w : UInt64) : word? (.nat w.toNat) = some w := by
  have hlt : w.toNat < UInt64.size := w.toNat_lt
  simp [word?, Json.nat, hlt]

theorem texts?_strings (ss : List String) : texts? (.strings ss) = some ss := by
  rw [Json.strings, texts?]
  induction ss with
  | nil => rfl
  | cons s ss ih => simp [List.mapM_cons, Json.str?, ih]

theorem optionalText?_optional (o : Option String) : optionalText? (.optional o) = some o := by
  cases o <;> rfl

theorem drain?_drainName (f : Format) (d : Drain) : drain? f (.str (drainName d)) = some d := by
  cases d <;> rfl

end Settings

/-! ### Sections -/

variable {f : Format} {cut : String → Bool}

open Settings

namespace ListenerSettings

/-- The section with its defaults for the fields in `cut`. -/
def without (s : ListenerSettings) (cut : String → Bool) : ListenerSettings :=
  let d : ListenerSettings := {}
  { bindAddress := if cut "bind_address" then d.bindAddress else s.bindAddress
    secure := if cut "secure" then d.secure else s.secure
    acceptTimeoutMs := if cut "accept_timeout_ms" then d.acceptTimeoutMs else s.acceptTimeoutMs
    readTimeoutMs := if cut "read_timeout_ms" then d.readTimeoutMs else s.readTimeoutMs
    maxConnections := if cut "max_connections" then d.maxConnections else s.maxConnections
    maxRequestBytes := if cut "max_request_bytes" then d.maxRequestBytes else s.maxRequestBytes }

/-- What remains of the section is read. -/
theorem reads (s : ListenerSettings) :
    Json.Reads (Json.Remains cut fun _ => Eq) (ofJson? f) s.toJson (s.without cut) := by
  intro doc h
  obtain ⟨found, rfl, h⟩ := h.exists_obj
  simp only [ofJson?, members?, Option.bind_eq_bind, Option.bind_some,
    h.field_eq "bind_address" (str?_str s.bindAddress),
    h.field_eq "secure" (flag?_bool s.secure),
    h.field_eq "accept_timeout_ms" (word?_nat s.acceptTimeoutMs),
    h.field_eq "read_timeout_ms" (word?_nat s.readTimeoutMs),
    h.field_eq "max_connections" (word?_nat s.maxConnections),
    h.field_eq "max_request_bytes" (word?_nat s.maxRequestBytes)]
  rfl

end ListenerSettings

namespace QueueSettings

/-- The section with its defaults for the fields in `cut`. -/
def without (s : QueueSettings) (cut : String → Bool) : QueueSettings :=
  let d : QueueSettings := {}
  { capacity := if cut "capacity" then d.capacity else s.capacity
    workerThreads := if cut "worker_threads" then d.workerThreads else s.workerThreads
    drain := if cut "drain" then d.drain else s.drain }

/-- What remains of the section is read. -/
theorem reads (s : QueueSettings) :
    Json.Reads (Json.Remains cut fun _ => Eq) (ofJson? f) s.toJson (s.without cut) := by
  intro doc h
  obtain ⟨found, rfl, h⟩ := h.exists_obj
  simp only [ofJson?, members?, Option.bind_eq_bind, Option.bind_some,
    h.field_eq "capacity" (word?_nat s.capacity),
    h.field_eq "worker_threads" (word?_nat s.workerThreads),
    h.field_eq "drain" (drain?_drainName f s.drain)]
  rfl

end QueueSettings

namespace PoolSettings

/-- The section with its defaults for the fields in `cut`. -/
def without (s : PoolSettings) (cut : String → Bool) : PoolSettings :=
  let d : PoolSettings := {}
  { minStaged := if cut "min_staged" then d.minStaged else s.minStaged
    maxStaged := if cut "max_staged" then d.maxStaged else s.maxStaged }

/-- What remains of the section is read. -/
theorem reads (s : PoolSettings) :
    Json.Reads (Json.Remains cut fun _ => Eq) (ofJson? f) s.toJson (s.without cut) := by
  intro doc h
  obtain ⟨found, rfl, h⟩ := h.exists_obj
  simp only [ofJson?, members?, Option.bind_eq_bind, Option.bind_some,
    h.field_eq "min_staged" (word?_nat s.minStaged),
    h.field_eq "max_staged" (word?_nat s.maxStaged)]
  rfl

end PoolSettings

namespace RoutingSettings

/-- The section with its defaults for the fields in `cut`. -/
def without (s : RoutingSettings) (cut : String → Bool) : RoutingSettings :=
  let d : RoutingSettings := {}
  { memoCapacity := if cut "memo_capacity" then d.memoCapacity else s.memoCapacity }

/-- What remains of the section is read. -/
theorem reads (s : RoutingSettings) :
    Json.Reads (Json.Remains cut fun _ => Eq) (ofJson? f) s.toJson (s.without cut) := by
  intro doc h
  obtain ⟨found, rfl, h⟩ := h.exists_obj
  simp only [ofJson?, members?, Option.bind_eq_bind, Option.bind_some,
    h.field_eq "memo_capacity" (word?_nat s.memoCapacity)]
  rfl

end RoutingSettings

namespace AccessSettings

/-- The section with its defaults for the fields in `cut`. -/
def without (s : AccessSettings) (cut : String → Bool) : AccessSettings :=
  let d : AccessSettings := {}
  { allow := if cut "allow" then d.allow else s.allow
    allowFile := if cut "allow_file" then d.allowFile else s.allowFile
    allowKey := if cut "allow_key" then d.allowKey else s.allowKey
    ttlSecs := if cut "ttl_secs" then d.ttlSecs else s.ttlSecs
    canaries := if cut "canaries" then d.canaries else s.canaries
    reverseLookup := if cut "reverse_lookup" then d.reverseLookup else s.reverseLookup
    caseSensitive := if cut "case_sensitive" then d.caseSensitive else s.caseSensitive
    watchFile := if cut "watch_file" then d.watchFile else s.watchFile }

/-- What remains of the section is read. -/
theorem reads (s : AccessSettings) :
    Json.Reads (Json.Remains cut fun _ => Eq) (ofJson? f) s.toJson (s.without cut) := by
  intro doc h
  obtain ⟨found, rfl, h⟩ := h.exists_obj
  simp only [ofJson?, members?, Option.bind_eq_bind, Option.bind_some,
    h.field_eq "allow" (texts?_strings s.allow),
    h.field_eq "allow_file" (optionalText?_optional s.allowFile),
    h.field_eq "allow_key" (str?_str s.allowKey),
    h.field_eq "ttl_secs" (word?_nat s.ttlSecs),
    h.field_eq "canaries" (texts?_strings s.canaries),
    h.field_eq "reverse_lookup" (flag?_bool s.reverseLookup),
    h.field_eq "case_sensitive" (flag?_bool s.caseSensitive),
    h.field_eq "watch_file" (flag?_bool s.watchFile)]
  rfl

end AccessSettings

namespace PollingSettings

/-- The section with its defaults for the fields in `cut`. -/
def without (s : PollingSettings) (cut : String → Bool) : PollingSettings :=
  let d : PollingSettings := {}
  { baseMs := if cut "base_ms" then d.baseMs else s.baseMs
    maxMs := if cut "max_ms" then d.maxMs else s.maxMs }

/-- What remains of the section is read. -/
theorem reads (s : PollingSettings) :
    Json.Reads (Json.Remains cut fun _ => Eq) (ofJson? f) s.toJson (s.without cut) := by
  intro doc h
  obtain ⟨found, rfl, h⟩ := h.exists_obj
  simp only [ofJson?, members?, Option.bind_eq_bind, Option.bind_some,
    h.field_eq "base_ms" (word?_nat s.baseMs),
    h.field_eq "max_ms" (word?_nat s.maxMs)]
  rfl

end PollingSettings

namespace LifecycleSettings

/-- The section with its defaults for the fields in `cut`. -/
def without (s : LifecycleSettings) (cut : String → Bool) : LifecycleSettings :=
  let d : LifecycleSettings := {}
  { warmUpMs := if cut "warm_up_ms" then d.warmUpMs else s.warmUpMs
    shutdownGraceMs := if cut "shutdown_grace_ms" then d.shutdownGraceMs else s.shutdownGraceMs }

/-- What remains of the section is read. -/
theorem reads (s : LifecycleSettings) :
    Json.Reads (Json.Remains cut fun _ => Eq) (ofJson? f) s.toJson (s.without cut) := by
  intro doc h
  obtain ⟨found, rfl, h⟩ := h.exists_obj
  simp only [ofJson?, members?, Option.bind_eq_bind, Option.bind_some,
    h.field_eq "warm_up_ms" (word?_nat s.warmUpMs),
    h.field_eq "shutdown_grace_ms" (word?_nat s.shutdownGraceMs)]
  rfl

end LifecycleSettings

namespace ObservabilitySettings

/-- The section with its defaults for the fields in `cut`. -/
def without (s : ObservabilitySettings) (cut : String → Bool) : ObservabilitySettings :=
  let d : ObservabilitySettings := {}
  { logLevel := if cut "log_level" then d.logLevel else s.logLevel
    metricsEnabled := if cut "metrics_enabled" then d.metricsEnabled else s.metricsEnabled
    metricsAddress := if cut "metrics_address" then d.metricsAddress else s.metricsAddress }

/-- What remains of the section is read. -/
theorem reads (s : ObservabilitySettings) :
    Json.Reads (Json.Remains cut fun _ => Eq) (ofJson? f) s.toJson (s.without cut) := by
  intro doc h
  obtain ⟨found, rfl, h⟩ := h.exists_obj
  simp only [ofJson?, members?, Option.bind_eq_bind, Option.bind_some,
    h.field_eq "log_level" (str?_str s.logLevel),
    h.field_eq "metrics_enabled" (flag?_bool s.metricsEnabled),
    h.field_eq "metrics_address" (str?_str s.metricsAddress)]
  rfl

end ObservabilitySettings

/-! ### The whole -/

/-- A **deletion** of sections, and of fields of sections. -/
structure Deletion where
  sections : String → Bool
  fields : String → String → Bool

namespace Deletion

/-- What remains of a document after a deletion. -/
def Remains (d : Deletion) : Json → Json → Prop :=
  Json.Remains d.sections fun name => Json.Remains (d.fields name) fun _ => Eq

/-- The document with nothing but a deletion made. -/
def prune (d : Deletion) : Json → Json :=
  Json.prune d.sections fun name => Json.prune (d.fields name) fun _ j => j

/-- The deletion of nothing. -/
def nothing : Deletion := ⟨fun _ => false, fun _ _ => false⟩

end Deletion

namespace Settings

/-- The settings with the defaults for all that is deleted. -/
def without (s : Settings) (d : Deletion) : Settings where
  listener := if d.sections "listener" then {} else s.listener.without (d.fields "listener")
  queue := if d.sections "queue" then {} else s.queue.without (d.fields "queue")
  pool := if d.sections "pool" then {} else s.pool.without (d.fields "pool")
  routing := if d.sections "routing" then {} else s.routing.without (d.fields "routing")
  access :=
    if d.sections "access_control" then {} else s.access.without (d.fields "access_control")
  polling := if d.sections "polling" then {} else s.polling.without (d.fields "polling")
  lifecycle := if d.sections "lifecycle" then {} else s.lifecycle.without (d.fields "lifecycle")
  observability :=
    if d.sections "observability" then {}
    else s.observability.without (d.fields "observability")

/-- A deletion can be made in what settings are written as. -/
theorem remains_prune (d : Deletion) (s : Settings) : d.Remains s.toJson (d.prune s.toJson) := by
  refine Json.remains_prune (by simp) ?_
  simp only [List.forall_mem_cons, List.not_mem_nil, false_implies, implies_true, and_true]
  refine ⟨?_, ?_, ?_, ?_, ?_, ?_, ?_, ?_⟩ <;> exact Json.remains_prune (by simp) fun _ _ => rfl

/-- What remains of settings is read. -/
theorem reads (d : Deletion) (s : Settings) :
    Json.Reads d.Remains (ofJson? f) s.toJson (s.without d) := by
  intro doc h
  obtain ⟨found, rfl, h⟩ := Json.Remains.exists_obj h
  simp only [ofJson?, members?, Option.bind_eq_bind, Option.bind_some,
    h.field "listener" s.listener.reads,
    h.field "queue" s.queue.reads,
    h.field "pool" s.pool.reads,
    h.field "routing" s.routing.reads,
    h.field "access_control" s.access.reads,
    h.field "polling" s.polling.reads,
    h.field "lifecycle" s.lifecycle.reads,
    h.field "observability" s.observability.reads]
  rfl

/-- **Settings are read back.** Written in full and read, settings are the same. What remains of
what was written after a deletion, whatever unknown members it was given, is read as the settings
with the defaults for all that is deleted; and every deletion leaves something that remains. -/
theorem reads_back (f : Format) (s : Settings) :
    ofJson? f s.toJson = some s ∧
    ∀ d : Deletion, d.Remains s.toJson (d.prune s.toJson) ∧
      ∀ doc, d.Remains s.toJson doc → ofJson? f doc = some (s.without d) := by
  refine ⟨?_, fun d => ⟨remains_prune d s, reads d s⟩⟩
  calc ofJson? f s.toJson
      = ofJson? f (Deletion.nothing.prune s.toJson) := rfl
    _ = some (s.without Deletion.nothing) := reads _ s _ (remains_prune _ s)
    _ = some s := rfl

/-- A queue that holds as much as can be said. -/
def spacious : Settings := { queue := ⟨18446744073709551615, 9, .complete⟩ }

/-- The deletion of all but two fields of the queue. -/
def allButTwo : Deletion := ⟨(· != "queue"), fun _ key => key == "worker_threads"⟩

/-- What remains, with two unknown members. -/
def twoFields : Json :=
  .obj [("threads", .nat 3),
    ("queue", .obj [("drain", .str "complete"), ("retries", .null),
      ("capacity", .nat 18446744073709551615)])]

theorem reads_back_sample :
    allButTwo.Remains spacious.toJson twoFields ∧
      ofJson? .json twoFields = some { queue := ⟨18446744073709551615, 4, .complete⟩ } := by
  have hremains : allButTwo.Remains spacious.toJson twoFields := by
    -- of the sections only the queue is left, and of its fields those that stand in the document
    refine .obj (by decide) ?_
    simp only [List.forall_mem_cons, List.not_mem_nil, String.reduceEq, false_implies, implies_true,
      forall_const, and_self, and_true, true_and]
    exact .obj (by decide) (by simp [spacious, drainName])
  exact ⟨hremains, ((reads_back .json spacious).2 allButTwo).2 twoFields hremains⟩

end Settings

end Switchboard
