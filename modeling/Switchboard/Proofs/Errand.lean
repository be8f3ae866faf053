import Switchboard.Pipeline.Engine
import Switchboard.Proofs.Interleaving
import Switchboard.Proofs.Ring

/-!
# What is still to be done

An event on its way is an errand: it waits to be executed, is under execution, or has come to its
end. An errand is in the hands of a thread or in a slot of the ring, and which of them makes no
difference to what will become of it. `Engine.errands` collects the errands of an engine, and `Deed`
lists what one move can do to them and to the rest of the shared state, one constructor for each
thing that can happen. That every move does one of these things is proved in
`Switchboard.Proofs.Deed`; laws of the pipeline are proved by going through the deeds.
-/

namespace Switchboard

/-- An event on its way. -/
inductive Errand where
  /-- It waits to be executed. -/
  | pending (e : Event) (observers : List Observer)
  /-- Its blocking work has begun, or its wait. -/
  | begun (e : Event) (observers : List Observer)
  /-- The stage after it is being published. -/
  | passing (e : Event) (observers : List Observer)
  /-- It has ended, and its observers are to be told. -/
  | reporting (e : Event) (observers : List Observer) (o : Outcome)
  deriving DecidableEq, Repr

namespace Event

/-- The connection of an event. -/
def connection? : Event → Option ℕ
  | noop => none
  | conversion job => some job.connection
  | middleware connection => some connection
  | dispatch x | handler x _ => some x.connection

@[simp] theorem connection?_conversion (job : Job) :
    (conversion job).connection? = some job.connection := rfl

@[simp] theorem connection?_middleware (connection : ℕ) :
    (middleware connection).connection? = some connection := rfl

@[simp] theorem connection?_dispatch (x : Exchange) :
    (dispatch x).connection? = some x.connection := rfl

@[simp] theorem connection?_handler (x : Exchange) (i : Instance) :
    (handler x i).connection? = some x.connection := rfl

/-- Whether an event comes after the gate: it counts for one if it does. -/
def lates : Event → ℕ
  | dispatch _ | handler _ _ => 1
  | noop | conversion _ | middleware _ => 0

/-- Whether an event is a conversion: it counts for one if it is. -/
def converts : Event → ℕ
  | conversion _ => 1
  | noop | middleware _ | dispatch _ | handler _ _ => 0

/-- Whether an event waits for a conversion: it counts for one if it does. -/
def waits : Event → ℕ
  | middleware _ => 1
  | noop | conversion _ | dispatch _ | handler _ _ => 0

end Event

namespace Errand

/-- The errand of what a ring or a thread carries. -/
def ofLoad (l : Event × List Observer) : Errand := .pending l.1 l.2

/-- The event of an errand. -/
def event : Errand → Event
  | pending e _ | begun e _ | passing e _ | reporting e _ _ => e

variable (e : Event) (observers : List Observer)

@[simp] theorem event_pending : (pending e observers).event = e := rfl

@[simp] theorem event_begun : (begun e observers).event = e := rfl

@[simp] theorem event_passing : (passing e observers).event = e := rfl

@[simp] theorem event_reporting (o : Outcome) : (reporting e observers o).event = e := rfl

end Errand

/-- What an errand weighs, by what its event weighs: nothing once that has come to its end. -/
def Errand.weigh (f : Event → ℕ) : Errand → ℕ
  | pending e _ | begun e _ => f e
  | passing _ _ | reporting _ _ _ => 0

/-- What errands weigh together. -/
def weight (f : Event → ℕ) (es : Multiset Errand) : ℕ := (es.map (Errand.weigh f)).sum

section

variable (f : Event → ℕ) (a : Errand) (es es' : Multiset Errand) (e : Event)
  (observers : List Observer)

@[simp] theorem weigh_pending : (Errand.pending e observers).weigh f = f e := rfl

@[simp] theorem weigh_begun : (Errand.begun e observers).weigh f = f e := rfl

@[simp] theorem weigh_passing : (Errand.passing e observers).weigh f = 0 := rfl

@[simp] theorem weigh_reporting (o : Outcome) : (Errand.reporting e observers o).weigh f = 0 := rfl

@[simp] theorem weight_zero : weight f 0 = 0 := rfl

@[simp] theorem weight_cons : weight f (a ::ₘ es) = a.weigh f + weight f es := by simp [weight]

@[simp] theorem weight_singleton : weight f {a} = a.weigh f := by simp [weight]

@[simp] theorem weight_add : weight f (es + es') = weight f es + weight f es' := by simp [weight]

@[simp] theorem weight_coe (l : List Errand) : weight f l = (l.map (Errand.weigh f)).sum := by
  simp [weight]

theorem weight_eq_zero_iff : weight f es = 0 ↔ ∀ a ∈ es, a.weigh f = 0 := by
  simp [weight, Multiset.sum_eq_zero_iff]

end

/-! ### The errands of threads -/

/-- The errands of a task: its own and the one it publishes. -/
def Task.errands (t : Task) : Multiset Errand :=
  match t.phase with
  | .running => {.pending t.event t.observers}
  | .working => {.begun t.event t.observers}
  | .publishing p => .passing t.event t.observers ::ₘ p.loads.map Errand.ofLoad
  | .ended o => {.reporting t.event t.observers o}

namespace Thread

/-- The errands in the hands of a thread, where every event is given these observers. -/
def errands (observers : List Observer) : Thread → Multiset Errand
  | acceptor (.publishing p next) =>
    p.loads.map Errand.ofLoad + ↑(next.map fun e => Errand.pending e observers)
  | acceptor _ => 0
  | dispatcher (.consuming c) => c.loads.map Errand.ofLoad
  | dispatcher (.admitted e) => {Errand.ofLoad e.load}
  | task t => t.errands
  | leftOver e => {.begun e []}
  | quitter _ => 0
  | closer c => c.loads.map Errand.ofLoad
  | joiner (.closing c) => c.loads.map Errand.ofLoad
  | joiner _ => 0

/-- The publisher in a thread. -/
def publisher? : Thread → Option (Publisher Event)
  | acceptor (.publishing p _) => some p
  | task t =>
    match t.phase with
    | .publishing p => some p
    | _ => none
  | _ => none

/-- The permits in the hands of a thread. -/
def permits (t : Thread) : ℕ := t.publisher?.elim 0 Publisher.permits

/-- The sequence numbers that a thread has drawn and not yet written. -/
def claims (t : Thread) : Multiset ℕ := t.publisher?.elim 0 Publisher.claims

end Thread

namespace Engine

/-- Everything that is still to be done: what the threads have in their hands and what lies in the
ring. -/
def errands (g : Engine) : Multiset Errand :=
  (g.threads.map (Thread.errands g.shared.queue.observers)).sum +
    g.shared.queue.ring.loads.map Errand.ofLoad

end Engine

/-! ### What a move can do -/

namespace HandlerEnd

/-- How the stage of a handler ends. -/
def outcome : HandlerEnd → Outcome
  | answered _ => .completed
  | failed e => .failed e.message
  | panicked p => .panicked p.message

/-- What the end of a handler is counted as. -/
def counter : HandlerEnd → Counter
  | answered _ => .completed
  | failed _ => .handlerFailure
  | panicked _ => .handlerPanic

end HandlerEnd

namespace Pipeline

/-- A pipeline without what only concerns the passing of envelopes: the ring, the switches of the
threads and the latches reached. -/
def still (p : Pipeline) : Pipeline :=
  { p with
    queue := { p.queue with ring := default }
    quit := {}
    begun := []
    acceptEnded := false
    accepting := true
    inFlight := 0 }

/-- Counts a failed conversion. -/
def countResult (p : Pipeline) : Conversion → Pipeline
  | .ok _ => p
  | .error _ => p.count .conversionFailure

end Pipeline

/-- How the stage of a conversion ends when its result is taken. -/
def Conversion.outcome : Conversion → Outcome
  | .ok _ => .forwarded
  | .error _ => .malformed

namespace Thread

/-- A thread that is about to pass something on and nothing more. -/
def Carries (p : Pipeline) : Thread → Prop
  | acceptor .listening => p.incoming = []
  | acceptor (.publishing (.refused _ _) _) => False
  | acceptor _ => True
  | dispatcher (.consuming (.holding _)) => p.accepting = true
  | dispatcher _ => True
  | task t => ∃ q, t.phase = .publishing q
  | leftOver _ => False
  | quitter _ => True
  | closer (.drained (_ :: _)) => False
  | closer _ => True
  | joiner (.closing (.drained (_ :: _))) => False
  | joiner _ => True

/-- A thread that is about to discard an envelope: the dispatcher once the workers take nothing
more, or someone who has drained a closed ring. -/
inductive Discards (p : Pipeline) : Thread → Envelope Event → Prop where
  | dispatcher {e : Envelope Event} (h : p.accepting = false) :
    Discards p (.dispatcher (.consuming (.holding e))) e
  | closer {e : Envelope Event} {left : List (Envelope Event)} (h : p.queue.ring.closed = true) :
    Discards p (.closer (.drained (e :: left))) e
  | joiner {e : Envelope Event} {left : List (Envelope Event)} (h : p.queue.ring.closed = true) :
    Discards p (.joiner (.closing (.drained (e :: left)))) e

end Thread

/-- What a move of a thread does: `Deed i p t done due q` leads from the pipeline `p` to one that
is `q` but for the passing of envelopes, and the errands `done` give way to the errands `due`. -/
inductive Deed (i : Chance) (p : Pipeline) :
    Thread → Multiset Errand → Multiset Errand → Pipeline → Prop where
  /-- Something is passed on. -/
  | carry {t : Thread} {q : Pipeline} (ht : t.Carries p) (hq : q.still = p.still) :
    Deed i p t 0 0 q
  /-- Accepting fails. -/
  | fault {incoming : List Arrival} {q : Pipeline} (h : p.incoming = .fault :: incoming)
    (hq : q.still = ({ p with incoming }.count .acceptError).still) :
    Deed i p (.acceptor .listening) 0 0 q
  /-- A connection is accepted. -/
  | enter {output : Output} {ending : JobEnd} {binding : Binding} {latch : Option String}
    {incoming : List Arrival} {q : Pipeline}
    (h : p.incoming = .connection output ending binding latch :: incoming)
    (hq : q.still = ({ p with incoming }.enter output).1.still) :
    Deed i p (.acceptor .listening) 0
      {.pending (.conversion { connection := p.ledger.length, ending, binding, latch })
        p.queue.observers, .pending (.middleware p.ledger.length) p.queue.observers} q
  /-- The accept loop drops a connection that a closed queue refused. -/
  | drop {e : Envelope Event} {error : QueueError} {next : List Event} {q : Pipeline}
    (closed : p.queue.ring.permitsClosed = true)
    (same : ∀ e' ∈ next, e'.connection? = e.event.connection?)
    (hq : q.still = ((e.event :: next).foldl Pipeline.release p).still) :
    Deed i p (.acceptor (.publishing (.refused e error) next))
      (.pending e.event e.observers ::ₘ
        ↑(next.map fun e => Errand.pending e p.queue.observers)) 0 q
  /-- An envelope is discarded. -/
  | discard {t : Thread} {e : Envelope Event} {q : Pipeline} (ht : t.Discards p e)
    (hq : q.still = (p.discard e .abandoned).still) :
    Deed i p t {.pending e.event e.observers} 0 q
  /-- The empty event does nothing. -/
  | noop {t : Task} {q : Pipeline} (ht : t.phase = .running) (he : t.event = .noop)
    (hq : q.still = p.still) :
    Deed i p (.task t) t.errands {.reporting t.event t.observers .noop} q
  /-- Blocking work begins, or a wait. -/
  | begins {t : Task} {q : Pipeline} (ht : t.phase = .running)
    (he : t.event ≠ .noop ∧ ∀ x, t.event ≠ .dispatch x)
    (stays : ∀ k, t.event = .middleware k → p.shouldAbandon = false) (hq : q.still = p.still) :
    Deed i p (.task t) t.errands {.begun t.event t.observers} q
  /-- A conversion hands its result over. -/
  | convert {t : Task} {job : Job} {result : Conversion} {ledger : Ledger} {q : Pipeline}
    (ht : t.phase = .working) (he : t.event = .conversion job)
    (awaited : (p.ledger.line job.connection).handOver ≠ .noReceiver)
    (run : p.ledger.runJob job = (ledger, result))
    (hq : q.still = (({ p with ledger }.countResult result).change job.connection fun l =>
      { l with handOver := .ready result }).still) :
    Deed i p (.task t) t.errands {.reporting t.event t.observers result.outcome} q
  /-- A conversion finds nobody waiting for its result. -/
  | convertInVain {t : Task} {job : Job} {result : Conversion} {ledger : Ledger} {q : Pipeline}
    (ht : t.phase = .working) (he : t.event = .conversion job)
    (left : (p.ledger.line job.connection).handOver = .noReceiver)
    (run : p.ledger.runJob job = (ledger, result))
    (hq : q.still = ({ p with ledger := ledger.dropConversion result }.countResult result).still) :
    Deed i p (.task t) t.errands {.reporting t.event t.observers .abandoned} q
  /-- A wait begins anew. -/
  | poll {t : Task} {connection : ℕ} {q : Pipeline} (ht : t.phase = .working)
    (he : t.event = .middleware connection) (hq : q.still = p.still) :
    Deed i p (.task t) t.errands {.pending t.event t.observers} q
  /-- A wait is given up, for the shutdown or because nothing will come. -/
  | giveUp {t : Task} {connection : ℕ} {q : Pipeline} (he : t.event = .middleware connection)
    (why : t.phase = .running ∧ p.shouldAbandon = true ∨
      t.phase = .working ∧ ((p.ledger.line connection).handOver = .noSender ∨
        (p.ledger.line connection).handOver = .noReceiver))
    (hq : q.still = ((p.release (.middleware connection)).count .abandoned).still) :
    Deed i p (.task t) t.errands {.reporting t.event t.observers .abandoned} q
  /-- A conversion turns out to have failed. -/
  | malformed {t : Task} {connection : ℕ} {e : ConversionError} {q : Pipeline}
    (ht : t.phase = .working) (he : t.event = .middleware connection)
    (ready : (p.ledger.line connection).handOver = .ready (.error e))
    (hq : q.still = { p with
      ledger := (p.ledger.change connection Line.leave).dropReply e.reply }.still) :
    Deed i p (.task t) t.errands {.reporting t.event t.observers .malformed} q
  /-- The gate refuses the source. -/
  | deny {t : Task} {connection : ℕ} {x : Exchange} {gate : Gate} {q : Pipeline}
    (ht : t.phase = .working) (he : t.event = .middleware connection)
    (ready : (p.ledger.line connection).handOver = .ready (.ok x))
    (asked : p.gate.allow i.moments x.request.source p.reverseLookup p.caseSensitive =
      (gate, false))
    (hq : q.still = (({ p.change connection Line.leave with gate }.count .denied).turnDown
      x.connection).still) :
    Deed i p (.task t) t.errands {.reporting t.event t.observers .denied} q
  /-- The gate admits the source, and the dispatch is to follow. -/
  | grant {t : Task} {connection : ℕ} {x : Exchange} {gate : Gate} {q : Pipeline}
    (ht : t.phase = .working) (he : t.event = .middleware connection)
    (ready : (p.ledger.line connection).handOver = .ready (.ok x))
    (asked : p.gate.allow i.moments x.request.source p.reverseLookup p.caseSensitive =
      (gate, true))
    (hq : q.still = { p.change connection Line.leave with gate }.still) :
    Deed i p (.task t) t.errands
      {.passing t.event t.observers, .pending (.dispatch x) p.queue.observers} q
  /-- Nothing serves a request. -/
  | noRoute {t : Task} {x : Exchange} {memo : RouteMemo} {found : Option String} {roster : Roster}
    {q : Pipeline} (ht : t.phase = .running) (he : t.event = .dispatch x)
    (resolved : p.memo.resolve p.roster x.request.path = (memo, found))
    (taken : p.roster.take (found.getD defaultCommand) = (roster, .unserved))
    (hq : q.still = (({ p with memo, roster }.count .unrouted).turnDown x.connection).still) :
    Deed i p (.task t) t.errands {.reporting t.event t.observers .unrouted} q
  /-- Making a copy of the template panics. -/
  | die {t : Task} {x : Exchange} {memo : RouteMemo} {found : Option String} {roster : Roster}
    {q : Pipeline} (ht : t.phase = .running) (he : t.event = .dispatch x)
    (resolved : p.memo.resolve p.roster x.request.path = (memo, found))
    (taken : p.roster.take (found.getD defaultCommand) = (roster, .panicked))
    (hq : q.still = ({ p with memo, roster }.release (.dispatch x)).still) :
    Deed i p (.task t) t.errands 0 q
  /-- A request is given an instance, and the handler is to follow. -/
  | dispatch {t : Task} {x : Exchange} {memo : RouteMemo} {found : Option String}
    {roster : Roster} {inst : Instance} {q : Pipeline} (ht : t.phase = .running)
    (he : t.event = .dispatch x)
    (resolved : p.memo.resolve p.roster x.request.path = (memo, found))
    (taken : p.roster.take (found.getD defaultCommand) = (roster, .handed inst))
    (hq : q.still = ({ p with memo, roster }.count .dispatched).still) :
    Deed i p (.task t) t.errands
      {.passing t.event t.observers, .pending (.handler { x with request :=
        { x.request with command := some (found.getD defaultCommand) } } inst)
        p.queue.observers} q
  /-- A handler comes to an end. -/
  | handle {t : Task} {x : Exchange} {inst : Instance} {e : HandlerEnd} {q : Pipeline}
    (ht : t.phase = .working) (he : t.event = .handler x inst)
    (run : (p.roster.run inst x.request).2 = e)
    (hq : q.still = ((p.answer x.connection e).count e.counter).still) :
    Deed i p (.task t) t.errands {.reporting t.event t.observers e.outcome} q
  /-- The stage after this one was published. -/
  | pass {t : Task} {q : Pipeline} (ht : t.phase = .publishing .published)
    (hq : q.still = p.still) :
    Deed i p (.task t) t.errands {.reporting t.event t.observers .forwarded} q
  /-- The stage after this one is refused by a closed queue. -/
  | refuse {t : Task} {e : Envelope Event} {error : QueueError} {q : Pipeline}
    (ht : t.phase = .publishing (.refused e error)) (closed : p.queue.ring.permitsClosed = true)
    (same : e.event.connection? = t.event.connection?) (late : e.event.lates = 1)
    (hq : q.still = ((p.release e.event).count .abandoned).still) :
    Deed i p (.task t) t.errands {.reporting t.event t.observers .abandoned} q
  /-- The observers are told how a stage ended. -/
  | report {t : Task} {o : Outcome} {q : Pipeline} (ht : t.phase = .ended o)
    (hq : q.still = (p.tell t.event.kind t.observers o).still) :
    Deed i p (.task t) t.errands 0 q

end Switchboard
