import Switchboard.Interleaving
import Switchboard.Pipeline.Task

/-!
# The threads of a server

Who works on the pipeline: the accept loop, the dispatcher, the workers, each with a task, those who
make the server quit or close its queue, and the one who waits for its end. `Thread.move` says what
each of them does next, one atomic step at a time.

* `Acceptor` takes what the input offers, counts a connection, publishes its conversion and then its
  middleware, and goes on until the server quits or the queue turns out to be closed;
* `Dispatcher` takes envelopes from the queue in order and hands each to a worker, which takes two
  steps: it sees whether the workers still take envelopes, and then it counts the envelope as being
  executed. An envelope that the workers do not take is discarded;
* `Quitter` flips the switch of the server, and unless the connections under way are to be
  completed, it closes the workers and the queue;
* `Joiner` waits for the accept loop to end and, if the connections under way are to be completed,
  until it has twice seen that nothing is in the queue and nothing is being executed, or the grace
  is over; then it closes the workers and the queue.
-/

namespace Switchboard

/-! ### Who there is -/

/-- The accept loop. -/
inductive Acceptor where
  /-- It is about to see whether the server quits. -/
  | looping
  /-- It waits for what the input offers. -/
  | listening
  /-- It publishes an event of a connection; these are to follow. -/
  | publishing (p : Publisher Event) (next : List Event)
  deriving DecidableEq, Repr

/-- The dispatcher. -/
inductive Dispatcher where
  | consuming (c : Consumer Event)
  /-- It has seen that the workers take envelopes. -/
  | admitted (e : Envelope Event)
  deriving DecidableEq, Repr

/-- Someone who makes the server quit. -/
inductive Quitter where
  /-- About to flip the switch. -/
  | flipping
  /-- About to close the workers. -/
  | stopping
  deriving DecidableEq, Repr

/-- Someone who waits for the end of the server. -/
inductive Joiner where
  /-- Waiting for the accept loop to end. -/
  | waiting
  /-- About to see whether something is in the queue; `again` says that nothing was to be seen
  before. -/
  | looking (again : Bool)
  /-- Nothing was in the queue: about to see whether something is being executed. -/
  | counting (again : Bool)
  /-- Twice there was nothing. -/
  | satisfied
  /-- About to close the workers. -/
  | stopping
  | closing (c : Closer Event)
  deriving DecidableEq, Repr

/-- A thread. -/
inductive Thread where
  | acceptor (a : Acceptor)
  | dispatcher (d : Dispatcher)
  | task (t : Task)
  /-- The blocking work of a task that was cancelled. -/
  | leftOver (e : Event)
  | quitter (q : Quitter)
  | closer (c : Closer Event)
  | joiner (j : Joiner)
  deriving DecidableEq, Repr

namespace Pipeline

/-- A move after which a thread goes on. -/
def goOn (p : Pipeline) (t : Thread) : Option (Move Pipeline Thread) := Move.goOn p t

/-- A move after which a thread has ended. -/
def leave (p : Pipeline) : Option (Move Pipeline Thread) := Move.leave p

/-! ### The accept loop -/

/-- Enters a connection; the answer is its number. -/
def enter (p : Pipeline) (output : Output) : Pipeline × Nat :=
  let (ledger, connection) := p.ledger.enter { output }
  ({ p with ledger }.count .accepted, connection)

/-- The accept loop takes what the input offers next. When there is nothing, it looks around now
and then whether the server quits. -/
def accept (p : Pipeline) : Option (Move Pipeline Thread) :=
  match p.incoming with
  | [] => if p.quit.quitting then p.goOn (.acceptor .looping) else none
  | .fault :: incoming => ({ p with incoming }.count .acceptError).goOn (.acceptor .looping)
  | .connection output ending binding latch :: incoming =>
    -- the connection counts as accepted before anything is published for it
    let (p, connection) := { p with incoming }.enter output
    let job : Job := { connection, ending, binding, latch }
    p.goOn (.acceptor (.publishing (.waiting (p.queue.envelope (.conversion job)))
      [.middleware connection]))

/-- The move of the accept loop. When an event is refused, the connection is dropped. -/
def moveAcceptor (p : Pipeline) : Acceptor → Option (Move Pipeline Thread)
  | .looping =>
    if p.quit.quitting then { p with acceptEnded := true }.leave
    else p.goOn (.acceptor .listening)
  | .listening => p.accept
  | .publishing .published [] => p.goOn (.acceptor .looping)
  | .publishing .published (e :: next) =>
    p.goOn (.acceptor (.publishing (.waiting (p.queue.envelope e)) next))
  | .publishing (.refused e _) next =>
    -- only a closed queue refuses someone who waits
    { (e.event :: next).foldl release p with acceptEnded := true }.leave
  | .publishing publisher next =>
    (publisher.step p.queue.ring).bind fun (ring, publisher) =>
      (p.withRing ring).goOn (.acceptor (.publishing publisher next))

/-! ### The dispatcher -/

/-- The move of the dispatcher. -/
def moveDispatcher (p : Pipeline) : Dispatcher → Option (Move Pipeline Thread)
  | .consuming (.holding e) =>
    -- an envelope in the hands of the dispatcher is neither queued nor in flight
    if p.accepting then p.goOn (.dispatcher (.admitted e))
    else (p.discard e .abandoned).goOn (.dispatcher (.consuming .checking))
  | .consuming .finished => p.leave
  | .consuming c => (c.step p.queue.ring).bind fun (ring, c) =>
    (p.withRing ring).goOn (.dispatcher (.consuming c))
  | .admitted e =>
    Move.start { p with inFlight := p.inFlight + 1 } (.dispatcher (.consuming .checking))
      (.task (.ofEnvelope e))

/-! ### Closing -/

/-- The move of someone who closes the queue; `self` is the thread with another state of that. What
was drained is discarded, one envelope after the other. -/
def moveCloser (p : Pipeline) (self : Closer Event → Thread) :
    Closer Event → Option (Move Pipeline Thread)
  | .drained [] => p.leave
  | .drained (e :: left) => (p.discard e .abandoned).goOn (self (.drained left))
  | c => (c.step p.queue.ring).bind fun (ring, c) => (p.withRing ring).goOn (self c)

/-- The move of someone who makes the server quit. -/
def moveQuitter (p : Pipeline) : Quitter → Option (Move Pipeline Thread)
  | .flipping =>
    match p.quit.set true with
    | (quit, true) =>
      let p := { p with quit }
      if p.drain = .abandon then p.goOn (.quitter .stopping) else p.leave
    | (_, false) => p.leave
  | .stopping => { p with accepting := false }.goOn (.closer .marking)

/-- The move of someone who waits for the end of the server. -/
def moveJoiner (p : Pipeline) (i : Chance) : Joiner → Option (Move Pipeline Thread)
  | .waiting =>
    if p.acceptEnded then
      p.goOn (.joiner (if p.drain = .complete then .looking false else .stopping))
    else none
  | .looking again =>
    if p.queue.length = 0 then p.goOn (.joiner (.counting again))
    else if i.graceOver then p.goOn (.joiner .stopping)
    else if again then p.goOn (.joiner (.looking false))
    else none
  | .counting again =>
    -- the dispatcher may have taken an envelope since the queue was looked at
    if p.inFlight = 0 then p.goOn (.joiner (if again then .satisfied else .looking true))
    else if i.graceOver then p.goOn (.joiner .stopping)
    else if again || i.delayOver then p.goOn (.joiner (.looking false))
    else none
  | .satisfied => p.goOn (.joiner .stopping)
  | .stopping => { p with accepting := false }.goOn (.joiner (.closing .marking))
  | .closing c => p.moveCloser (fun c => .joiner (.closing c)) c

end Pipeline

namespace Thread

/-- The move of a thread. -/
def move : Program Chance Pipeline Thread := fun i p t =>
  match t with
  | .acceptor a => p.moveAcceptor a
  | .dispatcher d => p.moveDispatcher d
  | .task t => (t.step p i).map fun (p, t) => { shared := p, self := t.map .task }
  | .leftOver e => (p.finish? e).bind Pipeline.leave
  | .quitter q => p.moveQuitter q
  | .closer c => p.moveCloser .closer c
  | .joiner j => p.moveJoiner i j

/-- Ends a thread where it stands. What it owns is dropped, but for blocking work under way, which
is left over; those who only wait for the end of the server are not concerned. -/
def cancel (p : Pipeline) : Thread → Pipeline × List Thread
  | .task t =>
    let (p, left) := t.cancel p
    (p, left.toList.map .leftOver)
  | .dispatcher (.consuming (.holding e)) | .dispatcher (.admitted e) => (p.release e.event, [])
  | .dispatcher _ => (p, [])
  | t => (p, [t])

end Thread

end Switchboard
