import Switchboard.Pipeline.Basic

/-!
# The stages

What executing an event does. A stage either has to wait, or begins blocking work, or has a
following event to publish, or ends in an outcome, or dies of a panic that is not a handler's.
Every stage answers for what its event owns: a reply that it does not pass on is closed.

* `Pipeline.execute` begins to execute an event;
* `Pipeline.resume` goes on with an event whose blocking work has begun, once that can be
  finished.
-/

namespace Switchboard

/-- What executing an event depends on besides the pipeline, and the moves of other threads as
well: the times that a decision of the gate reads, whether a thread that waits has waited for long
enough to look around again, and whether the grace of the shutdown is over. -/
structure Chance where
  moments : Moments := {}
  delayOver : Bool := false
  graceOver : Bool := false
  deriving DecidableEq, Repr

/-- What executing an event comes to. -/
inductive Progress where
  /-- It cannot go on now. -/
  | waits
  /-- Its blocking work has begun, or its wait. -/
  | works
  /-- It has waited in vain and begins anew. -/
  | beginsAnew
  /-- The next stage, to be published. -/
  | publishes (e : Event)
  | ends (o : Outcome)
  /-- It panicked: nobody is told. -/
  | dies
  deriving Repr

namespace Pipeline

/-- The conversion: runs the job and hands the result over. A failure is counted whether or not
somebody waits for it. -/
def convert (p : Pipeline) (job : Job) : Pipeline × Progress :=
  if p.isHeld job.latch then (p, .waits)
  else
    let (ledger, result) := p.ledger.runJob job
    let p := { p with ledger }
    let (p, outcome) : Pipeline × Outcome := match result with
      | .ok _ => (p, .forwarded)
      | .error _ => (p.count .conversionFailure, .malformed)
    match (p.ledger.line job.connection).handOver with
    -- the waiter has left, and what was converted is dropped
    | .noReceiver => ({ p with ledger := p.ledger.dropConversion result }, .ends .abandoned)
    | _ =>
      (p.change job.connection fun l => { l with handOver := .ready result }, .ends outcome)

/-- A connection is given up for the shutdown. -/
def abandon (p : Pipeline) (e : Event) : Pipeline × Progress :=
  ((p.release e).count .abandoned, .ends .abandoned)

/-- A connection is answered with the error answer and closed. -/
def turnDown (p : Pipeline) (connection : Nat) : Pipeline :=
  (p.change connection Line.refuse).change connection Line.close

/-- The middleware, once it has an exchange: asks the gate. -/
def consult (p : Pipeline) (t : Moments) (x : Exchange) : Pipeline × Progress :=
  match p.gate.allow t x.request.source p.reverseLookup p.caseSensitive with
  | (gate, true) => ({ p with gate }, .publishes (.dispatch x))
  | (gate, false) =>
    (({ p with gate }.count .denied).turnDown x.connection, .ends .denied)

/-- The middleware begins to wait for the conversion, unless the shutdown makes it give up. -/
def await (p : Pipeline) (connection : Nat) : Pipeline × Progress :=
  if p.shouldAbandon then p.abandon (.middleware connection) else (p, .works)

/-- The middleware: waits for the conversion, and now and then looks around whether it has to give
up. -/
def receive (p : Pipeline) (i : Chance) (connection : Nat) : Pipeline × Progress :=
  match (p.ledger.line connection).handOver with
  | .awaited => (p, if i.delayOver || p.shouldAbandon then .beginsAnew else .waits)
  | .noSender | .noReceiver => p.abandon (.middleware connection)
  | .ready (.error e) =>
    let p := p.change connection Line.leave
    ({ p with ledger := p.ledger.dropReply e.reply }, .ends .malformed)
  | .ready (.ok x) => (p.change connection Line.leave).consult i.moments x

/-- The dispatch: finds the command of the path, or else takes the default, and takes an instance
of its handler. -/
def dispatch (p : Pipeline) (x : Exchange) : Pipeline × Progress :=
  let (memo, found) := p.memo.resolve p.roster x.request.path
  let command := found.getD defaultCommand
  let (roster, taken) := p.roster.take command
  let p := { p with memo, roster }
  match taken with
  -- without the default there may be nothing at all
  | .unserved => ((p.count .unrouted).turnDown x.connection, .ends .unrouted)
  | .panicked => (p.release (.dispatch x), .dies)
  | .handed i =>
    let x := { x with request := { x.request with command := some command } }
    (p.count .dispatched, .publishes (.handler x i))

/-- The latch that the handler of an instance waits for. -/
def latchOf (p : Pipeline) (i : Instance) : Option String :=
  (p.roster.templates[i.template]?).bind fun t => t.1.latch

/-- What a handler came to is sent over the connection, which is then closed. -/
def answer (p : Pipeline) (connection : Nat) : HandlerEnd → Pipeline
  | .answered r => (p.change connection fun l => l.respond r).change connection Line.close
  | .failed _ => p.turnDown connection
  | .panicked _ => p.change connection Line.close

/-- The handler: runs the instance and answers. -/
def handle (p : Pipeline) (x : Exchange) (i : Instance) : Pipeline × Progress :=
  if p.isHeld (p.latchOf i) then (p, .waits)
  else
    let e := (p.roster.run i x.request).2
    let p := p.answer x.connection e
    match e with
    | .answered _ => (p.count .completed, .ends .completed)
    | .failed e => (p.count .handlerFailure, .ends (.failed e.message))
    | .panicked payload => (p.count .handlerPanic, .ends (.panicked payload.message))

/-- Begins to execute an event. -/
def execute (p : Pipeline) : Event → Pipeline × Progress
  | .noop => (p, .ends .noop)
  | .conversion job => (p.reach job.latch, .works)
  | .middleware connection => p.await connection
  | .dispatch x => p.dispatch x
  | .handler _ i => (p.reach (p.latchOf i), .works)

/-- Goes on with an event whose blocking work or wait has begun. -/
def resume (p : Pipeline) (i : Chance) : Event → Pipeline × Progress
  | .conversion job => p.convert job
  | .middleware connection => p.receive i connection
  | .handler x i => p.handle x i
  | _ => (p, .waits)

/-- Finishes blocking work for which nobody waits any more, if it can be finished. The result of a
conversion is dropped. -/
def finish? (p : Pipeline) : Event → Option Pipeline
  | .conversion job =>
    if p.isHeld job.latch then none
    else
      let (ledger, result) := p.ledger.runJob job
      some { p with ledger := ledger.dropConversion result }
  | .handler x i =>
    if p.isHeld (p.latchOf i) then none
    else some (p.answer x.connection (p.roster.run i x.request).2)
  | e => some (p.release e)

end Pipeline

end Switchboard
