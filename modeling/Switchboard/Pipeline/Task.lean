import Switchboard.Pipeline.Stage
import Switchboard.Queue.Parties

/-!
# Tasks

A task is an envelope that a worker executes. It runs the event, which may be blocking work,
publishes the stage that follows, waiting while the queue is full, and at the end tells the
observers. `Task.step` is one step of a task; `Task.advance` goes on until the task ends or has to
wait.

A task may also be cancelled when the workers end. Blocking work that has begun cannot be stopped:
it is finished all the same, but nobody is told.
-/

namespace Switchboard

/-- How far a task is. -/
inductive Phase where
  | running
  /-- The blocking work of the event is under way, or its wait. -/
  | working
  /-- The next stage is being published. -/
  | publishing (p : Publisher Event)
  | ended (o : Outcome)
  deriving DecidableEq, Repr

/-- An envelope under execution. -/
structure Task where
  event : Event
  observers : List Observer
  phase : Phase := .running
  deriving DecidableEq, Repr

namespace Task

/-- The task of an envelope. -/
def ofEnvelope (e : Envelope Event) : Task where
  event := e.event
  observers := e.observers

/-- What the progress of the event means for the task. A task that dies tells nobody. -/
def proceed (t : Task) (p : Pipeline) : Progress → Option (Pipeline × Option Task)
  | .waits => none
  | .works => some (p, some { t with phase := .working })
  | .beginsAnew => some (p, some { t with phase := .running })
  | .publishes e => some (p, some { t with phase := .publishing (.waiting (p.queue.envelope e)) })
  | .ends o => some (p, some { t with phase := .ended o })
  | .dies => some ({ p with inFlight := p.inFlight - 1 }, none)

/-- A step of publishing the next stage. A stage that is refused is dropped, which is counted. -/
def publish (t : Task) (p : Pipeline) : Publisher Event → Option (Pipeline × Option Task)
  | .published => some (p, some { t with phase := .ended .forwarded })
  | .refused e _ =>
    some ((p.release e.event).count .abandoned, some { t with phase := .ended .abandoned })
  | publisher => (publisher.step p.queue.ring).map fun (ring, publisher) =>
    (p.withRing ring, some { t with phase := .publishing publisher })

/-- A step of a task, and what has become of the task unless it is over; nothing if it has to
wait. -/
def step (t : Task) (p : Pipeline) (i : Chance) : Option (Pipeline × Option Task) :=
  match t.phase with
  | .running => let (p, progress) := p.execute t.event; t.proceed p progress
  | .working => let (p, progress) := p.resume i t.event; t.proceed p progress
  | .publishing publisher => t.publish p publisher
  | .ended o =>
    some ({ p.tell t.event.kind t.observers o with inFlight := p.inFlight - 1 }, none)

/-- The outcome of a task that has come to its end. -/
def outcome? (t : Task) : Option Outcome :=
  match t.phase with
  | .ended o => some o
  | _ => none

/-- Goes on for at most so many steps. -/
def advanceBy (t : Task) (p : Pipeline) (i : Chance) :
    Nat → Pipeline × Option Task × Option Outcome
  | 0 => (p, some t, none)
  | n + 1 =>
    match t.step p i with
    | none => (p, some t, none)
    | some (p, none) => (p, none, t.outcome?)
    | some (p, some t) => advanceBy t p i n

/-- Goes on until the task ends or has to wait: it runs, works, takes five steps to publish, and
tells. The answer is the task if it has to wait, and the outcome if it has one. -/
def advance (t : Task) (p : Pipeline) (i : Chance) : Pipeline × Option Task × Option Outcome :=
  t.advanceBy p i 8

/-! ### Cancelling -/

/-- Drops what someone who publishes still has. -/
def dropPublication (p : Pipeline) : Publisher Event → Pipeline
  | .waiting e | .permitted e | .claimed e _ | .refused e _ => p.release e.event
  | .written | .published => p

/-- Cancels a task. What it owns is dropped, but for blocking work under way, which is left
over. -/
def cancel (t : Task) (p : Pipeline) : Pipeline × Option Event :=
  let p := { p with inFlight := p.inFlight - 1 }
  match t.phase, t.event with
  | .running, e => (p.release e, none)
  | .working, .conversion job => (p.change job.connection Line.forsake, some (.conversion job))
  | .working, .middleware connection => (p.release (.middleware connection), none)
  | .working, e => (p, some e)
  | .publishing publisher, _ => (dropPublication p publisher, none)
  | .ended _, _ => (p, none)

end Task

end Switchboard
