import Switchboard.Pipeline.Thread

/-!
# The engine

The pipeline together with the threads that work on it. Requests from outside act on the pipeline
at once; `Engine.settle` then lets the threads move in turn until nobody can.
-/

namespace Switchboard

/-- The pipeline and its threads. -/
abbrev Engine := Crowd Pipeline Thread

namespace Engine

/-- A pipeline on which nobody works yet. -/
def ofPipeline (p : Pipeline) : Engine := { shared := p }

/-! ### Views -/

/-- The pipeline. -/
def pipeline (g : Engine) : Pipeline := g.shared

/-- How many envelopes are being executed. -/
def inFlight (g : Engine) : Nat := g.pipeline.inFlight

/-- How many envelopes are in the queue. -/
def queued (g : Engine) : Nat := g.pipeline.queue.length

/-! ### Requests from outside -/

/-- Changes the pipeline. -/
def modify (g : Engine) (f : Pipeline → Pipeline) : Engine := { g with shared := f g.shared }

/-- One more thread. -/
def add (g : Engine) (t : Thread) : Engine := { g with threads := g.threads ++ [t] }

/-- Starts the dispatcher. -/
def start (g : Engine) : Engine := g.add (.dispatcher (.consuming .checking))

/-- The workers take nothing more. -/
def stopAccepting (g : Engine) : Engine := g.modify fun p => { p with accepting := false }

/-- Gives an envelope to a worker. The answer is whether it was taken. -/
def execute (g : Engine) (e : Envelope Event) : Engine × Bool :=
  if g.pipeline.accepting then
    ((g.modify fun p => { p with inFlight := p.inFlight + 1 }).add (.task (.ofEnvelope e)), true)
  else (g.modify fun p => p.discard e .abandoned, false)

/-- Closes the queue, which wakes the dispatcher; the answer is how much was left in it. -/
def closeQueue (g : Engine) : Engine × Nat :=
  let (p, n) := g.pipeline.closeQueue
  ({ g with shared := p }, n)

/-- Publishes an envelope without waiting. -/
def publish (g : Engine) (e : Envelope Event) : Engine × Except QueueError Unit :=
  let (p, result) := g.pipeline.publish e
  ({ g with shared := p }, result)

/-! ### Running -/

/-- A bound on the rounds in which somebody moves: an envelope goes through the hands of the
dispatcher and of a worker, at most three others follow it, and what the input offers brings
two. -/
def patience (g : Engine) : Nat :=
  100 * (g.queued + g.threads.length + 2 * g.pipeline.incoming.length + 2)

/-- Lets the threads move in turn until nobody can. -/
def settle (g : Engine) (i : Chance := {}) : Engine := Crowd.settle Thread.move i g.patience g

/-- Publishes an envelope; while the queue is full the threads are given the time to make room. -/
def publishWaiting (g : Engine) (e : Envelope Event) : Engine × Except QueueError Unit :=
  match g.pipeline.queue.publishEnvelope e with
  | .error .full => g.settle.publish e
  | _ => g.publish e

/-- Cancels the threads that have to be. -/
def cancelAll (p : Pipeline) : List Thread → Engine
  | [] => .ofPipeline p
  | t :: ts =>
    let (p, left) := t.cancel p
    let g := cancelAll p ts
    { g with threads := left ++ g.threads }

/-- Ends all workers after they had the time to finish. -/
def shutdown (g : Engine) : Engine :=
  let g := g.settle.stopAccepting
  cancelAll g.shared g.threads

end Engine

end Switchboard
