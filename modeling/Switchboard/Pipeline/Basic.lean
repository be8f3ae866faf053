import Switchboard.Access.Gate
import Switchboard.Counters
import Switchboard.Pipeline.Ledger
import Switchboard.Queue.EventQueue
import Switchboard.Route
import Switchboard.Shutdown.Switch

/-!
# The pipeline

What all threads of a server share: how to drain, the access gate and how to ask it, the handlers
with the memory of routes, the counters, the quit switch, the event queue, the ledger of
connections, and what the input offers. `notes` is everything that observers were told, in order.

Some jobs and handlers wait for a latch; `released` are the latches that let them go on, and
`begun` are the latches that were reached.
-/

namespace Switchboard

/-- What the input offers. -/
inductive Arrival where
  /-- A connection: its output, how its conversion will end, when that binds the reply, and the
  latch it waits for. -/
  | connection (output : Output) (ending : JobEnd) (binding : Binding) (latch : Option String)
  /-- Accepting fails. -/
  | fault

/-- The state that the threads share. -/
structure Pipeline where
  drain : Drain := .abandon
  reverseLookup : Bool := false
  caseSensitive : Bool := false
  gate : Gate
  roster : Roster
  memo : RouteMemo
  counters : Counters := {}
  quit : Switch := {}
  queue : EventQueue Event
  ledger : Ledger := []
  notes : List Note := []
  released : List String := []
  begun : List String := []
  /-- What the input still offers. -/
  incoming : List Arrival := []
  /-- The accept loop has ended. -/
  acceptEnded : Bool := false
  /-- The workers take envelopes. -/
  accepting : Bool := true
  /-- How many envelopes are being executed. -/
  inFlight : Nat := 0

namespace Pipeline

/-- The pipeline of settings, around a gate, a roster and a queue. -/
def ofSettings (s : Settings) (gate : Gate) (roster : Roster) (queue : EventQueue Event) :
    Pipeline where
  drain := s.queue.drain
  reverseLookup := s.access.reverseLookup
  caseSensitive := s.access.caseSensitive
  gate
  roster
  memo := .ofCapacity s.routing.memoCapacity.toNat
  queue

/-- Whether a stage that waits has to give up. -/
def shouldAbandon (p : Pipeline) : Bool := p.quit.quitting && p.drain == .abandon

/-- Counts something. -/
def count (p : Pipeline) (c : Counter) : Pipeline := { p with counters := p.counters.bump c }

/-- Changes the line of a connection. -/
def change (p : Pipeline) (connection : Nat) (f : Line → Line) : Pipeline :=
  { p with ledger := p.ledger.change connection f }

/-- Lets go of an event. -/
def release (p : Pipeline) (e : Event) : Pipeline := { p with ledger := p.ledger.release e }

/-- Publishes an envelope without waiting; a refused envelope is dropped with its event. -/
def publish (p : Pipeline) (e : Envelope Event) : Pipeline × Except QueueError Unit :=
  match p.queue.publishEnvelope e with
  | .ok queue => ({ p with queue }, .ok ())
  | .error err => (p.release e.event, .error err)

/-- Tells observers an outcome. -/
def tell (p : Pipeline) (kind : EventKind) (observers : List Observer) (outcome : Outcome) :
    Pipeline :=
  { p with notes := p.notes ++ notify kind outcome observers }

/-- Discards an envelope: its event is dropped, and then its observers are told. -/
def discard (p : Pipeline) (e : Envelope Event) (outcome : Outcome) : Pipeline :=
  (p.release e.event).tell e.kind e.observers outcome

/-- Closes the queue and discards what is left in it. -/
def closeQueue (p : Pipeline) : Pipeline × Nat :=
  let (queue, left) := p.queue.close
  (left.foldl (fun p e => p.discard e .abandoned) { p with queue }, left.length)

/-- Puts another ring in the place of the queue's. -/
def withRing (p : Pipeline) (ring : Ring Event) : Pipeline :=
  { p with queue := { p.queue with ring } }

/-- Whether a latch is still closed. -/
def isHeld (p : Pipeline) : Option String → Bool
  | some key => !p.released.contains key
  | none => false

/-- A latch is reached. -/
def reach (p : Pipeline) : Option String → Pipeline
  | some key => if p.begun.contains key then p else { p with begun := p.begun ++ [key] }
  | none => p

end Pipeline

end Switchboard
