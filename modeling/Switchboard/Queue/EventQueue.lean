import Switchboard.Queue.Ring

/-!
# The event queue

A ring together with the observers that every published envelope is given besides its own. Closing
the queue discards what was not consumed: each discarded envelope's observers are told that it was
abandoned, after its event was dropped.
-/

namespace Switchboard

/-- The queue. -/
structure EventQueue (ε : Type) where
  ring : Ring ε
  observers : List Observer := []
  deriving DecidableEq, Repr

namespace EventQueue

variable {ε : Type} [Payload ε]

/-- A queue of so many slots with default observers. -/
def ofCapacity (capacity : Nat) (observers : List Observer) : Except QueueError (EventQueue ε) :=
  (Ring.ofCapacity capacity).map fun ring => { ring, observers }

instance : Inhabited (EventQueue ε) := ⟨{ ring := default }⟩

/-- The number of envelopes in the queue. -/
def length (q : EventQueue ε) : Nat := q.ring.length

/-- Whether the queue is closed. -/
def isClosed (q : EventQueue ε) : Bool := q.ring.closed

/-- The envelope of an event, with the default observers. -/
def envelope (q : EventQueue ε) (event : ε) : Envelope ε := { event, observers := q.observers }

/-- Publishes an envelope, with the default observers after its own, without waiting. -/
def publishEnvelope (q : EventQueue ε) (e : Envelope ε) : Except QueueError (EventQueue ε) :=
  (q.ring.tryPublish (e.addObservers q.observers)).map fun ring => { q with ring }

/-- Looks for the next envelope. -/
def next (q : EventQueue ε) : EventQueue ε × Ring.Next ε :=
  let (ring, found) := q.ring.next
  ({ q with ring }, found)

/-- Takes the next envelope, also from a closed queue. -/
def tryNext (q : EventQueue ε) : EventQueue ε × Option (Envelope ε) :=
  let (ring, found) := q.ring.tryNext
  ({ q with ring }, found)

/-- Takes everything that is in the queue. -/
def drain (q : EventQueue ε) : EventQueue ε × List (Envelope ε) :=
  let (ring, left) := q.ring.drain
  ({ q with ring }, left)

/-- Closes the queue; the answer is what was left in it, to be discarded. -/
def close (q : EventQueue ε) : EventQueue ε × List (Envelope ε) :=
  let (ring, left) := q.ring.close.drain
  ({ q with ring }, left)

/-- What the observers of discarded envelopes are told. -/
def discardNotes (left : List (Envelope ε)) : List Note := left.flatMap (·.notes .abandoned)

end EventQueue

end Switchboard
