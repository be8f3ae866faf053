import Switchboard.Queue.Ring

/-!
# The parties of a ring

The threads that work with a ring, each as far as it has come: publishers, the one consumer, and
those who close the ring. `Publisher.step`, `Consumer.step` and `Closer.step` are their atomic
steps; there is none while a party has to wait, and none when it is through.
-/

namespace Switchboard

variable {ε : Type} [Payload ε]

/-! ### Publishing -/

/-- A publisher. -/
inductive Publisher (ε : Type) where
  /-- It wants a permit. -/
  | waiting (e : Envelope ε)
  /-- It has a permit and wants a sequence number. -/
  | permitted (e : Envelope ε)
  /-- It is about to fill the slot of its sequence number. -/
  | claimed (e : Envelope ε) (sequence : Nat)
  /-- It has filled a slot and is about to notify the consumer. -/
  | written
  | published
  /-- The envelope is not published and goes back to whoever wanted it published. -/
  | refused (e : Envelope ε) (error : QueueError)
  deriving DecidableEq, Repr

namespace Publisher

/-- A step of a publisher, who waits while there is no permit. -/
def step (r : Ring ε) : Publisher ε → Option (Ring ε × Publisher ε)
  | waiting e =>
    match r.acquire with
    | .ok r => some (r, permitted e)
    | .error .full => none
    | .error error => some (r, refused e error)
  | permitted e =>
    let (r, sequence) := r.claim
    some (r, claimed e sequence)
  | claimed e sequence => some (r.write sequence e, written)
  | written => some (r.notify, published)
  | published => none
  | refused _ _ => none

end Publisher

/-! ### Consuming -/

/-- The consumer. -/
inductive Consumer (ε : Type) where
  /-- It is about to see whether the ring is closed. -/
  | checking
  /-- It is about to look for an envelope. -/
  | trying
  /-- It has found none and is about to wait for a notification. -/
  | listening
  /-- It waits for a notification. -/
  | parked
  | holding (e : Envelope ε)
  /-- The ring is closed. -/
  | finished
  deriving DecidableEq, Repr

namespace Consumer

/-- A step of the consumer. What it does with an envelope is not for the ring to say. -/
def step (r : Ring ε) : Consumer ε → Option (Ring ε × Consumer ε)
  | checking => some (r, if r.closed then finished else trying)
  | trying =>
    match r.tryNext with
    | (r, some e) => some (r, holding e)
    | (r, none) => some (r, listening)
  | listening =>
    match r.await with
    | (r, true) => some (r, checking)
    | (r, false) => some (r, parked)
  | parked => if r.parked then none else some (r, checking)
  | holding _ => none
  | finished => none

end Consumer

/-! ### Closing -/

/-- Someone who closes the ring and takes what is left in it. -/
inductive Closer (ε : Type) where
  /-- It is about to mark the ring as closed. -/
  | marking
  /-- It is the first to close the ring, and about to see to it that no permit is handed out. -/
  | sealing
  /-- It is about to notify the consumer. -/
  | notifying
  /-- It takes envelopes; these it has taken. -/
  | draining (taken : List (Envelope ε))
  /-- It has found no more, and is left with these. -/
  | drained (taken : List (Envelope ε))
  deriving DecidableEq, Repr

namespace Closer

/-- A step of someone who closes the ring. -/
def step (r : Ring ε) : Closer ε → Option (Ring ε × Closer ε)
  | marking =>
    match r.markClosed with
    | (r, true) => some (r, sealing)
    | (r, false) => some (r, draining [])
  | sealing => some (r.closePermits, notifying)
  | notifying => some (r.notify, draining [])
  | draining taken =>
    match r.tryNext with
    | (r, some e) => some (r, draining (taken ++ [e]))
    | (r, none) => some (r, drained taken)
  | drained _ => none

end Closer

end Switchboard
