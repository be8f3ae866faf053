import Switchboard.PowerOfTwo
import Switchboard.Queue.Envelope

/-!
# The ring

A bounded queue of envelopes. The slots are used round and round: the envelope of a sequence number
lies in the slot of that number modulo the capacity, which is a power of two. Free slots are counted
by permits. Publishers and the consumer may be different threads, so publishing is a sequence of
atomic steps:

* `acquire` takes a permit, or says that there is none or that the ring was closed;
* `claim` draws the next sequence number;
* `write` fills the slot of that number;
* `notify` wakes the consumer, or stores one notification for it.

`tryNext` is one step, since the consumer holds the cursor meanwhile. Closing is the steps
`markClosed`, `closePermits` and `notify`. `Ring.tryPublish`, `Ring.next`, `Ring.close` and
`Ring.drain` run the steps back to back.
-/

namespace Switchboard

/-- Why an envelope was not published, or a ring not made. -/
inductive QueueError where
  | full
  | closed
  | invalidCapacity (capacity : Nat)
  deriving DecidableEq, Repr

namespace QueueError

/-- What is wrong, in words. -/
def message : QueueError → String
  | full => "event queue is full"
  | closed => "event queue is closed"
  | invalidCapacity n => "queue capacity must be a power of two, got " ++ toString n

end QueueError

/-- A slot: an envelope and whether it waits to be taken. -/
structure Slot (ε : Type) where
  envelope : Envelope ε
  filled : Bool := false
  deriving DecidableEq, Repr

/-- The ring. -/
structure Ring (ε : Type) where
  slots : Array (Slot ε)
  /-- The number of permits that are left. -/
  free : Nat
  /-- No permit is handed out any more. -/
  permitsClosed : Bool := false
  /-- The next sequence number to be written. -/
  nextWrite : Nat := 0
  /-- The next sequence number to be taken. -/
  nextRead : Nat := 0
  closed : Bool := false
  /-- A notification is stored for the consumer. -/
  notified : Bool := false
  /-- The consumer waits for a notification. -/
  parked : Bool := false
  deriving DecidableEq, Repr

namespace Ring

variable {ε : Type} [Payload ε]

/-- A ring of so many slots. -/
def ofCapacity (capacity : Nat) : Except QueueError (Ring ε) :=
  if isPowerOfTwo capacity then
    .ok { slots := Array.replicate capacity { envelope := .empty }, free := capacity }
  else .error (.invalidCapacity capacity)

instance : Inhabited (Ring ε) := ⟨{ slots := #[], free := 0 }⟩

/-! ### Views -/

/-- The number of slots. -/
def capacity (r : Ring ε) : Nat := r.slots.size

/-- The number of slots that are claimed and not yet taken. -/
def length (r : Ring ε) : Nat := r.capacity - r.free

/-- Whether no slot is claimed. -/
def isEmpty (r : Ring ε) : Bool := r.length == 0

/-- The slot of a sequence number. -/
def index (r : Ring ε) (sequence : Nat) : Nat := sequence % r.capacity

/-! ### Atomic steps of publishing -/

/-- Takes a permit. -/
def acquire (r : Ring ε) : Except QueueError (Ring ε) :=
  if r.permitsClosed then .error .closed
  else if r.free = 0 then .error .full
  else .ok { r with free := r.free - 1 }

/-- Draws a sequence number. -/
def claim (r : Ring ε) : Ring ε × Nat := ({ r with nextWrite := r.nextWrite + 1 }, r.nextWrite)

/-- Fills the slot of a sequence number. -/
def write (r : Ring ε) (sequence : Nat) (e : Envelope ε) : Ring ε :=
  { r with slots := r.slots.modify (r.index sequence) fun s =>
      { envelope := (s.envelope.become e).1, filled := true } }

/-- Wakes the consumer if it waits, else stores a notification. -/
def notify (r : Ring ε) : Ring ε :=
  if r.parked then { r with parked := false } else { r with notified := true }

/-! ### Steps of the consumer -/

/-- Takes the next envelope if it has been written. -/
def tryNext (r : Ring ε) : Ring ε × Option (Envelope ε) :=
  match r.slots[r.index r.nextRead]? with
  | none => (r, none)
  | some s =>
    if s.filled then
      let (left, taken) := s.envelope.take
      ({ r with
          slots := r.slots.setIfInBounds (r.index r.nextRead) { envelope := left, filled := false }
          nextRead := r.nextRead + 1
          free := r.free + 1 },
        some taken)
    else (r, none)

/-- Uses up a stored notification, or starts waiting for one. The answer tells whether there was
one. -/
def await (r : Ring ε) : Ring ε × Bool :=
  if r.notified then ({ r with notified := false }, true) else ({ r with parked := true }, false)

/-! ### Steps of closing -/

/-- Marks the ring as closed. The answer is whether it was open. -/
def markClosed (r : Ring ε) : Ring ε × Bool := ({ r with closed := true }, !r.closed)

/-- No permit is handed out from now on. -/
def closePermits (r : Ring ε) : Ring ε := { r with permitsClosed := true }

/-! ### Whole operations -/

/-- Publishes without waiting. -/
def tryPublish (r : Ring ε) (e : Envelope ε) : Except QueueError (Ring ε) :=
  match r.acquire with
  | .error err => .error err
  | .ok r =>
    let (r, sequence) := r.claim
    .ok (r.write sequence e).notify

/-- What the consumer finds. -/
inductive Next (ε : Type) where
  | item (e : Envelope ε)
  /-- The ring is closed; what is left in it is for `drain`. -/
  | finished
  /-- There is nothing, and the consumer has to wait. -/
  | waits
  deriving DecidableEq, Repr

/-- Looks for the next envelope; a stored notification is used up on the way. -/
def next (r : Ring ε) : Ring ε × Next ε :=
  if r.closed then (r, .finished)
  else
    match r.tryNext with
    | (r, some e) => (r, .item e)
    -- a notification of an envelope that was taken before wakes the consumer for nothing
    | (r, none) => ({ r with notified := false }, .waits)

/-- Closes the ring; closing again does nothing. -/
def close (r : Ring ε) : Ring ε :=
  match r.markClosed with
  | (r, true) => r.closePermits.notify
  -- somebody else has closed the ring or is about to
  | (r, false) => r

/-- Takes at most so many envelopes, until one is missing. -/
def drainUpTo (r : Ring ε) : Nat → Ring ε × List (Envelope ε)
  | 0 => (r, [])
  | n + 1 =>
    match r.tryNext with
    | (r, none) => (r, [])
    | (r, some e) =>
      let (r, es) := drainUpTo r n
      (r, e :: es)

/-- Takes every envelope that has been written: there are at most as many as slots. -/
def drain (r : Ring ε) : Ring ε × List (Envelope ε) := r.drainUpTo r.capacity

end Ring

end Switchboard
