import Switchboard.Interleaving
import Switchboard.Queue.EventQueue
import Switchboard.Queue.Parties

/-!
# The traffic of a queue

Publishers, a consumer and closers at one queue, and what came of their work: which envelope was
written under each sequence number, which were taken and in which order, how many publications
succeeded, and what observers were told of the envelopes that were discarded.
-/

namespace Switchboard

/-- A queue and the record of what happened to it. -/
structure Traffic (ε : Type) where
  queue : EventQueue ε
  /-- The envelopes that were written, with their sequence numbers, in the order of writing. -/
  written : List (Nat × Envelope ε) := []
  /-- The envelopes that were taken, with their sequence numbers, in the order of taking. -/
  taken : List (Nat × Envelope ε) := []
  /-- The envelopes that the consumer took. -/
  consumed : List (Envelope ε) := []
  /-- The envelopes that were discarded. -/
  discarded : List (Envelope ε) := []
  /-- What observers of discarded envelopes were told. -/
  notes : List Note := []

/-- Someone who works with a queue. -/
inductive Party (ε : Type) where
  | publisher (p : Publisher ε)
  /-- Someone who wants an envelope published if there is room for it right away. -/
  | attempt (e : Envelope ε)
  | consumer (c : Consumer ε)
  | closer (c : Closer ε)
  deriving DecidableEq, Repr

namespace Traffic

variable {ε : Type} [Payload ε]

/-- The ring of the queue. -/
def ring (t : Traffic ε) : Ring ε := t.queue.ring

/-- Puts another ring in place. -/
def withRing (t : Traffic ε) (r : Ring ε) : Traffic ε :=
  { t with queue := { t.queue with ring := r } }

/-! ### The record -/

/-- Records what a publisher is about to write. -/
def recordWrite (t : Traffic ε) : Publisher ε → Traffic ε
  | .claimed e sequence => { t with written := t.written ++ [(sequence, e)] }
  | _ => t

/-- Records the envelope that the next look at the ring takes, if it takes one. -/
def recordTake (t : Traffic ε) : Traffic ε :=
  match t.ring.tryNext.2 with
  | some e => { t with taken := t.taken ++ [(t.ring.nextRead, e)] }
  | none => t

/-- Records what the consumer is about to do. -/
def recordConsumer (t : Traffic ε) : Consumer ε → Traffic ε
  | .trying => t.recordTake
  | .holding e => { t with consumed := t.consumed ++ [e] }
  | _ => t

/-- Records what someone who closes is about to do. -/
def recordCloser (t : Traffic ε) : Closer ε → Traffic ε
  | .draining _ => t.recordTake
  | .drained (e :: _) =>
    { t with discarded := t.discarded ++ [e], notes := t.notes ++ e.notes .abandoned }
  | _ => t

/-! ### Moves -/

/-- The move of a party. Who does not wait for room is turned away by a full ring as by a closed
one, and is a publisher like the others once it has a permit. The consumer is through with an
envelope as soon as it holds it, and someone who closes discards what was drained, one envelope
after the other. -/
def move : Program Unit (Traffic ε) (Party ε) := fun _ t party =>
  match party with
  | .publisher p => (p.step t.ring).map fun (r, after) =>
    { shared := (t.recordWrite p).withRing r, self := some (.publisher after) }
  | .attempt e =>
    match t.ring.acquire with
    | .ok r => Move.goOn (t.withRing r) (.publisher (.permitted e))
    | .error error => Move.goOn t (.publisher (.refused e error))
  | .consumer (.holding e) => Move.goOn (t.recordConsumer (.holding e)) (.consumer .checking)
  | .consumer c => (c.step t.ring).map fun (r, after) =>
    { shared := (t.recordConsumer c).withRing r, self := some (.consumer after) }
  | .closer (.drained []) => none
  | .closer (.drained (e :: left)) =>
    Move.goOn (t.recordCloser (.drained (e :: left))) (.closer (.drained left))
  | .closer c => (c.step t.ring).map fun (r, after) =>
    { shared := (t.recordCloser c).withRing r, self := some (.closer after) }

end Traffic

end Switchboard
