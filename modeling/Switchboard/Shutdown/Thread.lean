import Switchboard.Interleaving
import Switchboard.Shutdown.Lifecycle

/-!
# The threads of a lifecycle

Several threads register components with one lifecycle and request the shutdown, while the sweep
runs on a thread of its own. `Shutdown.move` says what each of them does next, one atomic step at
a time. The list of members is used under a lock; the switch is flipped and the sweep begins
without it.

What a component that is told to quit does with the lifecycle itself is left out here: every
component only minds its own state. A thread that is through stays where it is.
-/

namespace Switchboard

/-- A lifecycle that several threads use. -/
structure Shutdown where
  lifecycle : Lifecycle
  /-- Someone looks at the members. -/
  locked : Bool := false
  /-- The sweep has ended. -/
  swept : Bool := false
  deriving DecidableEq, Repr

namespace Shutdown

/-! ### Who there is -/

/-- Someone who registers a component. -/
inductive Enroller where
  /-- Waiting for the lock. -/
  | queueing
  /-- It has the lock: about to see whether the shutdown was requested. -/
  | asking
  /-- It was not: about to see whether the sweep has begun. -/
  | confirming
  /-- Neither: about to add the component to the members and to leave the lock. -/
  | joining
  /-- The shutdown was requested, and the lock was left: about to tell the component. -/
  | telling
  | enrolled
  deriving DecidableEq, Repr

/-- The sweep. -/
inductive Sweeper where
  /-- About to see whether it is the first sweep. -/
  | beginning
  /-- About to take the members, which needs the lock. -/
  | taking
  /-- These are to be told: about to see whether the first of them is quitting already. -/
  | looking (rest : List Nat)
  /-- About to tell the first of them. -/
  | telling (id : Nat) (rest : List Nat)
  | ended
  deriving DecidableEq, Repr

/-- Someone who requests the shutdown, or asks for it to be taken back; `block` says that the end of
the sweep is waited for. -/
inductive Requester where
  | asking (quit block : Bool)
  /-- It has flipped the switch: about to start the sweep. -/
  | starting (block : Bool)
  /-- The sweep could not be started: it runs the sweep itself. -/
  | sweeping (s : Sweeper)
  /-- Waiting for the sweep to end. -/
  | waiting
  | returned (flipped : Bool)
  deriving DecidableEq, Repr

/-- A thread. -/
inductive Thread where
  | enroller (id : Nat) (e : Enroller)
  | requester (r : Requester)
  | sweeper (s : Sweeper)
  /-- Someone who makes a component quit without the lifecycle. -/
  | loner (id : Nat)
  | through
  deriving DecidableEq, Repr

/-! ### What they do -/

/-- Tells a component to quit. -/
def tell (s : Shutdown) (id : Nat) : Shutdown :=
  { s with lifecycle := s.lifecycle.modify id (·.told true) }

/-- Whether a component is quitting. -/
def isQuitting (s : Shutdown) (id : Nat) : Bool :=
  match s.lifecycle.components[id]? with
  | some c => c.flag.quitting
  | none => false

/-- A step of registering a component. -/
def enroll (s : Shutdown) (id : Nat) : Enroller → Option (Shutdown × Enroller)
  | .queueing => if s.locked then none else some ({ s with locked := true }, .asking)
  | .asking =>
    if s.lifecycle.quitting then some ({ s with locked := false }, .telling)
    else some (s, .confirming)
  | .confirming =>
    -- from here on the switch may be flipped, but the sweep cannot take the members before the lock
    -- is left
    if s.lifecycle.ran then some ({ s with locked := false }, .telling) else some (s, .joining)
  | .joining =>
    some ({ s with
        locked := false
        lifecycle := { s.lifecycle with members := s.lifecycle.members ++ [id] } },
      .enrolled)
  | .telling => some (s.tell id, .enrolled)
  | .enrolled => none

/-- A step of the sweep. -/
def sweep (s : Shutdown) : Sweeper → Option (Shutdown × Sweeper)
  | .beginning =>
    if s.lifecycle.ran then some ({ s with swept := true }, .ended)
    else some ({ s with lifecycle := { s.lifecycle with ran := true } }, .taking)
  | .taking =>
    if s.locked then none
    else
      some ({ s with lifecycle := { s.lifecycle with members := [] } },
        .looking s.lifecycle.members)
  | .looking [] => some ({ s with swept := true }, .ended)
  | .looking (id :: rest) =>
    some (s, if s.isQuitting id then .looking rest else .telling id rest)
  | .telling id rest => some (s.tell id, .looking rest)
  | .ended => none

/-- The move of someone who requests the shutdown; `canStart` says whether the system can start one
more thread. -/
def moveRequester (s : Shutdown) (canStart : Bool) : Requester → Option (Move Shutdown Thread)
  | .asking quit block =>
    match s.lifecycle.switch.set quit with
    | (switch, true) =>
      -- nobody else can get here
      Move.goOn { s with lifecycle := { s.lifecycle with switch } } (.requester (.starting block))
    | (_, false) => Move.goOn s (.requester (.returned false))
  | .starting block =>
    if canStart then
      Move.start s (.requester (if block then .waiting else .returned true)) (.sweeper .beginning)
    else Move.goOn s (.requester (.sweeping .beginning))
  | .sweeping .ended => Move.goOn s (.requester (.returned true))
  | .sweeping sweeper => (s.sweep sweeper).bind fun (s, sweeper) =>
    Move.goOn s (.requester (.sweeping sweeper))
  | .waiting => if s.swept then Move.goOn s (.requester (.returned true)) else none
  | .returned _ => none

/-- The move of a thread. -/
def move : Program Bool Shutdown Thread := fun canStart s t =>
  match t with
  | .enroller id e => (s.enroll id e).bind fun (s, e) => Move.goOn s (.enroller id e)
  | .requester r => s.moveRequester canStart r
  | .sweeper sweeper => (s.sweep sweeper).bind fun (s, sweeper) => Move.goOn s (.sweeper sweeper)
  | .loner id =>
    Move.goOn { s with lifecycle := s.lifecycle.modify id (·.setFlag true) } .through
  | .through => none

end Shutdown

end Switchboard
