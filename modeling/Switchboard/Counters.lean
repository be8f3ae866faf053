import Switchboard.Text.Json

/-!
# The request counters

Every connection that the server accepts ends on exactly one of seven counters; three more count
accepted connections, failed accepts and requests handed to a handler. `Counters` holds the ten
totals and `Counters.bump` adds one to a chosen one. `Counters.settled` is the sum over the seven
ends, which is what the books must balance against `accepted`.
-/

namespace Switchboard

/-- What the server counts. -/
inductive Counter where
  /-- A connection was accepted. -/
  | accepted
  /-- Accepting failed. -/
  | acceptError
  /-- The connection could not be read as a request. -/
  | conversionFailure
  /-- The access gate refused the source. -/
  | denied
  /-- The request was handed to a handler. -/
  | dispatched
  /-- No handler matched, not even the default. -/
  | unrouted
  /-- A handler's response was sent. -/
  | completed
  /-- The handler reported an error. -/
  | handlerFailure
  /-- The handler panicked. -/
  | handlerPanic
  /-- The request was dropped by the shutdown. -/
  | abandoned
  deriving DecidableEq, Repr

namespace Counter

/-- All counters in the order of their names. -/
def all : List Counter :=
  [.abandoned, .acceptError, .accepted, .completed, .conversionFailure, .denied, .dispatched,
    .handlerFailure, .handlerPanic, .unrouted]

/-- The name under which a total is reported. -/
def name : Counter → String
  | abandoned => "abandoned"
  | acceptError => "accept_errors"
  | accepted => "accepted"
  | completed => "completed"
  | conversionFailure => "conversion_failures"
  | denied => "denied"
  | dispatched => "dispatched"
  | handlerFailure => "handler_failures"
  | handlerPanic => "handler_panics"
  | unrouted => "unrouted"

end Counter

/-- The totals of a running server. -/
structure Counters where
  accepted : Nat := 0
  acceptErrors : Nat := 0
  conversionFailures : Nat := 0
  denied : Nat := 0
  dispatched : Nat := 0
  unrouted : Nat := 0
  completed : Nat := 0
  handlerFailures : Nat := 0
  handlerPanics : Nat := 0
  abandoned : Nat := 0
  deriving DecidableEq, Repr, Inhabited

namespace Counters

/-- The total of one counter. -/
def get (cs : Counters) : Counter → Nat
  | .accepted => cs.accepted
  | .acceptError => cs.acceptErrors
  | .conversionFailure => cs.conversionFailures
  | .denied => cs.denied
  | .dispatched => cs.dispatched
  | .unrouted => cs.unrouted
  | .completed => cs.completed
  | .handlerFailure => cs.handlerFailures
  | .handlerPanic => cs.handlerPanics
  | .abandoned => cs.abandoned

/-- Adds one to a counter. -/
def bump (cs : Counters) : Counter → Counters
  | .accepted => { cs with accepted := cs.accepted + 1 }
  | .acceptError => { cs with acceptErrors := cs.acceptErrors + 1 }
  | .conversionFailure => { cs with conversionFailures := cs.conversionFailures + 1 }
  | .denied => { cs with denied := cs.denied + 1 }
  | .dispatched => { cs with dispatched := cs.dispatched + 1 }
  | .unrouted => { cs with unrouted := cs.unrouted + 1 }
  | .completed => { cs with completed := cs.completed + 1 }
  | .handlerFailure => { cs with handlerFailures := cs.handlerFailures + 1 }
  | .handlerPanic => { cs with handlerPanics := cs.handlerPanics + 1 }
  | .abandoned => { cs with abandoned := cs.abandoned + 1 }

/-- The connections that have reached an end: each end has its own counter. -/
def settled (cs : Counters) : Nat :=
  cs.conversionFailures + cs.denied + cs.unrouted + cs.completed + cs.handlerFailures +
    cs.handlerPanics + cs.abandoned

/-- Bumping a counter raises that counter by one and leaves the others alone. -/
theorem get_bump (cs : Counters) (c d : Counter) :
    (cs.bump c).get d = if d = c then cs.get d + 1 else cs.get d := by
  cases c <;> cases d <;> rfl

/-- The totals as data. -/
def toJson (cs : Counters) : Json := .obj (Counter.all.map fun c => (c.name, .nat (cs.get c)))

end Counters

end Switchboard
