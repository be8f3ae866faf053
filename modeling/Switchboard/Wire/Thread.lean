import Switchboard.Interleaving
import Switchboard.Wire.Listener

/-!
# The threads of a listener

Clients connect, one thread accepts them, and whoever has an accepted connection in hand converts
it, answers it and lets go of it. `Entrance.move` says what each of them does next, one atomic step
at a time.

The open connections are counted in a word that all threads share. Whoever accepts looks at the
count first, and raises it only after a client was taken and its socket was prepared; in between,
others may let go of their connections.

A thread that is through stays where it is.
-/

namespace Switchboard

namespace Listener

/-! ### Accepting, piece by piece -/

/-- The client that waits longest. -/
def waiting? (l : Listener) : Option Nat := l.clients.findIdx? fun c => c.state == .waiting

/-- The connection of a client is lost before it was counted. -/
def lose (l : Listener) (n : Nat) : Listener := l.change n fun c => { c with state := .gone }

/-- The connection of a client is open from now on. -/
def track (l : Listener) (n : Nat) : Listener × Nat :=
  let (connections, number) := l.connections.track
  ({ l with connections }.change n fun c => { c with state := .accepted number }, number)

end Listener

/-- A listener that several threads use. -/
structure Entrance where
  listener : Listener
  /-- How many connections are counted as open. -/
  count : UInt64 := 0

namespace Entrance

/-! ### Who there is -/

/-- Someone who accepts clients. -/
inductive Acceptor where
  /-- About to see whether the limit is reached. -/
  | looking
  /-- It was not: about to take a client. -/
  | taking
  /-- About to prepare the socket of a client. -/
  | preparing (n : Nat)
  /-- About to count the connection of a client as open. -/
  | tracking (n : Nat)
  /-- The connection of a client is open under a number: about to hand out the job. -/
  | handing (n number : Nat)
  | stopped
  deriving DecidableEq, Repr

/-- A thread. -/
inductive Thread where
  /-- A client about to connect. -/
  | client (s : Stream)
  | acceptor (a : Acceptor)
  /-- Someone with the job of converting a connection. -/
  | job (n number : Nat)
  /-- Someone with the output of a converted connection. -/
  | output (n number : Nat)
  | done

/-- What a move depends on besides: whether the thread gives up, or the system refuses what the
thread asks for; the number of the request that is read; and what is done to an output. -/
structure Choice where
  quits : Bool := false
  id : RequestId
  deed : Line → Line := fun l => l

/-! ### What they do -/

/-- Whether the limit is reached. -/
def full (h : Entrance) : Bool := h.listener.settings.maxConnections ≤ h.count

/-- The count after a connection is no longer open, and what has become of the listener. -/
def release (h : Entrance) (listener : Listener) : Entrance := { listener, count := h.count - 1 }

/-- The move of someone who accepts. -/
def moveAcceptor (h : Entrance) (quits : Bool) : Acceptor → Option (Move Entrance Thread)
  | .looking =>
    if quits then Move.goOn h (.acceptor .stopped)
    else Move.goOn h (.acceptor (if h.full then .looking else .taking))
  | .taking =>
    match h.listener.waiting? with
    | some n => Move.goOn h (.acceptor (if quits then .looking else .preparing n))
    | none => Move.goOn h (.acceptor .looking)
  | .preparing n =>
    -- a read may not take no time at all
    if quits || h.listener.settings.readTimeoutMs == 0 then
      Move.goOn { h with listener := h.listener.lose n } (.acceptor .looking)
    else Move.goOn h (.acceptor (.tracking n))
  | .tracking n =>
    let (listener, number) := h.listener.track n
    Move.goOn { listener, count := h.count + 1 } (.acceptor (.handing n number))
  | .handing n number => Move.start h (.acceptor .looking) (.job n number)
  | .stopped => none

/-- The move of a thread. -/
def move : Program Choice Entrance Thread := fun choice h t =>
  match t with
  | .client s => Move.goOn { h with listener := (h.listener.connect s).1 } .done
  | .acceptor a => h.moveAcceptor choice.quits a
  | .job n number =>
    if choice.quits then Move.goOn (h.release (h.listener.abandon n).1) .done
    else
      match h.listener.convert choice.id n with
      | (l, some (.ok _)) => Move.goOn { h with listener := l } (.output n number)
      | (l, _) => Move.goOn (h.release l) .done
  | .output n number =>
    if choice.quits then Move.goOn (h.release (h.listener.drop n).1) .done
    else Move.goOn { h with listener := h.listener.onLine n choice.deed } (.output n number)
  | .done => none

end Entrance

end Switchboard
