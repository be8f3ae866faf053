import Switchboard.Connections
import Switchboard.Pipeline.Ledger
import Switchboard.Server.Error
import Switchboard.Wire.Inbound
import Switchboard.Wire.Outbound

/-!
# The listener

A listener is bound to an address. Clients that connect wait until they are accepted, in order, and
only as long as fewer connections are open than a limit. An accepted connection is open until its
conversion fails, or its job or its output is dropped.

`Listener.accept`, `Listener.convert` and `Listener.release` are what happens to a connection;
`Listener.active` is the number of open ones.
-/

namespace Switchboard

/-- How far a connection of a client is. -/
inductive ClientState where
  /-- It waits to be accepted. -/
  | waiting
  /-- It was accepted under a number and can be converted. -/
  | accepted (number : Nat)
  /-- It was converted and can be answered. -/
  | converted (number : Nat)
  /-- The server let go of it. -/
  | gone
  deriving DecidableEq, Repr

/-- The connection of a client: what it sends, and what the server did with it. -/
structure Client where
  stream : Stream
  state : ClientState := .waiting
  line : Line := {}

instance : Inhabited Client := ⟨{ stream := {} }⟩

namespace Client

/-- What the client reads up to the end. -/
def answer (c : Client) : List UInt8 := Outbound.calls c.line.reply.calls

end Client

/-- A bound listener with the clients that connected to it, in order. -/
structure Listener where
  settings : ListenerSettings
  address : SocketAddress
  clients : List Client := []
  connections : Connections := {}

namespace Listener

/-- A listener bound to the address of the settings. -/
def bind (s : ListenerSettings) : Except ListenerError Listener :=
  match SocketAddress.parse? s.bindAddress with
  | some address => .ok { settings := s, address }
  | none => .error (.address s.bindAddress)

/-- How many connections are open. -/
def active (l : Listener) : Nat := l.connections.active

/-- The connection of a client. -/
def client (l : Listener) (n : Nat) : Client := l.clients[n]?.getD default

/-- Changes the connection of a client. -/
def change (l : Listener) (n : Nat) (f : Client → Client) : Listener :=
  { l with clients := l.clients.modify n f }

/-- A client connects. -/
def connect (l : Listener) (s : Stream) : Listener × Nat :=
  ({ l with clients := l.clients ++ [{ stream := s }] }, l.clients.length)

/-! ### Accepting -/

/-- What accepting yields. -/
inductive Accepted where
  /-- Nobody waits, or the limit is reached. -/
  | nobody
  /-- The connection of a client, to be converted. -/
  | job (n : Nat)
  /-- The connection was lost: a read may not take no time at all. -/
  | failed
  deriving DecidableEq, Repr

/-- Accepts the next client. -/
def accept (l : Listener) : Listener × Accepted :=
  if l.connections.full l.settings.maxConnections.toNat then (l, .nobody)
  else
    match l.clients.findIdx? fun c => c.state == .waiting with
    | none => (l, .nobody)
    | some n =>
      if l.settings.readTimeoutMs = 0 then (l.change n fun c => { c with state := .gone }, .failed)
      else
        let (connections, number) := l.connections.track
        ({ l with connections }.change n fun c => { c with state := .accepted number }, .job n)

/-! ### Converting and answering -/

/-- A connection is no longer open. -/
def release (l : Listener) (n number : Nat) : Listener :=
  { l with connections := (l.connections.release number).1 }.change n fun c =>
    { c with state := .gone }

/-- Reads what a client sends as a request, within the bounds of the settings. -/
def read (s : ListenerSettings) (id : RequestId) (stream : Stream) : Except ReadError Request :=
  (Inbound.read id "127.0.0.1" (.ofStream stream s.maxRequestBytes.toNat)).1

/-- Converts an accepted connection; nothing for any other. A connection that cannot be read is
dropped. -/
def convert (l : Listener) (id : RequestId) (n : Nat) :
    Listener × Option (Except ReadError Request) :=
  match (l.client n).state with
  | .accepted number =>
    match read l.settings id (l.client n).stream with
    | .ok r => (l.change n fun c => { c with state := .converted number }, some (.ok r))
    | .error e => (l.release n number, some (.error e))
  | _ => (l, none)

/-- Drops an accepted connection without converting it. The answer is whether there was one. -/
def abandon (l : Listener) (n : Nat) : Listener × Bool :=
  match (l.client n).state with
  | .accepted number => (l.release n number, true)
  | _ => (l, false)

/-- Whether a connection can be answered. -/
def isConverted (l : Listener) (n : Nat) : Bool :=
  match (l.client n).state with
  | .converted _ => true
  | _ => false

/-- Does something to the line of a connection that can be answered. -/
def onLine (l : Listener) (n : Nat) (f : Line → Line) : Listener :=
  if l.isConverted n then l.change n fun c => { c with line := f c.line } else l

/-- Drops the reply of a connection, which closes it. The answer is whether there was one. -/
def drop (l : Listener) (n : Nat) : Listener × Bool :=
  match (l.client n).state with
  | .converted number => ((l.onLine n Line.close).release n number, true)
  | _ => (l, false)

end Listener

end Switchboard
