import Switchboard.Pipeline.Event
import Switchboard.Reply

/-!
# The ledger of connections

For every connection under way the ledger holds its output, its reply, and the hand-over between its
conversion and the middleware that waits for it. Whoever drops an event lets go of what the event
owns, which `Ledger.release` enters: a dropped exchange is closed, a dropped conversion leaves its
waiter without a result, and a dropped waiter leaves the conversion without a taker.

The calls of the outputs return; they may return I/O errors.
-/

namespace Switchboard

/-- Where the result of a conversion is. -/
inductive HandOver where
  /-- It is awaited and still to come. -/
  | awaited
  /-- It waits to be taken. -/
  | ready (c : Conversion)
  /-- It will never come. -/
  | noSender
  /-- Nobody waits for it. -/
  | noReceiver
  deriving Repr, Inhabited

/-- One connection. -/
structure Line where
  output : Output := .reliable
  reply : Reply := {}
  handOver : HandOver := .awaited

instance : Inhabited Line := ⟨{}⟩

namespace Line

/-- Sends a response. -/
def respond (l : Line) (r : Response) : Line := { l with reply := (l.reply.respond l.output r).1 }

/-- Sends the error answer. -/
def refuse (l : Line) : Line := { l with reply := (l.reply.fail l.output).1 }

/-- Closes the connection, with the error answer if nothing was sent. -/
def close (l : Line) : Line := { l with reply := l.reply.drop l.output }

/-- The waiter of a conversion leaves. -/
def leave (l : Line) : Line := { l with handOver := .noReceiver }

/-- The conversion is gone; a result that was handed over before stays. -/
def forsake (l : Line) : Line :=
  match l.handOver with
  | .awaited => { l with handOver := .noSender }
  | _ => l

end Line

/-- The connections by number. -/
abbrev Ledger := List Line

namespace Ledger

/-- The line of a connection. -/
def line (l : Ledger) (connection : Nat) : Line := l[connection]?.getD default

/-- Changes the line of a connection. -/
def change (l : Ledger) (connection : Nat) (f : Line → Line) : Ledger := l.modify connection f

/-- Opens a connection; the answer is its number. -/
def enter (l : Ledger) (line : Line) : Ledger × Nat := (l ++ [line], l.length)

/-- Lets go of a connection's reply, if there is one. -/
def dropReply (l : Ledger) : Option Nat → Ledger
  | some connection => l.change connection Line.close
  | none => l

/-- Lets go of the result of a conversion. -/
def dropConversion (l : Ledger) : Conversion → Ledger
  | .ok x => l.dropReply (some x.connection)
  | .error e => l.dropReply e.reply

/-- Lets go of a job that was not run. -/
def dropJob (l : Ledger) (job : Job) : Ledger :=
  (if job.binding = .early then l.dropReply (some job.connection) else l).change job.connection
    Line.forsake

/-- Lets go of the receiving end of a hand-over, with the result if it was handed over. -/
def dropWaiter (l : Ledger) (connection : Nat) : Ledger :=
  (match (l.line connection).handOver with
    | .ready c => l.dropConversion c
    | _ => l).change connection Line.leave

/-- Lets go of an event. -/
def release (l : Ledger) : Event → Ledger
  | .noop => l
  | .conversion job => l.dropJob job
  | .middleware connection => l.dropWaiter connection
  | .dispatch x | .handler x _ => l.dropReply (some x.connection)

/-- Runs a job. A reply that the job bound is closed if the job ends without handing it on. -/
def runJob (l : Ledger) (job : Job) : Ledger × Conversion :=
  let closed := if job.binding = .late then l else l.dropReply (some job.connection)
  match job.ending with
  | .request request => (l, .ok { request, connection := job.connection })
  | .malformed reason true => (l, .error { reason, reply := some job.connection })
  | .malformed reason false => (closed, .error { reason })
  | .panicked p => (closed, .error { reason := "conversion panicked: " ++ p.message })

end Ledger

end Switchboard
