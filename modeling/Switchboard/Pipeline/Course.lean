import Switchboard.Pipeline.Basic

/-!
# The course of a connection

What becomes of one connection on its own, when nobody shuts the server down: the calls its output
sees, how its stages end, and what is counted for it. `Course.of` says so without queue, threads
or instances, from the plain facts: whom the allow list admits, which template serves which
command, and how the conversion ends.
-/

namespace Switchboard

/-- What becomes of one connection. -/
structure Course where
  calls : List Call
  ends : List (EventKind × Outcome)
  counts : List Counter
  deriving DecidableEq, Repr

/-- What decides the course of a connection. -/
structure House where
  /-- Whether the sources of requests are admitted. -/
  admits : String → Bool
  /-- The templates of the registered commands. -/
  template? : String → Option Template

namespace House

/-- The house of a pipeline whose gate keeps a list. -/
def ofPipeline (p : Pipeline) (list : AllowList) : House where
  admits source :=
    !source.isEmpty && (p.gate.check list source p.reverseLookup p.caseSensitive).2
  template? command := (p.roster.template? command).bind fun n =>
    (p.roster.templates[n]?).map (·.1)

/-- Whether a command is registered. -/
def registered (h : House) (command : String) : Bool := (h.template? command).isSome

/-- The command under which a path is served. -/
def command (h : House) (path : String) : String :=
  (Route.lookup h.registered path).getD defaultCommand

end House

namespace Course

/-- The calls of a connection that is turned down. -/
def turnedDown : List Call := [.error, .close]

/-- The course after a failed conversion; the output is answered if it was bound before. -/
def ofFailure (bound : Bool) : Course where
  calls := if bound then turnedDown else []
  ends := [(.conversion, .malformed), (.middleware, .malformed)]
  counts := [.accepted, .conversionFailure]

/-- The course of a request that the gate refuses. -/
def ofDenial : Course where
  calls := turnedDown
  ends := [(.conversion, .forwarded), (.middleware, .denied)]
  counts := [.accepted, .denied]

/-- The course of a request that nothing serves. -/
def ofNoRoute : Course where
  calls := turnedDown
  ends := [(.conversion, .forwarded), (.middleware, .forwarded), (.dispatch, .unrouted)]
  counts := [.accepted, .unrouted]

/-- The course of a request that a handler served, which comes to an end of its own. -/
def ofHandling (calls : List Call) (o : Outcome) (c : Counter) : Course where
  calls
  ends := [(.conversion, .forwarded), (.middleware, .forwarded), (.dispatch, .forwarded),
    (.handler, o)]
  counts := [.accepted, .dispatched, c]

/-- The course of a request whose handler came to an end. -/
def ofHandlerEnd : HandlerEnd → Course
  | .answered r => ofHandling [r.call, .close] .completed .completed
  | .failed e => ofHandling turnedDown (.failed e.message) .handlerFailure
  | .panicked p => ofHandling turnedDown (.panicked p.message) .handlerPanic

/-- The course of a request: the first run of a first copy stands for any, as they behave alike. -/
def ofRequest (h : House) (r : Request) : Course :=
  if h.admits r.source then
    let command := h.command r.path
    match (h.template? command).or (h.template? defaultCommand) with
    | some t => ofHandlerEnd (t.handle 1 1 { r with command := some command })
    | none => ofNoRoute
  else ofDenial

/-- The course of the connection of a conversion job. -/
def of (h : House) (job : Job) : Course :=
  match job.ending with
  | .request r => ofRequest h r
  | .malformed _ binds => ofFailure (binds || job.binding ≠ .late)
  | .panicked _ => ofFailure (job.binding ≠ .late)

end Course

end Switchboard
