import Switchboard.Handler.Basic
import Switchboard.Queue.Envelope
import Switchboard.Text.Quoted

/-!
# Events

A connection goes through four stages. Its conversion reads it as a request; the middleware waits
for that and asks the access gate; the dispatch picks a handler; the handler answers. Each stage is
an event that the stage before it publishes, and an event owns what it needs: the connection's
number stands for the right to answer it.
-/

namespace Switchboard

/-- A request and the connection it came over, to be answered. -/
structure Exchange where
  request : Request
  connection : Nat
  deriving DecidableEq, Repr, Inhabited

/-- Why a connection is no exchange. The reply is there if it was bound before the failure. -/
structure ConversionError where
  reason : String
  reply : Option Nat := none
  deriving DecidableEq, Repr, Inhabited

namespace ConversionError

/-- What is wrong, in words. -/
def message (e : ConversionError) : String := "request conversion failed: " ++ e.reason

/-- The error as it is shown. -/
def shown (e : ConversionError) : String :=
  "ConversionError \x7b reason: " ++ Quoted.quote e.reason ++ ", has_output: " ++
    toString e.reply.isSome ++ " \x7d"

end ConversionError

/-- The result of a conversion. -/
abbrev Conversion := Except ConversionError Exchange

/-- The result of a conversion as data. -/
def Conversion.toJson : Conversion → Json
  | .ok x => x.request.toJson
  | .error e => .obj [("error", .str "Conversion"), ("message", .str e.reason),
      ("has_output", .bool e.reply.isSome)]

/-- How a conversion job ends. -/
inductive JobEnd where
  | request (r : Request)
  /-- A failure, after binding a reply or before. -/
  | malformed (reason : String) (binds : Bool)
  | panicked (p : PanicPayload)
  deriving DecidableEq, Repr

/-- When a job binds the reply of its connection; from then on, whatever drops it closes it. -/
inductive Binding where
  /-- Before the job runs. -/
  | early
  /-- As soon as the job runs. -/
  | running
  /-- When the job ends with something that owns the reply. -/
  | late
  deriving DecidableEq, Repr

/-- A conversion that is still to be run. -/
structure Job where
  connection : Nat
  ending : JobEnd
  binding : Binding := .late
  /-- The latch that the job waits for. -/
  latch : Option String := none
  deriving DecidableEq, Repr

/-- A stage of a connection's way. -/
inductive Event where
  | noop
  | conversion (job : Job)
  | middleware (connection : Nat)
  | dispatch (x : Exchange)
  | handler (x : Exchange) (i : Instance)
  deriving DecidableEq, Repr, Inhabited

namespace Event

/-- The kind of an event. -/
def kind : Event → EventKind
  | noop => .noop
  | conversion _ => .conversion
  | middleware _ => .middleware
  | dispatch _ => .dispatch
  | handler _ _ => .handler

instance : Payload Event where
  nothing := noop
  kind := kind

end Event

end Switchboard
