import Switchboard.Text.Json

/-!
# Outcomes of events

An event is one stage of a request's way through the server. Executing it ends in an outcome, and
every observer of the event is told its kind and the outcome. An observer may panic when it is told;
it has been told all the same, and the other observers are told as well.
-/

namespace Switchboard

/-- The kinds of events, in the order of a request's way. -/
inductive EventKind where
  | noop
  | conversion
  | middleware
  | dispatch
  | handler
  deriving DecidableEq, Repr, Inhabited

namespace EventKind

/-- All kinds in order. -/
def all : List EventKind := [noop, conversion, middleware, dispatch, handler]

/-- The name of a kind. -/
def name : EventKind → String
  | noop => "noop"
  | conversion => "conversion"
  | middleware => "middleware"
  | dispatch => "dispatch"
  | handler => "handler"

/-- A kind as it is shown. -/
def shown : EventKind → String
  | noop => "Noop"
  | conversion => "Conversion"
  | middleware => "Middleware"
  | dispatch => "Dispatch"
  | handler => "Handler"

end EventKind

/-- How executing an event ends. -/
inductive Outcome where
  | noop
  /-- The next stage was published, or awaits the result. -/
  | forwarded
  /-- A handler's response was sent. -/
  | completed
  /-- The connection could not be read as a request. -/
  | malformed
  /-- The access gate refused the source. -/
  | denied
  /-- No handler matched, not even the default. -/
  | unrouted
  /-- The handler reported an error. -/
  | failed (message : String)
  /-- The handler panicked. -/
  | panicked (message : String)
  /-- The event was dropped because the server is shutting down. -/
  | abandoned
  deriving DecidableEq, Repr, Inhabited

namespace Outcome

/-- The name of an outcome, without the message. -/
def name : Outcome → String
  | noop => "Noop"
  | forwarded => "Forwarded"
  | completed => "Completed"
  | malformed => "Malformed"
  | denied => "Denied"
  | unrouted => "Unrouted"
  | failed _ => "Failed"
  | panicked _ => "Panicked"
  | abandoned => "Abandoned"

/-- The message of an outcome. -/
def message? : Outcome → Option String
  | failed m | panicked m => some m
  | _ => none

/-- The outcome of a name and a message. -/
def ofName (name message : String) : Outcome :=
  match name with
  | "Forwarded" => forwarded
  | "Completed" => completed
  | "Malformed" => malformed
  | "Denied" => denied
  | "Unrouted" => unrouted
  | "Failed" => failed message
  | "Panicked" => panicked message
  | "Abandoned" => abandoned
  | _ => noop

/-- An outcome as data. -/
def toJson (o : Outcome) : Json :=
  match o.message? with
  | some m => .obj [(o.name, .str m)]
  | none => .str o.name

end Outcome

/-- One who is told outcomes. -/
structure Observer where
  tag : String
  /-- It panics once it has been told. -/
  panics : Bool := false
  deriving DecidableEq, Repr, Inhabited

/-- What an observer was told. -/
structure Note where
  observer : Observer
  kind : EventKind
  outcome : Outcome
  deriving DecidableEq, Repr, Inhabited

namespace Note

/-- A note as data, without the observer. -/
def event (n : Note) : Json := .arr [.str n.kind.name, n.outcome.toJson]

/-- A note as data. -/
def toJson (n : Note) : Json :=
  .arr [.str n.observer.tag, .str n.kind.name, n.outcome.toJson]

/-- Notes as data, by kind and then by text. -/
def events (ns : List Note) : Json :=
  .arr (EventKind.all.flatMap fun k =>
    ((ns.filter (·.kind == k)).map event).mergeSort fun a b => a.compact ≤ b.compact)

end Note

/-- Tells an observer. The answer is what it was told and whether it panicked. -/
def Observer.tell (l : Observer) (kind : EventKind) (outcome : Outcome) : Note × Bool :=
  ({ observer := l, kind, outcome }, l.panics)

/-- Tells observers in order. A panic ends with the observer that panics, so that the next one is
told in any case. -/
def notify (kind : EventKind) (outcome : Outcome) : List Observer → List Note
  | [] => []
  | l :: ls =>
    match l.tell kind outcome with
    | (note, true) => note :: notify kind outcome ls
    | (note, false) => note :: notify kind outcome ls

/-- Every observer is told once, in order. -/
theorem notify_eq_map (kind : EventKind) (outcome : Outcome) (ls : List Observer) :
    notify kind outcome ls = ls.map fun l => ⟨l, kind, outcome⟩ := by
  induction ls with
  | nil => rfl
  | cons l ls ih => cases h : l.panics <;> simp [notify, Observer.tell, h, ih]

end Switchboard
