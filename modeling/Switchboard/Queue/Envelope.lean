import Switchboard.Queue.Outcome

/-!
# Envelopes

An envelope carries an event and the observers that are told how the event ended, and is stamped
when it is published. The contents of an envelope can be moved to another one, which leaves the
empty event behind; the slots of a ring are envelopes that are filled and emptied in that way.
-/

namespace Switchboard

/-- Events that an envelope can carry: there is an empty one, and each has a kind. -/
class Payload (ε : Type) where
  nothing : ε
  kind : ε → EventKind

instance : Payload EventKind where
  nothing := .noop
  kind k := k

/-- An event with its observers. -/
structure Envelope (ε : Type) where
  stamped : Bool := false
  event : ε
  observers : List Observer := []
  deriving DecidableEq, Repr

namespace Envelope

variable {ε : Type} [Payload ε]

/-- The envelope with nothing in it. -/
def empty : Envelope ε := { event := Payload.nothing }

instance : Inhabited (Envelope ε) := ⟨empty⟩

/-- The kind of the event. -/
def kind (e : Envelope ε) : EventKind := Payload.kind e.event

/-- Adds observers after the others. -/
def addObservers (e : Envelope ε) (ls : List Observer) : Envelope ε :=
  { e with observers := e.observers ++ ls }

/-- Takes over the event and the observers of another envelope and is stamped. The second envelope
of the answer is what is left of the other one; it keeps its stamp. -/
def become (_ other : Envelope ε) : Envelope ε × Envelope ε :=
  ({ stamped := true, event := other.event, observers := other.observers },
    { other with event := Payload.nothing, observers := [] })

/-- Moves the contents out. The first envelope of the answer is what is left. -/
def take (e : Envelope ε) : Envelope ε × Envelope ε := (empty, e)

/-- What the observers are told when the event ended so. -/
def notes (e : Envelope ε) (outcome : Outcome) : List Note := notify e.kind outcome e.observers

/-- An envelope as data. -/
def toJson (e : Envelope ε) : Json :=
  .obj [("kind", .str e.kind.name), ("stamped", .bool e.stamped),
    ("tags", .strings (e.observers.map (·.tag)))]

/-- An envelope as it is shown, up to its stamp. -/
def shown (e : Envelope ε) : String :=
  "Envelope \x7b event: Event(" ++ e.kind.shown ++ "), listeners: " ++
    toString e.observers.length ++ ", "

end Envelope

end Switchboard
