/-!
# The quit switch

A flag that is flipped once and never back. Every handle on a switch sees the same flag, and an
observer that subscribed to it is told of a flip it has not seen yet.
-/

namespace Switchboard

/-- A flag that only ever goes from clear to quitting. -/
structure Switch where
  quitting : Bool := false
  deriving DecidableEq, Repr, Inhabited

namespace Switch

/-- The name a switch reports as a component. -/
def name : String := "quit-switch"

/-- Asks the switch to take a value. The answer is true for the request that flips it; clearing
is ignored. -/
def set (s : Switch) (quit : Bool) : Switch × Bool :=
  if quit && !s.quitting then (⟨true⟩, true) else (s, false)

/-- Whether waiting for the switch ends at once. -/
def ready (s : Switch) : Bool := s.quitting

/-- After a request to quit the switch is quitting. -/
@[simp] theorem quitting_set_true (s : Switch) : (s.set true).1.quitting = true := by
  cases s with | mk q => cases q <;> rfl

end Switch

/-- One subscriber of a switch: whether a flip has happened that it has not been told of. -/
structure Subscriber where
  seen : Bool
  deriving DecidableEq, Repr

namespace Subscriber

/-- Subscribing counts the present state as seen. -/
def subscribe (s : Switch) : Subscriber := ⟨s.quitting⟩

/-- Whether the switch changed since the last time it was asked, and the subscriber afterwards. -/
def poll (o : Subscriber) (s : Switch) : Subscriber × Bool :=
  (⟨s.quitting⟩, s.quitting && !o.seen)

end Subscriber

end Switchboard
