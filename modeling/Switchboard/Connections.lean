/-!
# Open connections

A connection is tracked from the moment it is accepted until its guard is released, and has a
number of its own. The open connections are counted so that no more than a limit are accepted.
-/

namespace Switchboard

/-- The open connections and the number of the next one. Numbers are handed out once, also for
purposes other than tracking. -/
structure Connections where
  next : Nat := 1
  open_ : List Nat := []
  deriving DecidableEq, Repr, Inhabited

namespace Connections

/-- How many connections are open. -/
def active (c : Connections) : Nat := c.open_.length

/-- Hands out a number. -/
def newId (c : Connections) : Connections × Nat := ({ c with next := c.next + 1 }, c.next)

/-- Tracks a new connection. -/
def track (c : Connections) : Connections × Nat :=
  ({ next := c.next + 1, open_ := c.open_ ++ [c.next] }, c.next)

/-- Releases a connection; the answer is whether it was open. -/
def release (c : Connections) (id : Nat) : Connections × Bool :=
  ({ c with open_ := c.open_.erase id }, c.open_.contains id)

/-- Whether a limit on the open connections is reached. -/
def full (c : Connections) (limit : Nat) : Bool := limit ≤ c.active

/-- A connection's number as it is shown. -/
def label (id : Nat) : String := "conn-" ++ toString id

end Connections

end Switchboard
