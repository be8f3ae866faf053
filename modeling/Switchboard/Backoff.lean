/-!
# Backoff delays

A wait that doubles with every attempt up to a cap, plus up to a tenth of jitter, and the polling
backoff built on it, whose attempt counter climbs until the cap and now and then steps back.
Randomness is a parameter: a delay takes the jitter that was drawn, a polling step also whether
the one-in-eight draw came up.

* `Backoff.plateau` is the delay before jitter, computed in saturating 64-bit words;
* `Backoff.jitterBound` is the exclusive bound of the jitter, in microseconds;
* `PollBackoff.next` is one polling step.
-/

namespace Switchboard

namespace Backoff

/-- The largest 64-bit word. -/
def maxWord : Nat := UInt64.size - 1

/-- A natural number as the nearest 64-bit word from below. -/
def saturate (n : Nat) : Nat := min n maxWord

/-- The low 64 bits of a natural number. -/
def narrow (n : Nat) : Nat := n % UInt64.size

/-- The doubling factor of an attempt, stopping at the largest word. -/
def factor (attempt : UInt32) : Nat := saturate (Nat.pow 2 (min (attempt.toNat - 1) 64))

/-- The delay of an attempt before jitter, in milliseconds: attempt 0 is immediate, attempt `n`
waits `base · 2ⁿ⁻¹`, at most `max`. -/
def plateau (attempt : UInt32) (base max : UInt64) : Nat :=
  if attempt = 0 then 0 else min (saturate (base.toNat * factor attempt)) max.toNat

/-- The jitter added to a delay of `ms` milliseconds stays below this many microseconds, or is
zero when this is zero. The microseconds are counted in a 64-bit word. -/
def jitterBound (ms : Nat) : Nat := narrow (ms * 1000) / 10

/-- The delay of an attempt in microseconds, for a jitter drawn from below `jitterBound`. -/
def delay (attempt : UInt32) (base max : UInt64) (jitter : Nat) : Nat :=
  plateau attempt base max * 1000 + jitter

/-- The jitters that can be drawn for an attempt. -/
def IsJitter (attempt : UInt32) (base max : UInt64) (jitter : Nat) : Prop :=
  jitter < jitterBound (plateau attempt base max) ∨ jitter = 0

/-- The least delay of an attempt, in microseconds. -/
def least (attempt : UInt32) (base max : UInt64) : Nat := delay attempt base max 0

/-- The greatest delay of an attempt, in microseconds. -/
def greatest (attempt : UInt32) (base max : UInt64) : Nat :=
  delay attempt base max (jitterBound (plateau attempt base max) - 1)

end Backoff

/-- The backoff of a caller that polls for a result. -/
structure PollBackoff where
  attempt : UInt32
  base : UInt64
  max : UInt64
  deriving DecidableEq, Repr

namespace PollBackoff

/-- Starts at the first attempt; a zero base counts as one millisecond and the cap is never below
the base. -/
def start (base max : UInt64) : PollBackoff where
  attempt := 1
  base := Max.max base 1
  max := Max.max (Max.max max base) 1

/-- Where the attempt counter stands after a delay: it steps back when the draw says so, and
climbs while the delay stays below the cap. -/
def advance (p : PollBackoff) (delay : Nat) (stepBack : Bool) : PollBackoff :=
  if p.attempt > 1 && stepBack then { p with attempt := p.attempt - 1 }
  else if delay < p.max.toNat * 1000 then { p with attempt := p.attempt + 1 }
  else p

/-- One polling step: the delay to wait, in microseconds, and the backoff afterwards. -/
def next (p : PollBackoff) (jitter : Nat) (stepBack : Bool) : Nat × PollBackoff :=
  let delay := Backoff.delay p.attempt p.base p.max jitter
  (delay, p.advance delay stepBack)

/-- The bounds of a run of polling steps. -/
structure Bounds where
  /-- The least and the greatest delay, in microseconds. -/
  least : Nat
  greatest : Nat
  /-- The greatest attempt. -/
  attempt : Nat
  deriving DecidableEq, Repr

/-- The bounds of the present step. -/
def bounds (p : PollBackoff) : Bounds where
  least := Backoff.least p.attempt p.base p.max
  greatest := Backoff.greatest p.attempt p.base p.max
  attempt := p.attempt.toNat

/-- The backoff after a step that did not step back and drew no jitter: no other step climbs
faster. -/
def climb (p : PollBackoff) : PollBackoff := p.advance p.bounds.least false

/-- The bounds of so many further steps, together with those of earlier ones. -/
def boundsOf (p : PollBackoff) (b : Bounds) : Nat → Bounds
  | 0 => b
  | n + 1 =>
    let here := p.bounds
    p.climb.boundsOf
      { least := min b.least here.least
        greatest := Max.max b.greatest here.greatest
        attempt := Max.max b.attempt p.climb.attempt.toNat } n

end PollBackoff

end Switchboard
