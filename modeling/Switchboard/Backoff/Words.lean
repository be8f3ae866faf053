import Switchboard.Backoff

/-!
# Backoff delays in machine words

A delay as it is computed: in words, which are cut off at their width or stop at their greatest
value, and as a span of time. Where a computation has no result — a difference below zero, a sum
that leaves its width, a number drawn from an empty range — there is none here either.

* `Backoff.wait?` is the delay of an attempt;
* `PollBackoff.poll?` is one polling step, and `PollBackoff.polls?` one after the other.

The randomness is a parameter: a word that a number of a range is made of, and whether the
one-in-eight draw came up.
-/

namespace Switchboard

/-! ### Words -/

namespace Word

/-- The product of two words, which stops at the greatest word. -/
def saturatingMul (a b : UInt64) : UInt64 :=
  if a.toNat * b.toNat < UInt64.size then a * b else UInt64.ofNat Backoff.maxWord

/-- A power of a word, which stops at the greatest word. -/
def saturatingPow (a : UInt64) : Nat → UInt64
  | 0 => 1
  | n + 1 => saturatingMul (saturatingPow a n) a

/-- The difference of two words, unless it is below zero. -/
def sub? (a b : UInt32) : Option UInt32 := if b ≤ a then some (a - b) else none

/-- The sum of two words, unless it is no word. -/
def add? (a b : UInt32) : Option UInt32 :=
  if a.toNat + b.toNat < UInt32.size then some (a + b) else none

/-- A number below a bound, made of a random word. There is none below zero. -/
def below? (bound draw : UInt64) : Option UInt64 := if bound = 0 then none else some (draw % bound)

end Word

/-! ### Spans of time -/

/-- A span of time in nanoseconds. Its seconds are counted in a word. -/
structure Duration where
  nanos : Nat
  fits : nanos < UInt64.size * 1000000000

namespace Duration

theorem ofMillis_fits (ms : UInt64) : ms.toNat * 1000000 < UInt64.size * 1000000000 := by
  have := ms.toNat_lt_size
  omega

theorem ofMicros_fits (us : UInt64) : us.toNat * 1000 < UInt64.size * 1000000000 := by
  have := us.toNat_lt_size
  omega

/-- So many milliseconds. -/
def ofMillis (ms : UInt64) : Duration := ⟨ms.toNat * 1000000, ofMillis_fits ms⟩

/-- So many microseconds. -/
def ofMicros (us : UInt64) : Duration := ⟨us.toNat * 1000, ofMicros_fits us⟩

/-- The whole microseconds of a span. -/
def micros (d : Duration) : Nat := d.nanos / 1000

/-- The sum of two spans, unless its seconds are no word. -/
def add? (d e : Duration) : Option Duration :=
  if h : d.nanos + e.nanos < UInt64.size * 1000000000 then some ⟨d.nanos + e.nanos, h⟩ else none

end Duration

/-! ### Delays -/

namespace Backoff

/-- The delay before jitter, in milliseconds: the base doubled so many times, and capped. -/
def capped (doublings : UInt32) (base max : UInt64) : UInt64 :=
  min (Word.saturatingMul base (Word.saturatingPow 2 doublings.toNat)) max

/-- The jitter of a span in microseconds, for a random word. -/
def jitter? (span : Duration) (draw : UInt64) : Option UInt64 :=
  -- the microseconds may be no word: what is above is cut off
  let range := UInt64.ofNat span.micros / 10
  if 0 < range then Word.below? range draw else some 0

/-- The span that an attempt waits, for a random word. -/
def wait? (attempt : UInt32) (base max draw : UInt64) : Option Duration :=
  if attempt = 0 then some (.ofMillis 0)
  else do
    let doublings ← Word.sub? attempt 1
    let span := Duration.ofMillis (capped doublings base max)
    let jitter ← jitter? span draw
    span.add? (.ofMicros jitter)

end Backoff

namespace PollBackoff

/-- One polling step: the span to wait, and the backoff afterwards. -/
def poll? (p : PollBackoff) (draw : UInt64) (stepBack : Bool) : Option (Duration × PollBackoff) := do
  let delay ← Backoff.wait? p.attempt p.base p.max draw
  if p.attempt > 1 && stepBack then
    let attempt ← Word.sub? p.attempt 1
    some (delay, { p with attempt })
  else if delay.nanos < (Duration.ofMillis p.max).nanos then
    let attempt ← Word.add? p.attempt 1
    some (delay, { p with attempt })
  else some (delay, p)

/-- Polling steps, one for every draw: the spans to wait, and the backoff afterwards. -/
def polls? (p : PollBackoff) : List (UInt64 × Bool) → Option (List Duration × PollBackoff)
  | [] => some ([], p)
  | (draw, stepBack) :: draws => do
    let (delay, p) ← p.poll? draw stepBack
    let (delays, p) ← p.polls? draws
    some (delay :: delays, p)

end PollBackoff

end Switchboard
