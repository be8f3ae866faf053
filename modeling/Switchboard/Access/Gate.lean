import Switchboard.Access.Source

/-!
# The access gate

The gate decides whether the source of a request may go on. It keeps the allow list that was
loaded last until it expires or is dropped; a list that cannot be loaded, or that fails the
self-test, leaves the gate closed. A source that a list does not admit may still be admitted by one
of its host names, and if the list expired meanwhile, it is loaded once more and asked again.

Loading is a sequence of steps — count the attempt, read the source, `vet` what was read, keep the
result — and a decision reads the clock more than once; `Moments` are the times it reads.
-/

namespace Switchboard

/-- The gate: what it was built with, the list it keeps, the number of attempts to load one, and
the sources whose host names were asked for. -/
structure Gate where
  source : AllowSource
  canaries : List String
  timeToLive : Nat
  hosts : String → List String := fun _ => []
  current : Option AllowList := none
  loads : Nat := 0
  asked : List String := []

/-- The times that a decision reads. -/
structure Moments where
  /-- The kept list is fetched. -/
  fetch : Nat := 0
  /-- A list is loaded instead of it. -/
  load : Nat := 0
  /-- The list is looked at once more after it did not admit the source. -/
  recheck : Nat := 0
  /-- A list is loaded in its place. -/
  reload : Nat := 0
  deriving DecidableEq, Repr

namespace Gate

/-- The gate of settings; times are in seconds. -/
def ofSettings (s : AccessSettings) (f : String → File) : Gate where
  source := .ofSettings s f
  canaries := s.canaries
  timeToLive := s.ttlSecs.toNat

/-- Whether a list is kept. -/
def isLoaded (g : Gate) : Bool := g.current.isSome

/-- Drops the kept list. -/
def invalidate (g : Gate) : Gate := { g with current := none }

/-- The kept list, unless it has expired. -/
def fresh? (g : Gate) (now : Nat) : Option AllowList := g.current.filter fun l => !l.expired now

/-! ### Loading -/

/-- Compiles what was read and puts it to the self-test. -/
def vet (canaries : List String) (timeToLive now : Nat)
    (read : Except AccessError (List String)) : Except AccessError AllowList :=
  match read with
  | .error e => .error e
  | .ok patterns =>
    match AllowList.compile patterns timeToLive now with
    | .error e => .error e
    | .ok list =>
      match list.selfTest canaries with
      | .error e => .error e
      | .ok () => .ok list

/-- Counts an attempt to load a list. -/
def countLoad (g : Gate) : Gate := { g with loads := g.loads + 1 }

/-- Keeps the result of an attempt: a list, or nothing. -/
def keep (g : Gate) (result : Except AccessError AllowList) : Gate :=
  { g with current := result.toOption }

/-- Loads a list now. -/
def load (g : Gate) (now : Nat) : Gate × Except AccessError AllowList :=
  let g := g.countLoad
  let result := vet g.canaries g.timeToLive now g.source.contents
  (g.keep result, result)

/-- The kept list, or a new one if that has expired or there is none. -/
def currentOrLoad (g : Gate) (fetch now : Nat) : Gate × Except AccessError AllowList :=
  match g.fresh? fetch with
  | some list => (g, .ok list)
  | none => g.load now

/-! ### Deciding -/

/-- Whether a list admits a source, itself or by one of its host names, which are only asked for if
the source itself is not admitted. -/
def check (g : Gate) (list : AllowList) (source : String) (reverse caseSensitive : Bool) :
    Gate × Bool :=
  if list.admits source caseSensitive then (g, true)
  else if reverse then
    ({ g with asked := g.asked ++ [source] },
      (g.hosts source).any fun host => list.admits host caseSensitive)
  else (g, false)

/-- Whether a source may go on. -/
def allow (g : Gate) (t : Moments) (source : String) (reverse caseSensitive : Bool) :
    Gate × Bool :=
  if source.isEmpty then (g, false)
  else
    match g.currentOrLoad t.fetch t.load with
    | (g, .error _) => (g, false)
    | (g, .ok list) =>
      match g.check list source reverse caseSensitive with
      | (g, true) => (g, true)
      | (g, false) =>
        -- the list may have expired since it was fetched
        if list.expired t.recheck then
          match g.load t.reload with
          | (g, .error _) => (g, false)
          | (g, .ok list) => g.check list source reverse caseSensitive
        else (g, false)

end Gate

end Switchboard
