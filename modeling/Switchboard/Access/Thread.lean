import Switchboard.Access.Gate
import Switchboard.Interleaving

/-!
# The threads of a gate

Several threads ask one gate, while others make it load its list, drop the list, or change what the
source of the list holds. `Gatehouse.move` says what each of them does next, one atomic step at a
time. Only one thread loads at a time, since loading needs the lock; dropping the list does not.

Every reading of the source has a number, which goes along with the list that comes of it, so that
one can tell from which reading a decision was made. A thread that is through stays where it is,
with what it came to.
-/

namespace Switchboard

/-- A gate that several threads use, at a time. -/
structure Gatehouse where
  gate : Gate
  now : Nat := 0
  /-- Someone loads. -/
  locked : Bool := false
  /-- How often the source was read. -/
  readings : Nat := 0
  /-- The reading that the kept list comes from. -/
  keptReading : Nat := 0

/-- What the gate is asked. -/
structure Visit where
  source : String
  reverse : Bool := false
  caseSensitive : Bool := false
  deriving DecidableEq, Repr

namespace Gatehouse

/-! ### Who there is -/

/-- Someone who loads the list, and has the lock. -/
inductive Loader where
  /-- About to count the attempt. -/
  | counting
  /-- About to read the source. -/
  | reading
  /-- About to compile and to test what was read. -/
  | vetting (read : Except AccessError (List String)) (reading : Nat)
  /-- About to keep the result and to leave the lock. -/
  | keeping (result : Except AccessError AllowList) (reading : Nat)
  | loaded (result : Except AccessError AllowList) (reading : Nat)

/-- Someone who asks whether a source may go on. `again` says that a list was asked before, which
expired. -/
inductive Visitor where
  /-- About to fetch the kept list. -/
  | fetching
  /-- Waiting for the lock. -/
  | queueing (again : Bool)
  /-- It has the lock: about to see whether somebody else has loaded meanwhile. -/
  | confirming
  | loading (again : Bool) (l : Loader)
  /-- About to ask a list, which comes from this reading. -/
  | checking (again : Bool) (list : AllowList) (reading : Nat)
  /-- The list did not admit the source: about to see whether it has expired. -/
  | refused (list : AllowList) (reading : Nat)
  /-- It was decided, by a list from this reading, if by a list at all. -/
  | decided (answer : Bool) (reading : Option Nat)

/-- A thread. -/
inductive Thread where
  | visitor (v : Visit) (s : Visitor)
  /-- Someone who wants the list loaded and waits for the lock. -/
  | reloader
  | loader (l : Loader)
  /-- Someone about to drop the kept list. -/
  | invalidator
  | invalidated
  /-- Someone about to change what the source holds. -/
  | editor (contents : Except AccessError (List String))
  | edited

/-! ### What they do -/

/-- The kept list with its reading, unless it has expired. -/
def fresh? (h : Gatehouse) : Option (AllowList × Nat) :=
  (h.gate.fresh? h.now).map fun list => (list, h.keptReading)

/-- A step of loading. -/
def load (h : Gatehouse) : Loader → Option (Gatehouse × Loader)
  | .counting => some ({ h with gate := h.gate.countLoad }, .reading)
  | .reading =>
    some ({ h with readings := h.readings + 1 }, .vetting h.gate.source.contents h.readings)
  | .vetting read reading =>
    some (h, .keeping (Gate.vet h.gate.canaries h.gate.timeToLive h.now read) reading)
  | .keeping result reading =>
    -- the kept list may have been dropped since the reading, which this does not look at
    some ({ h with gate := h.gate.keep result, locked := false, keptReading := reading },
      .loaded result reading)
  | .loaded _ _ => none

/-- A step of asking. -/
def ask (h : Gatehouse) (v : Visit) : Visitor → Option (Gatehouse × Visitor)
  | .fetching =>
    if v.source.isEmpty then some (h, .decided false none)
    else
      match h.fresh? with
      | some (list, reading) => some (h, .checking false list reading)
      | none => some (h, .queueing false)
  | .queueing again =>
    if h.locked then none
    else some ({ h with locked := true }, if again then .loading true .counting else .confirming)
  | .confirming =>
    -- whoever had the lock before may have loaded
    match h.fresh? with
    | some (list, reading) => some ({ h with locked := false }, .checking false list reading)
    | none => some (h, .loading false .counting)
  | .loading again (.loaded (.ok list) reading) => some (h, .checking again list reading)
  | .loading _ (.loaded (.error _) _) => some (h, .decided false none)
  | .loading again l => (h.load l).map fun (h, l) => (h, .loading again l)
  | .checking again list reading =>
    match h.gate.check list v.source v.reverse v.caseSensitive with
    | (gate, true) => some ({ h with gate }, .decided true (some reading))
    | (gate, false) =>
      some ({ h with gate },
        if again then .decided false (some reading) else .refused list reading)
  | .refused list reading =>
    some (h, if list.expired h.now then .queueing true else .decided false (some reading))
  | .decided _ _ => none

/-- The source holds something else. -/
def edit (h : Gatehouse) (contents : Except AccessError (List String)) : Gatehouse :=
  { h with gate := { h.gate with source := { h.gate.source with contents } } }

/-- The move of a thread at the present time. -/
def moveNow (h : Gatehouse) : Thread → Option (Move Gatehouse Thread)
  | .visitor v s => (h.ask v s).bind fun (h, s) => Move.goOn h (.visitor v s)
  | .reloader => if h.locked then none else Move.goOn { h with locked := true } (.loader .counting)
  | .loader l => (h.load l).bind fun (h, l) => Move.goOn h (.loader l)
  | .invalidator => Move.goOn { h with gate := h.gate.invalidate } .invalidated
  | .invalidated => none
  | .editor contents => Move.goOn (h.edit contents) .edited
  | .edited => none

/-- The move of a thread, some time after the move before it. -/
def move : Program Nat Gatehouse Thread := fun elapsed h t =>
  { h with now := h.now + elapsed }.moveNow t

end Gatehouse

end Switchboard
