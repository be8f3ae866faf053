import Switchboard.Roster

/-!
# Routes

A request's path is served by the command of the same text or by its longest registered ancestor,
the text before one of its slashes. `Route.ancestors` lists the ancestors, longest first, and
`Route.lookup` is the plain rule.

`RouteMemo` remembers derived answers for the set of commands it last saw, the most recently used
in front and at most so many; `RouteMemo.resolve` answers a path through it. Resolving is a
sequence of atomic steps — the exact check, reading the generation, `lookUp`, the probes of the
ancestors, `remember` — between which another thread may register commands.
-/

namespace Switchboard

namespace Route

/-- The ancestors of a path whose characters before the present point are known, in reverse;
shortest first. -/
def ancestorsFrom (before : List Char) : List Char → List String
  | [] => []
  | c :: rest =>
    if c = '/' then
      String.ofList (if before.isEmpty then ['/'] else before.reverse)
        :: ancestorsFrom (c :: before) rest
    else ancestorsFrom (c :: before) rest

/-- The ancestors of a path, longest first: for each slash the text before it, and `/` itself for
a slash at the beginning. -/
def ancestors (path : String) : List String := (ancestorsFrom [] path.toList).reverse

/-- The command that serves a path: the path itself if it is registered, else the longest
registered ancestor. -/
def lookup (registered : String → Bool) (path : String) : Option String :=
  if registered path then some path else (ancestors path).find? registered

end Route

/-- Derived answers, most recently used first, for one generation of commands. -/
structure RouteMemo where
  bound : Nat
  generation : Nat := 0
  entries : List (String × String) := []
  scans : Nat := 0
  deriving DecidableEq, Repr, Inhabited

namespace RouteMemo

/-- A memo of at most so many answers; zero counts as one. -/
def ofCapacity (capacity : Nat) : RouteMemo := { bound := max capacity 1 }

/-- The answers of another generation are forgotten; a remembered answer moves to the front. -/
def lookUp (m : RouteMemo) (generation : Nat) (path : String) : RouteMemo × Option String :=
  let m := if m.generation = generation then m else { m with generation, entries := [] }
  match m.entries.find? fun e => e.1 == path with
  | some e => ({ m with entries := e :: m.entries.filter fun d => d.1 != path }, some e.2)
  | none => (m, none)

/-- Counts a scan of a path's ancestors. -/
def countScan (m : RouteMemo) : RouteMemo := { m with scans := m.scans + 1 }

/-- An answer derived for a generation is put in front, unless the memo has moved on; the answers
that were used longest ago make room. -/
def remember (m : RouteMemo) (generation : Nat) (path command : String) : RouteMemo :=
  -- an answer that was derived from older commands is not worth remembering
  if m.generation = generation then
    { m with entries :=
        ((path, command) :: m.entries.filter fun d => d.1 != path).take m.bound }
  else m

/-- The command that serves a path, for a roster that no one else changes meanwhile. -/
def resolve (m : RouteMemo) (roster : Roster) (path : String) : RouteMemo × Option String :=
  if roster.contains path then (m, some path)
  else
    match m.lookUp roster.generation path with
    | (m, some command) => (m, some command)
    | (m, none) =>
      let m := m.countScan
      match (Route.ancestors path).find? roster.contains with
      | some command => (m.remember roster.generation path command, some command)
      | none => (m, none)

end RouteMemo

end Switchboard
