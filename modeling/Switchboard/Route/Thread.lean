import Switchboard.Roster.Thread
import Switchboard.Route

/-!
# The threads of a route memo

Several threads resolve paths through one memo, while others register handlers. `Routing.move` says
what each of them does next, one atomic step at a time: the roster may change between any two probes
of one resolution. A thread that is through stays where it is, with what it came to.
-/

namespace Switchboard

/-- A roster and the memo of its routes. -/
structure Routing where
  roster : Roster
  memo : RouteMemo

namespace Routing

/-! ### Who there is -/

/-- Someone who resolves a path. -/
inductive Resolver where
  /-- About to see whether the path itself is registered. -/
  | checking
  /-- About to read the generation. -/
  | reading
  /-- About to look into the memo. -/
  | lookingUp (generation : Nat)
  /-- The memo does not know: about to count a scan. -/
  | counting (generation : Nat)
  /-- About to see whether the first of these is registered. -/
  | probing (generation : Nat) (candidates : List String)
  /-- About to remember what was found. -/
  | remembering (generation : Nat) (command : String)
  | resolved (answer : Option String)
  deriving DecidableEq, Repr

/-- A thread. -/
inductive Thread where
  | registrar (g : Roster.Registrar)
  | resolver (path : String) (s : Resolver)

/-! ### What they do -/

/-- A step of resolving a path. -/
def resolve (r : Routing) (path : String) : Resolver → Option (Routing × Resolver)
  | .checking =>
    some (r, if r.roster.contains path then .resolved (some path) else .reading)
  | .reading => some (r, .lookingUp r.roster.generation)
  | .lookingUp generation =>
    match r.memo.lookUp generation path with
    | (memo, some command) => some ({ r with memo }, .resolved (some command))
    | (memo, none) => some ({ r with memo }, .counting generation)
  | .counting generation =>
    some ({ r with memo := r.memo.countScan }, .probing generation (Route.ancestors path))
  | .probing _ [] => some (r, .resolved none)
  | .probing generation (candidate :: rest) =>
    some (r,
      if r.roster.contains candidate then .remembering generation candidate
      else .probing generation rest)
  | .remembering generation command =>
    some ({ r with memo := r.memo.remember generation path command }, .resolved (some command))
  | .resolved _ => none

/-- The move of a thread. -/
def move : Program Unit Routing Thread := fun _ r t =>
  match t with
  | .registrar g => (g.step r.roster).bind fun (roster, g) =>
    Move.goOn { r with roster } (.registrar g)
  | .resolver path s => (r.resolve path s).bind fun (r, s) => Move.goOn r (.resolver path s)

end Routing

end Switchboard
