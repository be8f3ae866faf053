import Switchboard.Shutdown.Switch

/-!
# The lifecycle of components

Components register with a lifecycle. When the shutdown is requested for the first time, the
lifecycle's switch is flipped and a sweep tells every registered component that is not quitting
yet to quit; a component that registers later is told at once. A component that panics while
quitting does not keep the others from being told.

A component may itself use the lifecycle when it is told to quit: `Reaction` lists what it may do.

* `Lifecycle.enroll` registers a component;
* `Lifecycle.requestQuit` asks for the shutdown and lets the sweep that this may start run to its
  end;
* `Lifecycle.setSwitch` flips the shared switch without a sweep.
-/

namespace Switchboard

/-- What a component does when it is told to quit. -/
inductive Reaction where
  /-- It sets its flag. -/
  | heed
  /-- It panics. -/
  | explode
  /-- It does nothing. -/
  | ignore
  /-- It registers a new component and sets its flag. -/
  | spawn
  /-- It requests the shutdown itself and sets its flag. -/
  | reenter
  deriving DecidableEq, Repr, Inhabited

/-- A component: how it reacts, how often it was told, its flag, and whether another component
made it. -/
structure Component where
  reaction : Reaction
  calls : Nat := 0
  flag : Switch := {}
  spawned : Bool := false
  deriving DecidableEq, Repr, Inhabited

namespace Component

/-- The name of a component that chooses none. -/
def name : String := "component"

/-- Counts a call. -/
def count (c : Component) : Component := { c with calls := c.calls + 1 }

/-- Asks the component's flag to take a value. -/
def setFlag (c : Component) (quit : Bool) : Component := { c with flag := (c.flag.set quit).1 }

/-- A component told to quit, as far as its own state goes. -/
def told (c : Component) (quit : Bool) : Component :=
  match c.reaction with
  | .heed | .spawn | .reenter => c.count.setFlag quit
  | .explode | .ignore => c.count

end Component

/-- The lifecycle and the components made so far; a component is known by its place in the list. -/
structure Lifecycle where
  switch : Switch := {}
  /-- The sweep has begun. -/
  ran : Bool := false
  /-- The registered components that the sweep has not taken yet. -/
  members : List Nat := []
  components : List Component := []
  deriving DecidableEq, Repr, Inhabited

namespace Lifecycle

/-- Whether the shutdown was requested. -/
def quitting (l : Lifecycle) : Bool := l.switch.quitting

/-- Changes a component. -/
def modify (l : Lifecycle) (id : Nat) (f : Component → Component) : Lifecycle :=
  { l with components := l.components.modify id f }

/-- Makes a component, without registering it. -/
def create (l : Lifecycle) (c : Component) : Lifecycle × Nat :=
  ({ l with components := l.components ++ [c] }, l.components.length)

/-- Registers a component that only sets its flag when it is told. -/
def enrollPlain (l : Lifecycle) (id : Nat) : Lifecycle :=
  if l.quitting || l.ran then l.modify id (·.told true)
  else { l with members := l.members ++ [id] }

/-- The component that a spawning one makes is registered. -/
def spawnChild (l : Lifecycle) : Lifecycle :=
  let (l, id) := l.create { reaction := .heed, spawned := true }
  l.enrollPlain id

/-- Tells a component to quit after the shutdown was requested, when requesting it once more does
nothing. -/
def notify (l : Lifecycle) (id : Nat) (quit : Bool) : Lifecycle :=
  match l.components[id]? with
  | none => l
  | some c =>
    let l := if c.reaction = .spawn then l.spawnChild else l
    l.modify id (·.told quit)

/-- Tells a component to quit unless it already is quitting. -/
def notifyUnlessQuitting (l : Lifecycle) (id : Nat) : Lifecycle :=
  match l.components[id]? with
  | none => l
  | some c => if c.flag.quitting then l else l.notify id true

/-- The sweep: the first one takes all members and tells them. -/
def sweep (l : Lifecycle) : Lifecycle :=
  if l.ran then l
  else l.members.foldl notifyUnlessQuitting { l with ran := true, members := [] }

/-- Requests the shutdown; only the request that flips the switch sweeps. -/
def requestQuit (l : Lifecycle) (quit : Bool) : Lifecycle :=
  match l.switch.set quit with
  | (switch, true) => { l with switch }.sweep
  | (_, false) => l

/-- Tells a component to take a value, whether or not the shutdown was requested. -/
def tell (l : Lifecycle) (id : Nat) (quit : Bool) : Lifecycle :=
  match l.components[id]? with
  | none => l
  | some c =>
    let l := match c.reaction with
      | .spawn => l.spawnChild
      | .reenter => l.requestQuit true
      | _ => l
    l.modify id (·.told quit)

/-- Registers a component; after the shutdown was requested it is told to quit at once. -/
def enroll (l : Lifecycle) (id : Nat) : Lifecycle :=
  if l.quitting || l.ran then l.tell id true
  else { l with members := l.members ++ [id] }

/-- Asks the shared switch to take a value, which sweeps nothing. -/
def setSwitch (l : Lifecycle) (quit : Bool) : Lifecycle :=
  { l with switch := (l.switch.set quit).1 }

end Lifecycle

end Switchboard
