import Switchboard.Handler.Basic

/-!
# The roster of handlers

Which template serves which command, and the copies that stand ready for it. A command's staged
copies belong to its registration, so replacing a template drops them. When a request takes a copy
and fewer than the low mark remain, the stock is refilled to the high mark in the background; a
mark on the command keeps a second refill from starting meanwhile.

The operations are sequences of atomic steps, which several threads may interleave:

* registering is `install` and then `announce`;
* taking an instance is `keyFor?`, `claim`, and `copy` if nothing was staged;
* a refill repeats `copy` and `offer` until the offer is turned down, and then `unmark`s.

`Roster.register`, `Roster.take`, `Roster.fill` and `Roster.prestage` run them back to back.
-/

namespace Switchboard

/-- The command of the handler for requests that no other command matches. -/
def defaultCommand : String := ""

/-- A command's registration: its template, by number, and the copies ready for it, of which the
last staged is the first to be taken. -/
structure Registration where
  command : String
  template : Nat
  staged : List Instance := []
  deriving DecidableEq, Repr, Inhabited

/-- The templates ever registered, each with the number of copies made of it; the registrations in
force, one for each command; the marks of the running refills; how often something was registered
and how many copies were made. -/
structure Roster where
  low : Nat
  high : Nat
  templates : List (Template × Nat) := []
  registrations : List Registration := []
  refilling : List String := []
  generation : Nat := 0
  copiesMade : Nat := 0
  deriving Inhabited

namespace Roster

/-- A roster with nothing registered. -/
def empty (low high : Nat) : Roster := { low, high }

/-! ### Views -/

/-- The registration of a command. -/
def find? (r : Roster) (command : String) : Option Registration :=
  r.registrations.find? fun e => e.command == command

/-- Whether a command is registered. -/
def contains (r : Roster) (command : String) : Bool := (r.find? command).isSome

/-- The registered commands in order. -/
def commands (r : Roster) : List String :=
  (r.registrations.map (·.command)).mergeSort fun a b => a ≤ b

/-- How many commands are registered. -/
def size (r : Roster) : Nat := r.registrations.length

/-- How many copies are staged for a command. -/
def stagedLength (r : Roster) (command : String) : Nat :=
  match r.find? command with
  | some e => e.staged.length
  | none => 0

/-- Whether a refill of a command is under way. -/
def isRefilling (r : Roster) (command : String) : Bool := r.refilling.contains command

/-! ### Atomic steps -/

/-- Replaces the registration of a command, or adds one at the end. -/
def put (e : Registration) : List Registration → List Registration
  | [] => [e]
  | d :: rest => if d.command = e.command then e :: rest else d :: put e rest

/-- Changes the registration of a command. -/
def update (r : Roster) (command : String) (f : Registration → Registration) : Roster :=
  { r with registrations :=
      r.registrations.map fun e => if e.command = command then f e else e }

/-- Registering, first step: the template takes the command over, with nothing staged. -/
def install (r : Roster) (command : String) (t : Template) : Roster :=
  { r with
    templates := r.templates ++ [(t, 0)]
    registrations := put { command, template := r.templates.length } r.registrations }

/-- Registering, second step: whoever remembers answers learns that they may be out of date. -/
def announce (r : Roster) : Roster := { r with generation := r.generation + 1 }

/-- The command under which a request for a command is served: itself, else the default. -/
def keyFor? (r : Roster) (command : String) : Option String :=
  if r.contains command then some command
  else if r.contains defaultCommand then some defaultCommand
  else none

/-- The number of the template registered for a command. -/
def template? (r : Roster) (command : String) : Option Nat :=
  (r.find? command).map (·.template)

/-- Taking, under the lock: the copy staged last, and whether this taking starts a refill, in
which case the command is marked. -/
def claim (r : Roster) (key : String) : Roster × Option Instance × Bool :=
  match r.find? key with
  | none => (r, none, false)
  | some e =>
    let staged := e.staged.dropLast
    -- what is compared is the stock after this taking
    let refill := staged.length < r.low && !r.isRefilling key
    let r := r.update key fun e => { e with staged }
    ({ r with refilling := if refill then r.refilling ++ [key] else r.refilling },
      e.staged.getLast?, refill)

/-- Makes a copy of a template, which counts even if it panics. -/
def copy (r : Roster) (template : Nat) : Roster × Option Instance :=
  match r.templates[template]? with
  | none => (r, none)
  | some (t, made) =>
    ({ r with
        templates := r.templates.set template (t, made + 1)
        copiesMade := r.copiesMade + 1 },
      if t.copyPanics (made + 1) then none else some { template, number := made + 1 })

/-- Refilling, under the lock: a copy is staged if its template still serves the command and the
high mark is not reached. The answer is whether it was. -/
def offer (r : Roster) (key : String) (i : Instance) : Roster × Bool :=
  match r.find? key with
  | none => (r, false)
  | some e =>
    if e.template = i.template ∧ e.staged.length < r.high then
      (r.update key fun e => { e with staged := e.staged ++ [i] }, true)
    else (r, false)

/-- Refilling, at the end: the mark is taken off. -/
def unmark (r : Roster) (key : String) : Roster :=
  { r with refilling := r.refilling.filter (· ≠ key) }

/-! ### Whole operations -/

/-- Adds or replaces the handler of a command. -/
def register (r : Roster) (command : String) (t : Template) : Roster :=
  (r.install command t).announce

/-- Stages copies of a template until one is turned down, at most so many. The answer tells
whether making a copy panicked, which ends the filling. -/
def fillUpTo (r : Roster) (key : String) (template : Nat) : Nat → Roster × Bool
  | 0 => (r, false)
  | n + 1 =>
    match r.copy template with
    | (r, none) => (r, true)
    | (r, some i) =>
      -- the copy that is turned down was made all the same
      match r.offer key i with
      | (r, true) => fillUpTo r key template n
      | (r, false) => (r, false)

/-- Stages copies of a template until one is turned down: the staged copies never exceed the high
mark, so one more than it is enough. -/
def fill (r : Roster) (key : String) (template : Nat) : Roster × Bool :=
  r.fillUpTo key template (r.high + 1)

/-- A background refill from beginning to end. A panic while copying ends it at once. -/
def refill (r : Roster) (key : String) (template : Nat) : Roster :=
  match r.fill key template with
  -- nobody is left to take the mark off
  | (r, true) => r
  | (r, false) => r.unmark key

/-- What taking an instance yields. -/
inductive Taken where
  | handed (i : Instance)
  /-- Neither the command nor the default is registered. -/
  | unserved
  /-- Nothing was staged, and making a copy panicked. -/
  | panicked
  deriving DecidableEq, Repr

/-- Takes an instance for a command, and lets the refill that this may start run to its end. -/
def take (r : Roster) (command : String) : Roster × Taken :=
  match r.keyFor? command with
  | none => (r, .unserved)
  | some key =>
    match r.template? key with
    | none => (r, .unserved)
    | some template =>
      let (r, staged, refills) := r.claim key
      let (r, taken) : Roster × Taken := match staged with
        | some i => (r, .handed i)
        | none =>
          match r.copy template with
          | (r, some i) => (r, .handed i)
          | (r, none) => (r, .panicked)
      (if refills then r.refill key template else r, taken)

/-- Fills the stock of every command of a list. A panic while copying ends it at once. -/
def fillAll (r : Roster) : List (String × Nat) → Roster
  | [] => r
  | (key, template) :: rest =>
    match r.fill key template with
    | (r, true) => r
    | (r, false) => fillAll r rest

/-- What there is to be staged: every registered command with its template. -/
def inventory (r : Roster) : List (String × Nat) :=
  r.registrations.map fun e => (e.command, e.template)

/-- Stages copies of every template up to the high mark. -/
def prestage (r : Roster) : Roster := r.fillAll r.inventory

/-- Runs an instance on a request. -/
def run (r : Roster) (i : Instance) (request : Request) : Instance × HandlerEnd :=
  let i := { i with uses := i.uses + 1 }
  match r.templates[i.template]? with
  | some (t, _) => (i, t.handle i.number i.uses request)
  | none => (i, .failed (.failed "no such template"))

end Roster

end Switchboard
