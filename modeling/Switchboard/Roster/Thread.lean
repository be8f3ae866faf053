import Switchboard.Interleaving
import Switchboard.Roster

/-!
# The threads of a roster

Who works on a roster at the same time: those who register a handler, those who take an instance,
the refills that taking starts, and those who stage copies of everything. `Roster.move` says what
each of them does next, one atomic step at a time; copies are made outside of the lock.

A thread that is through stays where it is, with what it came to, so that a thread is known by its
place among the others.
-/

namespace Switchboard

namespace Roster

/-! ### Who there is -/

/-- Someone who registers a handler. -/
inductive Registrar where
  /-- About to install the template. -/
  | installing (command : String) (t : Template)
  /-- The template of this number was installed: about to announce it. -/
  | announcing (command : String) (template : Nat)
  | registered (command : String) (template : Nat)

/-- Someone who stages copies. -/
inductive Filler where
  /-- About to make a copy. -/
  | copying (key : String) (template : Nat)
  /-- About to offer a copy. -/
  | offering (key : String) (i : Instance)
  /-- A copy was turned down. -/
  | filled
  /-- Making a copy panicked. -/
  | panicked
  deriving DecidableEq, Repr

/-- Someone who takes an instance. -/
inductive Taker where
  /-- About to look for the template of a command. -/
  | looking (command : String)
  /-- There was none: about to look for the default. -/
  | fallingBack
  /-- About to claim an instance under the lock. -/
  | claiming (key : String) (template : Nat)
  /-- It marked the command: about to start the refill. -/
  | spawning (key : String) (template : Nat) (staged : Option Instance)
  /-- No instance was staged: about to make a copy. -/
  | copying (key : String) (template : Nat)
  | served (key : String) (i : Instance)
  | unserved
  | panicked
  deriving DecidableEq, Repr

/-- A thread. -/
inductive Thread where
  | registrar (g : Registrar)
  | taker (t : Taker)
  /-- The refill of a command. -/
  | refill (key : String) (f : Filler)
  /-- A refill that has taken the mark off its command. -/
  | refilled (key : String)
  /-- About to see what there is to be staged. -/
  | stocktaker
  /-- Staging one thing after the other. -/
  | stager (f : Filler) (rest : List (String × Nat))

/-! ### What they do -/

/-- A step of registering. -/
def Registrar.step (r : Roster) : Registrar → Option (Roster × Registrar)
  | installing command t => some (r.install command t, announcing command r.templates.length)
  | announcing command template => some (r.announce, registered command template)
  | registered _ _ => none

/-- A step of staging copies. -/
def Filler.step (r : Roster) : Filler → Option (Roster × Filler)
  | copying key template =>
    match r.copy template with
    | (r, some i) => some (r, offering key i)
    | (r, none) => some (r, panicked)
  | offering key i =>
    match r.offer key i with
    | (r, true) => some (r, copying key i.template)
    | (r, false) => some (r, filled)
  | filled => none
  | panicked => none

/-- Where someone who has claimed goes on: a staged instance is handed out, else a copy is made. -/
def Taker.ofClaim (key : String) (template : Nat) : Option Instance → Taker
  | some i => served key i
  | none => copying key template

/-- The move of someone who takes an instance. A refill that cannot be started gives its mark
back. -/
def moveTaker (r : Roster) (canStart : Bool) : Taker → Option (Move Roster Thread)
  | .looking command =>
    match r.template? command with
    | some template => Move.goOn r (.taker (.claiming command template))
    | none => Move.goOn r (.taker .fallingBack)
  | .fallingBack =>
    match r.template? defaultCommand with
    | some template => Move.goOn r (.taker (.claiming defaultCommand template))
    | none => Move.goOn r (.taker .unserved)
  | .claiming key template =>
    -- the template may have been replaced since it was looked for
    match r.claim key with
    | (r, staged, true) => Move.goOn r (.taker (.spawning key template staged))
    | (r, staged, false) => Move.goOn r (.taker (.ofClaim key template staged))
  | .spawning key template staged =>
    if canStart then
      Move.start r (.taker (.ofClaim key template staged)) (.refill key (.copying key template))
    else Move.goOn (r.unmark key) (.taker (.ofClaim key template staged))
  | .copying key template =>
    match r.copy template with
    | (r, some i) => Move.goOn r (.taker (.served key i))
    | (r, none) => Move.goOn r (.taker .panicked)
  | .served _ _ => none
  | .unserved => none
  | .panicked => none

/-- The move of a refill. It takes the mark off once a copy was turned down. -/
def moveRefill (r : Roster) (key : String) : Filler → Option (Move Roster Thread)
  | .filled => Move.goOn (r.unmark key) (.refilled key)
  | f => (f.step r).bind fun (r, f) => Move.goOn r (.refill key f)

/-- The move of someone who stages things. -/
def moveStager (r : Roster) (rest : List (String × Nat)) : Filler → Option (Move Roster Thread)
  | .filled =>
    match rest with
    | [] => none
    | (key, template) :: rest => Move.goOn r (.stager (.copying key template) rest)
  | f => (f.step r).bind fun (r, f) => Move.goOn r (.stager f rest)

/-- The move of a thread; `canStart` says whether the system can start one more. -/
def move : Program Bool Roster Thread := fun canStart r t =>
  match t with
  | .registrar g => (g.step r).bind fun (r, g) => Move.goOn r (.registrar g)
  | .taker t => r.moveTaker canStart t
  | .refill key f => r.moveRefill key f
  | .refilled _ => none
  -- an empty stager takes up what is next
  | .stocktaker => Move.goOn r (.stager .filled r.inventory)
  | .stager f rest => r.moveStager rest f

end Roster

end Switchboard
