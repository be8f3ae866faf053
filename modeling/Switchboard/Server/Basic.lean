import Switchboard.Pipeline.Engine
import Switchboard.Server.Error
import Switchboard.Shutdown.Lifecycle

/-!
# The server

The engine behind an accept loop, as a member of a lifecycle. Quitting is for ever. When connections
under way are to be abandoned, it also closes the workers and the queue; when they are to be
completed, `Server.join` lets everything finish first.
-/

namespace Switchboard

/-- The server. Its component in the lifecycle is there once it was started. -/
structure Server where
  settings : Settings
  engine : Engine
  lifecycle : Lifecycle := {}
  member : Option Nat := none
  started : Bool := false
  joined : Bool := false

namespace Server

/-- Builds a server from valid settings, with its gate, its handlers and its observers. -/
def build (s : Settings) (gate : Gate) (roster : Roster) (observers : List Observer) :
    Except ServerError Server :=
  match s.checked with
  | .error e => .error (.settings e)
  | .ok s =>
    match EventQueue.ofCapacity s.queue.capacity.toNat observers with
    | .error e => .error (.queue e)
    | .ok queue =>
      .ok { settings := s, engine := .ofPipeline (.ofSettings s gate roster queue) }

/-! ### Views -/

/-- The shared state of the threads. -/
def pipeline (s : Server) : Pipeline := s.engine.pipeline

/-- Whether the server is quitting. -/
def quitting (s : Server) : Bool := s.pipeline.quit.quitting

/-- Changes the shared state of the threads. -/
def modify (s : Server) (f : Pipeline → Pipeline) : Server :=
  { s with engine := s.engine.modify f }

/-! ### Quitting -/

/-- The flag of the server's component follows its switch. -/
def markMember (s : Server) : Server :=
  match s.member with
  | some id => { s with lifecycle := s.lifecycle.modify id (·.setFlag true) }
  | none => s

/-- Asks the server to quit; clearing is ignored. -/
def setQuitting (s : Server) (quit : Bool) : Server :=
  match s.pipeline.quit.set quit with
  | (_, false) => s
  | (switch, true) =>
    let s := (s.modify fun p => { p with quit := switch }).markMember
    -- workers that take nothing more make the dispatcher discard what it still holds
    if s.pipeline.drain = .abandon then { s with engine := s.engine.stopAccepting.closeQueue.1 }
    else s

/-- If the lifecycle told the server's component to quit, the server quits. -/
def heed (s : Server) : Server :=
  match s.member.bind fun id => s.lifecycle.components[id]? with
  | some c => s.setQuitting c.flag.quitting
  | none => s

/-- Asks the lifecycle for the shutdown of all its members. -/
def requestQuit (s : Server) (quit : Bool) : Server :=
  { s with lifecycle := s.lifecycle.requestQuit quit }.heed

/-! ### Starting -/

/-- The server becomes a member of its lifecycle; if that is quitting, so is the server. -/
def enroll (s : Server) : Server :=
  let (lifecycle, id) := s.lifecycle.create { reaction := .heed, flag := s.pipeline.quit }
  { s with lifecycle := lifecycle.enroll id, member := some id }.heed

/-- Starts the dispatcher and the accept loop, with the handlers staged; only once. -/
def start (s : Server) : Except ServerError Server :=
  if s.started then .error .alreadyStarted
  else
    let s := { s with started := true }.enroll
    let s := s.modify fun p => { p with roster := p.roster.prestage }
    .ok { s with engine := s.engine.start.add (.acceptor .looping) }

/-! ### Running -/

/-- Lets the threads move in turn until nobody can. -/
def settle (s : Server) (i : Chance := {}) : Server := { s with engine := s.engine.settle i }

/-- The input offers something more. -/
def offer (s : Server) (a : Arrival) : Server :=
  s.modify fun p => { p with incoming := p.incoming ++ [a] }

/-- A latch lets go on what waits for it. -/
def releaseLatch (s : Server) (key : String) : Server :=
  s.modify fun p => { p with released := p.released ++ [key] }

/-- Waits for the accept loop to end, lets the connections under way finish as long as the grace
lasts if they are to be completed, and ends everything. A server that was not started, or was joined
before, has nothing to wait for. -/
def join (s : Server) : Server :=
  if s.started && !s.joined then
    let s := s.settle
    if s.pipeline.acceptEnded then
      let engine := ((s.engine.add (.joiner .waiting)).settle.settle { graceOver := true }).shutdown
      { s with joined := true, engine }
    else s
  else s

end Server

end Switchboard
