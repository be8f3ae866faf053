import Switchboard.Handler.Stock
import Switchboard.Server.Network

/-!
# The command line

`--config FILE` names a file with settings and `--bind ADDRESS` takes the place of the address in
them. The program builds a server with the stock handlers from the settings and serves one client
by it: the client's bytes come over standard input, and what the server sends goes to standard
output.
-/

namespace Switchboard

/-! ### Arguments -/

/-- What the command line asks for. -/
structure Invocation where
  settingsFile : Option String := none
  bindAddress : Option String := none
  deriving DecidableEq, Repr

namespace Invocation

/-- Reads arguments on top of those that were read before; each option is given at most once. The
error names the argument that was not understood. -/
def readFrom (i : Invocation) : List String → Except String Invocation
  | [] => .ok i
  | [option] => .error option
  | option :: value :: args =>
    if option = "--config" ∨ option = "-c" then
      if i.settingsFile.isSome then .error option
      else readFrom { i with settingsFile := some value } args
    else if option = "--bind" then
      if i.bindAddress.isSome then .error option
      else readFrom { i with bindAddress := some value } args
    else .error option

/-- Reads the arguments of a command line. -/
def ofArguments (args : List String) : Except String Invocation := readFrom {} args

/-- The settings that an invocation asks for, given what is in its settings file. -/
def settings (i : Invocation) (file : File) : Except LoadError Settings := do
  let s ← if i.settingsFile.isSome then Settings.load file else .ok {}
  match i.bindAddress with
  | some address => return { s with listener := { s.listener with bindAddress := address } }
  | none => return s

end Invocation

/-! ### The stock server -/

/-- The stock handlers under their commands; whatever has no command of its own is written back. -/
def Roster.stock (s : PoolSettings) : Roster :=
  [("/version", Stock.version), ("/echo", Stock.echo), ("/go", Stock.redirect "/version" true),
    ("", Stock.echo)].foldl (fun r (command, t) => r.register command t)
    (.empty s.minStaged.toNat s.maxStaged.toNat)

/-- The server of settings with the stock handlers, started; `f` is what is in the file of the allow
list. -/
def Server.stock (s : Settings) (f : File) : Except ServerError Server :=
  match Listener.bind s.listener with
  | .error e => .error (.listener e)
  | .ok _ =>
    match Server.build s (.ofSettings s.access fun _ => f) (.stock s.pool) [] with
    | .error e => .error e
    | .ok server => server.start

/-! ### Running -/

/-- What is in a file; a file that cannot be read counts as missing. -/
def readFile (name : String) : IO File := do
  match ← (IO.FS.readBinFile name).toBaseIO with
  | .ok bytes => return some bytes.toList
  | .error _ => return none

/-- Reads at least so many bytes of a stream, or all that there are. -/
def readBytes (h : IO.FS.Stream) (before : ByteArray) : Nat → IO ByteArray
  | 0 => return before
  | n + 1 => do
    let bytes ← h.read 65536
    if bytes.isEmpty then return before else readBytes h (before ++ bytes) n

/-- An identifier that no other request has. -/
def freshId : IO RequestId := do
  let word (bytes : List UInt8) : UInt64 := bytes.foldl (fun n b => n <<< 8 ||| b.toUInt64) 0
  let bytes := (← IO.getRandomBytes 16).toList
  return .ofRandom (word (bytes.take 8)) (word (bytes.drop 8))

/-- Says what went wrong. -/
def complain (message : String) : IO UInt32 := do
  (← IO.getStderr).putStrLn ("Error: " ++ message)
  return 1

/-- Serves the client on the standard streams. -/
def run (i : Invocation) : IO UInt32 := do
  match i.settings (← (i.settingsFile.elim (pure none) readFile)) with
  | .error e => complain (ServerError.settings e).message
  | .ok s =>
    match Server.stock s (← (s.access.allowFile.elim (pure none) readFile)) with
    | .error e => complain e.message
    | .ok server =>
      let bytes ← readBytes (← IO.getStdin) .empty s.listener.maxRequestBytes.toNat
      let (_, answer) := server.serve (← freshId) (.ofBytes bytes.toList false)
      let out ← IO.getStdout
      out.write ⟨answer.toArray⟩
      out.flush
      return 0

end Switchboard

/-- Serves one client as the arguments ask. -/
def main (args : List String) : IO UInt32 := do
  match Switchboard.Invocation.ofArguments args with
  | .error argument => Switchboard.complain ("unexpected argument " ++ argument)
  | .ok i => Switchboard.run i
