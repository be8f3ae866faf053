import Switchboard.Settings.Data
import Switchboard.Settings.Problem
import Switchboard.Text.File
import Switchboard.Toml.Document

/-!
# Loading settings

Settings are loaded from a TOML document, and only valid ones are accepted.
-/

namespace Switchboard

/-- Why settings cannot be loaded. -/
inductive LoadError where
  | unreadable (e : FileError)
  | malformed
  | invalid (problems : List Problem)
  deriving DecidableEq, Repr

namespace LoadError

/-- What is wrong, in words. -/
def message : LoadError → String
  | unreadable e => "IO error: " ++ e.message
  | malformed => "Parse error"
  | invalid problems => Problem.summary problems

end LoadError

namespace Settings

/-- Accepts valid settings. -/
def checked (s : Settings) : Except LoadError Settings :=
  match s.problems with
  | [] => .ok s
  | problems => .error (.invalid problems)

/-- The settings that a document describes. -/
def parse (text : String) : Except LoadError Settings :=
  match (Toml.parse? text).bind fun ms => ofJson? .toml (.obj (Toml.membersToJson ms)) with
  | some s => s.checked
  | none => .error .malformed

/-- The settings in a file. -/
def load (f : File) : Except LoadError Settings :=
  match f.text with
  | .ok text => parse text
  | .error e => .error (.unreadable e)

end Settings

end Switchboard
