import Switchboard.Access.AllowList
import Switchboard.Settings.Basic
import Switchboard.Text.Blank
import Switchboard.Toml.Document

/-!
# Sources of allow lists

The patterns of an allow list are given in the settings or kept in a TOML file under a key. In a
file they are an array of strings, or one string with a pattern on each line, where blank lines and
lines that start with `#` do not count.

A source is where the patterns come from together with what loading them yields at present.
-/

namespace Switchboard

/-- A source of patterns. -/
structure AllowSource where
  description : String
  contents : Except AccessError (List String)

namespace AllowSource

/-- Patterns that are fixed. -/
def inline (patterns : List String) : AllowSource where
  description := "inline"
  contents := .ok patterns

/-- The pattern on a line, if there is one. -/
def patternLine? (line : List Char) : Option String :=
  let line := Blank.trimChars line
  if line.isEmpty || line.head? = some '#' then none else some (String.ofList line)

/-- The patterns on the lines of a text. -/
def patternLines (text : String) : List String := (text.toList.splitOn '\n').filterMap patternLine?

/-- The patterns under a key of a table, if there are any. -/
def patterns? (ms : Toml.Members) (key : String) : Option (List String) :=
  match ms.get? key with
  | some (.arr items) => items.mapM Toml.Value.str?
  | some (.str text) => some (patternLines text)
  | _ => none

/-- What loading a file yields. -/
def readFile (name key : String) (f : File) : Except AccessError (List String) :=
  match f.text with
  | .error e => .error (.unreadable name e)
  | .ok text =>
    match Toml.parse? text with
    | none => .error (.malformed name)
    | some ms =>
      match patterns? ms key with
      | some ps => .ok ps
      | none => .error (.missingKey name key)

/-- Patterns in a file. -/
def file (name key : String) (f : File) : AllowSource where
  description := name ++ "#" ++ key
  contents := readFile name key f

/-- The source that settings name: a file, if there is one, else the patterns given directly. -/
def ofSettings (s : AccessSettings) (f : String → File) : AllowSource :=
  match s.allowFile with
  | some name => file name s.allowKey (f name)
  | none => inline s.allow

end AllowSource

end Switchboard
