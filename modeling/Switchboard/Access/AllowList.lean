import Switchboard.Regex.Matcher
import Switchboard.Regex.Reader
import Switchboard.Text.File
import Switchboard.Text.Quoted

/-!
# Allow lists

An allow list holds the patterns of the sources that may send requests. A pattern is compiled
twice, with and without regard to case, and each time as the text of a whole line: between a
circumflex and a group on one side and the end of the group and a dollar sign on the other.

A list is stamped with the time it was loaded and expires after its time to live. Before a list is
used it has to pass a self-test: no pattern may admit one of the canaries, sources known to be bad.
-/

namespace Switchboard

/-- Why an allow list cannot be loaded. -/
inductive AccessError where
  | canaryAdmitted (pattern canary : String)
  | invalidPattern (pattern : String)
  | unreadable (file : String) (e : FileError)
  | malformed (file : String)
  | missingKey (file key : String)
  deriving DecidableEq, Repr

namespace AccessError

/-- What is wrong, in words. -/
def message : AccessError → String
  | canaryAdmitted pattern canary =>
    "allow pattern " ++ Quoted.quote pattern ++ " admits canary " ++ Quoted.quote canary
  | invalidPattern pattern => "invalid allow pattern " ++ Quoted.quote pattern
  | unreadable file e => "failed to read allow-list " ++ file ++ ": " ++ e.message
  | malformed file => "failed to parse allow-list " ++ file
  | missingKey file key =>
    "allow-list " ++ file ++ " has no usable " ++ Quoted.quote key ++ " entry"

end AccessError

/-- A pattern of an allow list with its two compiled forms. -/
structure AllowPattern where
  source : String
  sensitive : Regex
  insensitive : Regex
  deriving Repr

namespace AllowPattern

/-- The text that is compiled for a pattern: the pattern as a whole line. -/
def wholeLine (pattern : String) : String := "^(?:" ++ pattern ++ ")$"

/-- Compiles a pattern for both modes. -/
def compile (pattern : String) : Except AccessError AllowPattern :=
  match Regex.compile? false (wholeLine pattern), Regex.compile? true (wholeLine pattern) with
  | some sensitive, some insensitive => .ok { source := pattern, sensitive, insensitive }
  | _, _ => .error (.invalidPattern pattern)

/-- The form for a mode. -/
def regex (p : AllowPattern) (caseSensitive : Bool) : Regex :=
  if caseSensitive then p.sensitive else p.insensitive

/-- Whether a pattern admits a candidate. -/
def admits (p : AllowPattern) (candidate : String) (caseSensitive : Bool) : Bool :=
  (p.regex caseSensitive).finds candidate.toList

end AllowPattern

/-- A loaded list: its patterns, when it was loaded, and how long it lives. Times count from some
fixed moment. -/
structure AllowList where
  patterns : List AllowPattern
  loadedAt : Nat := 0
  timeToLive : Nat
  deriving Repr

namespace AllowList

/-- Compiles patterns, in order, into a list loaded at a time. -/
def compile (patterns : List String) (timeToLive now : Nat) : Except AccessError AllowList :=
  (patterns.mapM AllowPattern.compile).map fun ps =>
    { patterns := ps, loadedAt := now, timeToLive }

/-- The first pattern that admits a candidate. -/
def matching? (l : AllowList) (candidate : String) (caseSensitive : Bool) : Option AllowPattern :=
  l.patterns.find? fun p => p.admits candidate caseSensitive

/-- Whether a pattern admits a candidate. -/
def admits (l : AllowList) (candidate : String) (caseSensitive : Bool) : Bool :=
  (l.matching? candidate caseSensitive).isSome

/-- The first canary that a pattern admits when case does not count, with the pattern. -/
def admittedCanary? (l : AllowList) : List String → Option (String × AllowPattern)
  | [] => none
  | canary :: rest =>
    match l.matching? canary false with
    | some p => some (canary, p)
    | none => admittedCanary? l rest

/-- The self-test: no canary is admitted. -/
def selfTest (l : AllowList) (canaries : List String) : Except AccessError Unit :=
  match l.admittedCanary? canaries with
  | some (canary, p) => .error (.canaryAdmitted p.source canary)
  | none => .ok ()

/-- Whether a list has lived its time. -/
def expired (l : AllowList) (now : Nat) : Bool := l.timeToLive ≤ now - l.loadedAt

/-- The number of patterns. -/
def size (l : AllowList) : Nat := l.patterns.length

end AllowList

end Switchboard
