import Switchboard.Regex.Bracket
import Switchboard.Regex.Size

/-!
# Reading patterns

A pattern is read from left to right. The reader keeps the alternatives and items of the group it
is in and a stack of the groups around it; each group also keeps the flags that were in force
where it began, which hold again after it.

* `Regex.parse?` reads a pattern, and is `none` if it is malformed or nests too deep;
* `Regex.compile?` also refuses a pattern that is too large.
-/

namespace Switchboard.Regex

/-- Patterns nest no deeper than this. -/
def nestLimit : Nat := 250

/-- Something that was read: what it means, how deep it nests, and whether it can be repeated. -/
structure Part where
  regex : Regex
  depth : Nat := 0
  repeatable : Bool := true

/-- The alternatives of a group that are complete and the items of the present one, both with the
last one first. -/
structure Branches where
  done : List Part := []
  items : List Part := []

/-- A group that is still open: what stood before it, the flags where it began, and whether it
remembers what it matches. -/
structure Frame where
  outer : Branches
  flags : Flags
  remembers : Bool

/-- The reader between two items. -/
structure Reading where
  flags : Flags := {}
  branches : Branches := {}
  frames : List Frame := []
  names : List String := []

/-! ### Building -/

/-- The greatest depth of some parts. -/
def maxDepth (ps : List Part) : Nat := ps.foldl (fun d p => max d p.depth) 0

/-- The items of an alternative as one part. -/
def joinItems (reversed : List Part) : Part :=
  match reversed.reverse with
  | [] => { regex := .empty }
  | [p] => p
  | ps => { regex := cats (ps.map (·.regex)), depth := maxDepth ps + 1 }

/-- The alternatives of a group as one part. -/
def joinBranches (b : Branches) : Part :=
  match (joinItems b.items :: b.done).reverse with
  | [p] => p
  | ps => { regex := alts (ps.map (·.regex)), depth := maxDepth ps + 1 }

/-- One more item. -/
def Branches.push (b : Branches) (p : Part) : Branches := { b with items := p :: b.items }

/-- Begins another alternative. -/
def Branches.next (b : Branches) : Branches := { done := joinItems b.items :: b.done }

namespace Reading

/-- One more item. -/
def push (r : Reading) (p : Part) : Reading := { r with branches := r.branches.push p }

/-- One more item, of a regular expression that holds no other. -/
def pushLeaf (r : Reading) (x : Regex) : Reading := r.push { regex := x }

/-- Begins another alternative. -/
def bar (r : Reading) : Reading := { r with branches := r.branches.next }

/-- Opens a group. -/
def open_ (r : Reading) (inner : Flags) (remembers : Bool) : Reading :=
  { r with
    flags := inner
    branches := {}
    frames := { outer := r.branches, flags := r.flags, remembers } :: r.frames }

/-- Closes the group that was opened last. -/
def close? (r : Reading) : Option Reading :=
  match r.frames with
  | [] => none
  | frame :: frames =>
    let inner := joinBranches r.branches
    let x := if frame.remembers then .group inner.regex else inner.regex
    some { r with
      flags := frame.flags
      branches := frame.outer.push { regex := x, depth := inner.depth + 1 }
      frames }

/-- Repeats the last item. -/
def repeat_? (r : Reading) (least : Nat) (greatest : Option Nat) : Option Reading :=
  match r.branches.items with
  | [] => none
  | p :: items =>
    if p.repeatable then
      let x := { regex := .rep p.regex least greatest, depth := p.depth + 1 }
      some { r with branches := { r.branches with items := x :: items } }
    else none

end Reading

/-! ### Groups -/

/-- Turns the flag of a letter on or off. One letter stands for a flag that does not matter here. -/
def Flags.switch? (f : Flags) (on : Bool) (c : Char) : Option Flags :=
  if c = 'i' then some { f with ignoreCase := on }
  else if c = 'm' then some { f with multiLine := on }
  else if c = 's' then some { f with dotAll := on }
  else if c = 'R' then some { f with crlf := on }
  else if c = 'u' then some { f with unicode := on }
  else if c = 'x' then some { f with verbose := on }
  else if c = 'U' then some f
  else none

/-- Reads the flags of a group up to the colon or the closing parenthesis. `seen` are the flags
that were read, and `negated` says that a hyphen was read. -/
def flags? (f : Flags) (seen : List Char) (negated dangling : Bool) :
    List Char → Option (Flags × List Char)
  | [] => none
  | c :: rest =>
    if c = ':' || c = ')' then if dangling then none else some (f, c :: rest)
    else if c = '-' then if negated then none else flags? f seen true true rest
    else if seen.contains c then none
    else
      match f.switch? (!negated) c with
      | some g => flags? g (c :: seen) negated false rest
      | none => none

/-- A character that can start the name of a group. -/
def isNameStart (c : Char) : Bool := c = '_' || Unicode.Property.alphabetic.has c

/-- A character that can stand in the name of a group. -/
def isNameChar (c : Char) : Bool :=
  isNameStart c || c = '.' || c = '[' || c = ']' || Unicode.Category.number.has c

/-- Reads the name of a group up to the angle bracket. -/
def groupName? (cs : List Char) : Option (String × List Char) :=
  match cut? ['>'] cs with
  | some (c :: name, rest) =>
    if isNameStart c && name.all isNameChar then some (String.ofList (c :: name), rest) else none
  | _ => none

/-- Opens a group with a name of its own. -/
def namedGroup? (r : Reading) (cs : List Char) : Option (Reading × List Char) :=
  match groupName? cs with
  | some (name, rest) =>
    if r.names.contains name then none
    else some ({ r with names := name :: r.names }.open_ r.flags true, rest)
  | none => none

/-- Reads flags, which hold for the group that they open or, closed at once, from here on. -/
def flagGroup? (r : Reading) (cs : List Char) : Option (Reading × List Char) :=
  match flags? r.flags [] false false cs with
  | some (f, ':' :: rest) => some (r.open_ f false, rest)
  | some (f, ')' :: rest) =>
    if cs.head? = some ')' then none
    else some ({ r.push { regex := .empty, repeatable := false } with flags := f }, rest)
  | _ => none

/-- Reads the beginning of a group, of which the parenthesis has been read. Groups that look
ahead or behind are refused. -/
def group? (r : Reading) (cs : List Char) : Option (Reading × List Char) :=
  match r.flags.skip cs with
  | '?' :: '=' :: _ => none
  | '?' :: '!' :: _ => none
  | '?' :: '<' :: '=' :: _ => none
  | '?' :: '<' :: '!' :: _ => none
  | '?' :: 'P' :: '<' :: rest => namedGroup? r rest
  | '?' :: '<' :: rest => namedGroup? r rest
  | '?' :: rest => flagGroup? r rest
  | rest => some (r.open_ r.flags true, rest)

/-! ### Repetitions -/

/-- Drops a mark of a lazy repetition. -/
def dropLazy : List Char → List Char
  | '?' :: rest => rest
  | cs => cs

/-- Reads decimal digits; blanks between them are passed over if they do not count. -/
def countDigits (f : Flags) : Nat → List Char → List Char × List Char
  | 0, cs => ([], cs)
  | _ + 1, [] => ([], [])
  | k + 1, c :: rest =>
    if c.isDigit then
      let (ds, rest) := countDigits f k (f.skip rest)
      (c :: ds, rest)
    else ([], c :: rest)

/-- Reads a number of a repetition, with blanks around it, that fits into 32 bits. -/
def count? (f : Flags) (cs : List Char) : Option (Nat × List Char) :=
  let start := cs.dropWhile Blank.isBlank
  let (ds, rest) := countDigits f start.length start
  let n := ds.foldl (fun n c => n * 10 + (c.toNat - '0'.toNat)) 0
  if ds.isEmpty || UInt32.size ≤ n then none else some (n, f.skip (rest.dropWhile Blank.isBlank))

/-- Reads the numbers of a repetition and the closing brace. -/
def counts? (f : Flags) (cs : List Char) : Option (Nat × Option Nat × List Char) := do
  let (least, rest) ← count? f (f.skip cs)
  match rest with
  | '\x7d' :: rest => return (least, some least, rest)
  | ',' :: rest =>
    match f.skip rest with
    | '\x7d' :: rest => return (least, none, rest)
    | rest =>
      let (greatest, rest) ← count? f rest
      match rest with
      | '\x7d' :: rest => if least ≤ greatest then return (least, some greatest, rest) else none
      | _ => none
  | _ => none

/-! ### Items -/

/-- A character as a regular expression. A character that was written as a byte has to be one of
ASCII where Unicode does not hold. -/
def literal? (f : Flags) (c : Char) (byte : Bool) : Option Regex :=
  if f.unicode then
    if f.ignoreCase && Unicode.CaseFold.hasCase c.toNat then some (.set (f.fold (.single c.toNat)))
    else some (char c)
  else if byte && 128 ≤ c.toNat then none
  else if c.toNat < 128 then some (.set (f.fold (.single c.toNat)))
  else some (char c)

/-- An atom as a regular expression. -/
def atom? (f : Flags) : Atom → Option Regex
  | .char c byte => literal? f c byte
  | .set s => some (.set s)
  | .look l => some (.look l)

/-- Any character, or any but those that end a line; there is no such set without Unicode. -/
def dot? (f : Flags) : Option Regex :=
  let all : CodePoints := .range 0 CodePoints.last
  if !f.unicode then none
  else if f.dotAll then some (.set all)
  else if f.crlf then some (.set (all.diff { ranges := [(0x0A, 0x0A), (0x0D, 0x0D)] }))
  else some (.set (all.diff (.single 0x0A)))

/-- The condition of a circumflex. -/
def startLook (f : Flags) : Look :=
  if f.multiLine then if f.crlf then .anyLineStart else .lineStart else .textStart

/-- The condition of a dollar sign. -/
def endLook (f : Flags) : Look :=
  if f.multiLine then if f.crlf then .anyLineEnd else .lineEnd else .textEnd

/-- Reads one item, which starts with a given character. -/
def read? (r : Reading) (c : Char) (rest : List Char) : Option (Reading × List Char) :=
  let f := r.flags
  let leaf (x : Regex) (rest : List Char) : Reading × List Char := (r.pushLeaf x, rest)
  let again (least : Nat) (greatest : Option Nat) (rest : List Char) :
      Option (Reading × List Char) :=
    (r.repeat_? least greatest).map fun r => (r, dropLazy rest)
  if c = '(' then group? r rest
  else if c = ')' then r.close?.map fun r => (r, rest)
  else if c = '|' then some (r.bar, rest)
  else if c = '[' then
    (bracket? f (2 * rest.length + 2) rest).map fun (s, rest) =>
      (r.push { regex := .set s.set, depth := s.depth }, rest)
  else if c = '?' then again 0 (some 1) rest
  else if c = '*' then again 0 none rest
  else if c = '+' then again 1 none rest
  else if c = '\x7b' then do
    let (least, greatest, rest) ← counts? f rest
    again least greatest (f.skip rest)
  else if c = '\\' then do
    let (a, rest) ← escape? f rest
    return leaf (← atom? f a) rest
  else if c = '.' then (dot? f).map fun x => leaf x rest
  else if c = '^' then some (leaf (.look (startLook f)) rest)
  else if c = '$' then some (leaf (.look (endLook f)) rest)
  else (literal? f c false).map fun x => leaf x rest

/-- Reads items to the end of the pattern; every item takes a character at least. -/
def readAll? : Nat → Reading → List Char → Option Reading
  | fuel, r, cs =>
    match fuel, r.flags.skip cs with
    | _, [] => some r
    | 0, _ => none
    | fuel + 1, c :: rest => do
      let (r, rest) ← read? r c rest
      readAll? fuel r rest

/-- Reads a pattern. -/
def parse? (ignoreCase : Bool) (pattern : String) : Option Regex :=
  let cs := pattern.toList
  match readAll? cs.length { flags := { ignoreCase } } cs with
  | some r =>
    let whole := joinBranches r.branches
    if r.frames.isEmpty && whole.depth ≤ nestLimit then some whole.regex else none
  | none => none

/-- Reads a pattern that is not too large. -/
def compile? (ignoreCase : Bool) (pattern : String) : Option Regex :=
  (parse? ignoreCase pattern).filter fun r => r.size ≤ sizeLimit

end Switchboard.Regex
