import Switchboard.Regex.Basic
import Switchboard.Text.Blank
import Switchboard.Unicode.CaseFold
import Switchboard.Unicode.Name

/-!
# The atoms of patterns

What can be said in a pattern at one place: a character, a set of characters or a condition, and
the escapes that stand for them. Flags decide what an atom means: whether case counts, whether
classes are those of Unicode or of ASCII, and whether blanks in a pattern are passed over.

Without Unicode a class may only hold characters of ASCII, so there every complement is refused.
-/

namespace Switchboard.Regex

/-- The flags in force at a place of a pattern. -/
structure Flags where
  ignoreCase : Bool := false
  multiLine : Bool := false
  dotAll : Bool := false
  crlf : Bool := false
  unicode : Bool := true
  /-- Blanks and comments in the pattern are passed over. -/
  verbose : Bool := false
  deriving DecidableEq, Repr

namespace Flags

/-! ### Passing over blanks -/

/-- Drops blanks and comments; `comment` says whether a comment is under way. -/
def dropBlanks (comment : Bool) : List Char → List Char
  | [] => []
  | c :: rest =>
    if comment then dropBlanks (c ≠ '\n') rest
    else if Blank.isBlank c then dropBlanks false rest
    else if c = '#' then dropBlanks true rest
    else c :: rest

/-- What is left after blanks that do not count. -/
def skip (f : Flags) (cs : List Char) : List Char := if f.verbose then dropBlanks false cs else cs

/-- The next character after blanks that do not count. A mark that starts a comment only hides
itself and the blanks after it. -/
def peek (f : Flags) (cs : List Char) : Option Char :=
  if f.verbose then
    match cs.dropWhile Blank.isBlank with
    | [] => cs.head?
    | '#' :: rest =>
      match rest.dropWhile Blank.isBlank with
      | [] => cs.head?
      | c :: _ => some c
    | c :: _ => some c
  else cs.head?

/-! ### Case and complements -/

/-- A set of ASCII characters with the letters of the other case. -/
def closeAscii (s : CodePoints) : CodePoints :=
  let upper := s.inter (.range 0x41 0x5A)
  let lower := s.inter (.range 0x61 0x7A)
  .unions [s, .ofRanges (upper.ranges.map fun r => (r.1 + 32, r.2 + 32)),
    .ofRanges (lower.ranges.map fun r => (r.1 - 32, r.2 - 32))]

/-- A set with everything that is equal up to case, if case does not count. -/
def fold (f : Flags) (s : CodePoints) : CodePoints :=
  if f.ignoreCase then if f.unicode then Unicode.CaseFold.close s else closeAscii s else s

/-- A set or its complement; case is folded before that. -/
def finish? (f : Flags) (negated : Bool) (s : CodePoints) : Option CodePoints :=
  if negated then if f.unicode then some (f.fold s).compl else none else some (f.fold s)

end Flags

/-- An atom of a pattern. -/
inductive Atom where
  /-- A character; `byte` says that it was written as two hexadecimal digits. -/
  | char (c : Char) (byte : Bool)
  | set (s : CodePoints)
  | look (l : Look)

/-! ### Classes -/

/-- The digits, blanks or word characters of a one-letter class. -/
def perlSet (unicode : Bool) (kind : Char) : CodePoints :=
  if kind = 'd' then if unicode then Unicode.Category.ndPoints else .range 0x30 0x39
  else if kind = 's' then
    if unicode then Unicode.Property.whiteSpace else { ranges := [(0x09, 0x0D), (0x20, 0x20)] }
  else Look.wordSet unicode

/-- The class of a letter; a capital letter stands for the complement. -/
def perlClass? (f : Flags) (letter : Char) : Option CodePoints :=
  let s := perlSet f.unicode letter.toLower
  if letter.isUpper then if f.unicode then some s.compl else none else some s

/-- The classes that are written between colons. -/
def asciiClasses : List (String × List (Nat × Nat)) := [
  ("alnum", [(0x30, 0x39), (0x41, 0x5A), (0x61, 0x7A)]),
  ("alpha", [(0x41, 0x5A), (0x61, 0x7A)]),
  ("ascii", [(0x00, 0x7F)]),
  ("blank", [(0x09, 0x09), (0x20, 0x20)]),
  ("cntrl", [(0x00, 0x1F), (0x7F, 0x7F)]),
  ("digit", [(0x30, 0x39)]),
  ("graph", [(0x21, 0x7E)]),
  ("lower", [(0x61, 0x7A)]),
  ("print", [(0x20, 0x7E)]),
  ("punct", [(0x21, 0x2F), (0x3A, 0x40), (0x5B, 0x60), (0x7B, 0x7E)]),
  ("space", [(0x09, 0x0D), (0x20, 0x20)]),
  ("upper", [(0x41, 0x5A)]),
  ("word", [(0x30, 0x39), (0x41, 0x5A), (0x5F, 0x5F), (0x61, 0x7A)]),
  ("xdigit", [(0x30, 0x39), (0x41, 0x46), (0x61, 0x66)])]

/-- The class of a name. -/
def asciiClass? (name : String) : Option CodePoints :=
  (asciiClasses.find? fun c => c.1 == name).map fun c => .ofRanges c.2

/-- Cuts a text in two at the first place where a mark stands. -/
def cut? (mark : List Char) : List Char → Option (List Char × List Char)
  | [] => none
  | c :: rest =>
    if mark.isPrefixOf (c :: rest) then some ([], (c :: rest).drop mark.length)
    else (cut? mark rest).map fun (a, b) => (c :: a, b)

/-- The class of a name, or of a property and a value with a mark between them. -/
def namedClass? (name : List Char) : Option CodePoints :=
  match ((cut? ['!', '='] name).orElse fun _ => cut? [':'] name).orElse fun _ =>
    cut? ['='] name with
  | some (property, v) => Unicode.valued? (String.ofList property) (String.ofList v)
  | none => Unicode.named? (String.ofList name)

/-- The class of a name or its complement; there are no such classes without Unicode. -/
def unicodeClass? (f : Flags) (negated : Bool) (name : List Char) : Option CodePoints :=
  if f.unicode then (namedClass? name).bind (f.finish? negated) else none

/-! ### Escapes -/

/-- The character of a number. -/
def charOf? (n : Nat) : Option Char := if n.isValidChar then some (Char.ofNat n) else none

/-- Reads so many hexadecimal digits. -/
def hexDigits? (f : Flags) : Nat → Nat → List Char → Option (Nat × List Char)
  | 0, n, cs => some (n, cs)
  | _ + 1, _, [] => none
  | k + 1, n, c :: rest =>
    match CodePoints.hexDigit? c with
    | some d => hexDigits? f k (n * 16 + d) (f.skip rest)
    | none => none

/-- The characters up to a closing brace, those that do not count left out. -/
def braced? (f : Flags) : Nat → List Char → Option (List Char × List Char)
  | 0, _ => none
  | k + 1, cs =>
    match f.skip cs with
    | [] => none
    | '\x7d' :: rest => some ([], rest)
    | c :: rest => (braced? f k rest).map fun (cs, rest) => (c :: cs, rest)

/-- The number of hexadecimal digits, at least one. -/
def hexNumber? (ds : List Char) : Option Nat :=
  if ds.isEmpty then none
  else ds.foldlM (fun n c => (CodePoints.hexDigit? c).map (n * 16 + ·)) 0

/-- Reads a character by its number: so many digits, or any number of them between braces. -/
def hex? (f : Flags) (width : Nat) (cs : List Char) : Option (Atom × List Char) :=
  match f.skip cs with
  | '\x7b' :: rest => do
    let (ds, rest) ← braced? f rest.length rest
    return (.char (← charOf? (← hexNumber? ds)) false, f.skip rest)
  | cs => do
    let (n, rest) ← hexDigits? f width 0 cs
    return (.char (← charOf? n) (width = 2), rest)

/-- Reads the name of a class: one letter, or any text between braces. -/
def property? (f : Flags) (negated : Bool) (cs : List Char) : Option (Atom × List Char) :=
  match f.skip cs with
  | [] => none
  | '\x7b' :: rest => do
    let (name, rest) ← braced? f rest.length rest
    return (.set (← unicodeClass? f negated name), rest)
  | '\\' :: _ => none
  | c :: rest => do return (.set (← unicodeClass? f negated [c]), f.skip rest)

/-- A character of the name of a word boundary. -/
def isBoundaryChar (c : Char) : Bool := c.isAlpha || c = '-'

/-- The characters of a name of a word boundary. -/
def boundaryName (f : Flags) : Nat → List Char → List Char × List Char
  | 0, cs => ([], cs)
  | _ + 1, [] => ([], [])
  | k + 1, c :: rest =>
    if isBoundaryChar c then
      let (name, rest) := boundaryName f k (f.skip rest)
      (c :: name, rest)
    else ([], c :: rest)

/-- Reads what may follow a word boundary between braces: the name of a kind of boundary. Anything
else that cannot be such a name is left for what comes next. -/
def boundary? (f : Flags) (cs : List Char) : Option (Atom × List Char) :=
  let u := f.unicode
  match cs with
  | '\x7b' :: rest =>
    match f.skip rest with
    | [] => none
    | c :: inner =>
      if isBoundaryChar c then
        match boundaryName f (inner.length + 1) (c :: inner) with
        | (name, '\x7d' :: rest) =>
          let kind : Option Look :=
            if name = "start".toList then some (.wordStart u)
            else if name = "end".toList then some (.wordEnd u)
            else if name = "start-half".toList then some (.halfStart u)
            else if name = "end-half".toList then some (.halfEnd u)
            else none
          kind.map fun l => (.look l, rest)
        | _ => none
      else some (.look (.wordBoundary u), cs)
  | _ => some (.look (.wordBoundary u), cs)

/-- Whether a character can be escaped to stand for itself: one of ASCII that is no letter, no
digit and no angle bracket. -/
def isEscapable (c : Char) : Bool :=
  c.toNat < 128 && !c.isAlphanum && c ≠ '<' && c ≠ '>'

/-- The character that an escape stands for. -/
def escapedChar? (c : Char) : Option Char :=
  if isEscapable c then some c
  else if c = 'a' then some '\x07'
  else if c = 'f' then some '\x0c'
  else if c = 't' then some '\t'
  else if c = 'n' then some '\n'
  else if c = 'r' then some '\r'
  else if c = 'v' then some '\x0b'
  else none

/-- The condition that an escape stands for. -/
def escapedLook? (unicode : Bool) (c : Char) : Option Look :=
  if c = 'A' then some .textStart
  else if c = 'z' then some .textEnd
  else if c = 'B' then some (.notWordBoundary unicode)
  else if c = '<' then some (.wordStart unicode)
  else if c = '>' then some (.wordEnd unicode)
  else none

/-- Whether an escape stands for a class of one letter. -/
def isPerl (c : Char) : Bool := c.toLower = 'd' || c.toLower = 's' || c.toLower = 'w'

/-- Reads an escape, of which the backslash has been read. -/
def escape? (f : Flags) : List Char → Option (Atom × List Char)
  | [] => none
  | c :: rest =>
    if c = 'x' then hex? f 2 rest
    else if c = 'u' then hex? f 4 rest
    else if c = 'U' then hex? f 8 rest
    else if c = 'p' || c = 'P' then property? f (c = 'P') rest
    else if c = 'b' then boundary? f rest
    else if isPerl c then (perlClass? f c).map fun s => (.set s, rest)
    else
      match escapedChar? c with
      | some d => some (.char d false, rest)
      | none => (escapedLook? f.unicode c).map fun l => (.look l, rest)

end Switchboard.Regex
