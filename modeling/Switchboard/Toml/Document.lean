import Switchboard.Toml.Number
import Switchboard.Toml.Text

/-!
# TOML documents

A document is a sequence of lines: blank lines, headers, which open a table, and entries, which
put a value under a key of the table that is open. `Toml.parse?` reads a whole document and is
`none` if anything in it is malformed or defines something twice.

Arrays and tables between braces nest to a bounded depth, and a dotted key has a bounded length.
-/

namespace Switchboard.Toml

/-- Values nest less deep than this, and keys have fewer parts. -/
def depthLimit : Nat := 80

/-! ### Blanks -/

/-- Drops blanks. -/
def space (cs : List Char) : List Char := cs.dropWhile isSpace

/-- Drops blanks, line ends and comments; `comment` says whether a comment is under way. -/
def gap (comment : Bool) : List Char → List Char
  | [] => []
  | '\n' :: rest => gap false rest
  | '\r' :: '\n' :: rest => gap false rest
  | c :: rest =>
    if comment then if isPlain c then gap true rest else c :: rest
    else if c = '#' then gap true rest
    else if isSpace c then gap false rest
    else c :: rest

/-- Reads to the end of a line on which nothing but a comment follows. -/
def lineEnd? (cs : List Char) : Option (List Char) :=
  let cs := space cs
  let cs := match cs with
    | '#' :: rest => rest.dropWhile isPlain
    | cs => cs
  match cs with
  | [] => some []
  | '\n' :: rest => some rest
  | '\r' :: '\n' :: rest => some rest
  | _ => none

/-! ### Keys -/

/-- A character of a key without quotes. -/
def isBare (c : Char) : Bool := c.isAlphanum || c = '-' || c = '_'

/-- Reads one part of a key. -/
def keyPart? (cs : List Char) : Option (String × List Char) :=
  match cs with
  | '"' :: _ => lineText? cs
  | '\'' :: _ => lineText? cs
  | _ =>
    let part := cs.takeWhile isBare
    if part.isEmpty then none else some (String.ofList part, cs.dropWhile isBare)

/-- Reads a dotted key of at most so many parts, with the blanks around it. -/
def keyParts? : Nat → List Char → Option (List String × List Char)
  | 0, _ => none
  | n + 1, cs => do
    let (part, rest) ← keyPart? (space cs)
    match space rest with
    | '.' :: rest =>
      let (parts, rest) ← keyParts? n rest
      return (part :: parts, rest)
    | rest => return ([part], rest)

/-- Reads a dotted key. -/
def key? (cs : List Char) : Option (List String × List Char) := keyParts? (depthLimit - 1) cs

/-! ### Values -/

/-- Reads a word. -/
def word? (word : String) (v : Value) (cs : List Char) : Option (Value × List Char) :=
  let w := word.toList
  if w.isPrefixOf cs then some (v, cs.drop w.length) else none

/-- Reads a value that holds no other values. -/
def scalar? (cs : List Char) : Option (Value × List Char) :=
  match cs with
  | [] => none
  | c :: _ =>
    if c = '"' || c = '\'' then (text? cs).map fun (s, rest) => (.str s, rest)
    else if c = 't' then word? "true" (.bool true) cs
    else if c = 'f' then word? "false" (.bool false) cs
    else number? cs

mutual

/-- Reads a value at a depth; `fuel` bounds the number of steps. -/
def value? (fuel depth : Nat) (cs : List Char) : Option (Value × List Char) :=
  match fuel, cs with
  | 0, _ => none
  | fuel + 1, '[' :: rest =>
    if depth + 1 < depthLimit then
      (items? fuel (depth + 1) rest).map fun (vs, rest) => (.arr vs, rest)
    else none
  | fuel + 1, '\x7b' :: rest =>
    if depth + 1 < depthLimit then
      match space rest with
      | '\x7d' :: rest => some (.table .braces [], rest)
      | rest => (entries? fuel (depth + 1) [] rest).map fun (ms, rest) => (.table .braces ms, rest)
    else none
  | _ + 1, cs => scalar? cs

/-- Reads the items of an array and its closing bracket; a comma may follow the last item. -/
def items? (fuel depth : Nat) (cs : List Char) : Option (List Value × List Char) :=
  match fuel, gap false cs with
  | 0, _ => none
  | _ + 1, ']' :: rest => some ([], rest)
  | fuel + 1, cs => do
    let (v, rest) ← value? fuel depth cs
    match gap false rest with
    | ',' :: rest =>
      let (vs, rest) ← items? fuel depth rest
      return (v :: vs, rest)
    | ']' :: rest => return ([v], rest)
    | _ => none

/-- Reads the entries of a table between braces and its closing brace, adding them to those
already read. -/
def entries? (fuel depth : Nat) (ms : Members) (cs : List Char) : Option (Members × List Char) :=
  match fuel with
  | 0 => none
  | fuel + 1 => do
    let (path, rest) ← key? cs
    let rest ← mark? '=' rest
    let (v, rest) ← value? fuel depth (space rest)
    let ms ← entry? path v ms
    match space rest with
    | ',' :: rest => entries? fuel depth ms rest
    | '\x7d' :: rest => return (ms, rest)
    | _ => none

end

/-! ### Documents -/

/-- A document as far as it has been read: its members, and the path of the open table. -/
structure Reading where
  members : Members := []
  path : List String := []

/-- Reads a header in single brackets, after the first one. -/
def headerLine? (r : Reading) (cs : List Char) : Option (Reading × List Char) := do
  let (path, rest) ← key? cs
  let rest ← lineEnd? (← mark? ']' rest)
  return ({ members := ← header? path r.members, path }, rest)

/-- Reads a header in double brackets, after the first two. -/
def arrayHeaderLine? (r : Reading) (cs : List Char) : Option (Reading × List Char) := do
  let (path, rest) ← key? cs
  let rest ← lineEnd? (← mark? ']' (← mark? ']' rest))
  return ({ members := ← arrayHeader? path r.members, path }, rest)

/-- Reads an entry. -/
def entryLine? (r : Reading) (cs : List Char) : Option (Reading × List Char) := do
  let (path, rest) ← key? cs
  let rest ← mark? '=' rest
  let (v, rest) ← value? (2 * rest.length + 2) 0 (space rest)
  let rest ← lineEnd? rest
  return ({ r with members := ← entryUnder? r.path path v r.members }, rest)

/-- Reads the lines of a document; every line takes a character at least. -/
def lines? : Nat → Reading → List Char → Option Members
  | fuel, r, cs =>
    match fuel, space cs with
    | _, [] => some r.members
    | 0, _ => none
    | fuel + 1, '[' :: '[' :: rest => do
      let (r, rest) ← arrayHeaderLine? r rest
      lines? fuel r rest
    | fuel + 1, '[' :: rest => do
      let (r, rest) ← headerLine? r rest
      lines? fuel r rest
    | fuel + 1, c :: rest =>
      if c = '#' || c = '\n' || c = '\r' then do
        lines? fuel r (← lineEnd? (c :: rest))
      else do
        let (r, rest) ← entryLine? r (c :: rest)
        lines? fuel r rest

/-- The members of a document, whose text may start with a byte-order mark. -/
def parse? (text : String) : Option Members :=
  let cs := match text.toList with
    | '\ufeff' :: rest => rest
    | cs => cs
  lines? (cs.length + 1) {} cs

end Switchboard.Toml
