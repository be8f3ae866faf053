import Switchboard.Toml.Value
import Switchboard.Unicode.CodePoints

/-!
# TOML strings

Strings come in four forms: between double quotes, with escapes, or between single quotes, as they
are; and each of the two on one line or, with the quotes tripled, on several. Both kinds are read
by a machine that takes one character at a time.
-/

namespace Switchboard.Toml

/-- A blank inside a line. -/
def isSpace (c : Char) : Bool := c = ' ' || c = '\t'

/-- A character that may stand in a comment or in a string: no control character but the tab. -/
def isPlain (c : Char) : Bool := c = '\t' || (0x20 ≤ c.toNat && c.toNat ≠ 0x7F)

/-- Whether a line end starts here: a line feed, or a carriage return with a line feed after it. -/
def atLineEnd (c : Char) (rest : List Char) : Bool :=
  c = '\n' || (c = '\r' && rest.head? = some '\n')

/-- How far an escape has been read. -/
inductive Mode where
  /-- Not inside an escape. -/
  | plain
  /-- After a backslash. -/
  | escape
  /-- Inside a number of hexadecimal digits, of which so many are left. -/
  | hex (left value : Nat)
  /-- In the gap after a backslash at the end of a line. -/
  | gap (lineSeen : Bool)
  deriving DecidableEq

/-- What a character of a string leads to. -/
inductive Step where
  /-- The string ends, and so many quotes after this one belong to its end. -/
  | stop (quotes : Nat)
  | next (mode : Mode) (out : List Char)
  | bad

/-- What a quote in a tripled string leads to: the string ends at the last three quotes of a run of
three to five. -/
def tripledQuote (q : Char) (rest : List Char) : Step :=
  let run := (rest.takeWhile (· = q)).length + 1
  if 5 < run then .bad else if run = 3 then .stop 2 else .next .plain [q]

/-- What a quote leads to. -/
def quote (tripled : Bool) (q : Char) (rest : List Char) : Step :=
  if tripled then tripledQuote q rest else .stop 0

/-- What a character outside of an escape leads to, in a string with escapes. -/
def plainStep (tripled : Bool) (c : Char) (rest : List Char) : Step :=
  if c = '"' then quote tripled c rest
  else if c = '\\' then .next .escape []
  else if tripled && atLineEnd c rest then .next .plain (if c = '\n' then [c] else [])
  else if isPlain c then .next .plain [c]
  else .bad

/-- What the character after a backslash leads to. -/
def escapeStep (tripled : Bool) (c : Char) (rest : List Char) : Step :=
  if c = 'b' then .next .plain ['\x08']
  else if c = 't' then .next .plain ['\t']
  else if c = 'n' then .next .plain ['\n']
  else if c = 'f' then .next .plain ['\x0c']
  else if c = 'r' then .next .plain ['\r']
  else if c = '"' then .next .plain ['"']
  else if c = '\\' then .next .plain ['\\']
  else if c = 'u' then .next (.hex 4 0) []
  else if c = 'U' then .next (.hex 8 0) []
  else if tripled && isSpace c then .next (.gap false) []
  else if tripled && atLineEnd c rest then .next (.gap true) []
  else .bad

/-- What a digit of an escaped code point leads to. -/
def hexStep (left value : Nat) (c : Char) : Step :=
  match CodePoints.hexDigit? c with
  | none => .bad
  | some d =>
    let value := value * 16 + d
    if 1 < left then .next (.hex (left - 1) value) []
    else if value.isValidChar then .next .plain [Char.ofNat value]
    else .bad

/-- What a character of a string with escapes leads to. -/
def step (tripled : Bool) (mode : Mode) (c : Char) (rest : List Char) : Step :=
  match mode with
  | .plain => plainStep tripled c rest
  | .escape => escapeStep tripled c rest
  | .hex left value => hexStep left value c
  | .gap lineSeen =>
    if isSpace c then .next mode []
    else if atLineEnd c rest then .next (.gap true) []
    else if lineSeen then plainStep tripled c rest
    else .bad

/-- What a character of a string without escapes leads to. -/
def literalStep (tripled : Bool) (c : Char) (rest : List Char) : Step :=
  if c = '\'' then quote tripled c rest
  else if tripled && atLineEnd c rest then .next .plain (if c = '\n' then [c] else [])
  else if isPlain c then .next .plain [c]
  else .bad

/-- Runs the machine to the end of the string; `acc` is what was read so far, in reverse. -/
def readText (step : Mode → Char → List Char → Step) (mode : Mode) (acc : List Char) :
    List Char → Option (String × List Char)
  | [] => none
  | c :: rest =>
    match step mode c rest with
    | .stop quotes => some (String.ofList acc.reverse, rest.drop quotes)
    | .next mode out => readText step mode (out ++ acc) rest
    | .bad => none

/-- Drops a line end. -/
def dropLineEnd : List Char → List Char
  | '\n' :: rest => rest
  | '\r' :: '\n' :: rest => rest
  | cs => cs

/-- Reads a string on one line. -/
def lineText? : List Char → Option (String × List Char)
  | '"' :: rest => readText (step false) .plain [] rest
  | '\'' :: rest => readText (fun _ => literalStep false) .plain [] rest
  | _ => none

/-- Reads a string of any form. A line end right after tripled quotes does not count. -/
def text? : List Char → Option (String × List Char)
  | '"' :: '"' :: '"' :: rest => readText (step true) .plain [] (dropLineEnd rest)
  | '\'' :: '\'' :: '\'' :: rest =>
    readText (fun _ => literalStep true) .plain [] (dropLineEnd rest)
  | cs => lineText? cs

end Switchboard.Toml
