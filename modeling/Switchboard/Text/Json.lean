/-!
# JSON values

The data format of response bodies and of configurations that arrive as data. Objects keep their
members in the order given. `Json.compact` writes a value without blanks, which is how every body
is written; `Json.sorted` puts the members of all objects in the order of their keys.
-/

namespace Switchboard

/-- A JSON value. A number is an integer or a decimal fraction `mantissa / 10 ^ places`. -/
inductive Json where
  | null
  | bool (b : Bool)
  | int (n : Int)
  | decimal (mantissa : Int) (places : Nat)
  | str (s : String)
  | arr (items : List Json)
  | obj (members : List (String × Json))
  deriving Inhabited, Repr

namespace Json

/-! ### Writing strings -/

/-- A hexadecimal digit. -/
private def hexChar (n : Nat) : Char :=
  if n < 10 then Char.ofNat ('0'.toNat + n) else Char.ofNat ('a'.toNat + n - 10)

/-- A character inside a JSON string: quotes, backslashes and control characters are escaped. -/
def escape (c : Char) : List Char :=
  if c = '"' then ['\\', '"']
  else if c = '\\' then ['\\', '\\']
  else if c = '\x08' then ['\\', 'b']
  else if c = '\t' then ['\\', 't']
  else if c = '\n' then ['\\', 'n']
  else if c = '\x0c' then ['\\', 'f']
  else if c = '\r' then ['\\', 'r']
  else if c.toNat < 0x20 then
    ['\\', 'u', '0', '0', hexChar (c.toNat / 16), hexChar (c.toNat % 16)]
  else [c]

/-- A string with its quotes. -/
def quoted (s : String) : String :=
  String.ofList ('"' :: s.toList.flatMap escape ++ ['"'])

/-! ### Writing numbers -/

/-- Drops the trailing zeros of a decimal fraction's mantissa. -/
def trimZeros : Nat → Nat → Nat × Nat
  | m, 0 => (m, 0)
  | m, p + 1 => if m % 10 = 0 then trimZeros (m / 10) p else (m, p + 1)

/-- A decimal fraction `m / 10 ^ p` with a point, or, far from one, with an exponent. -/
def decimalText (m p : Nat) : String :=
  let (m, p) := trimZeros m p
  let digits := toString m
  let n := digits.length
  if m = 0 then "0.0"
  else if p = 0 then
    if n ≤ 16 then digits ++ ".0"
    else
      let kept := (digits.toList.reverse.dropWhile (· == '0')).reverse
      let head := String.ofList (kept.take 1)
      let tail := String.ofList (kept.drop 1)
      head ++ (if tail.isEmpty then "" else "." ++ tail) ++ "e" ++ toString (n - 1)
  else if p < n then
    String.ofList (digits.toList.take (n - p)) ++ "." ++ String.ofList (digits.toList.drop (n - p))
  else if p < n + 5 then "0." ++ String.ofList (List.replicate (p - n) '0') ++ digits
  else
    let head := String.ofList (digits.toList.take 1)
    let tail := String.ofList (digits.toList.drop 1)
    head ++ (if tail.isEmpty then "" else "." ++ tail) ++ "e-" ++ toString (p + 1 - n)

/-- A number with its sign. -/
def signed (mantissa : Int) (text : Nat → String) : String :=
  if mantissa < 0 then "-" ++ text mantissa.natAbs else text mantissa.natAbs

/-! ### Writing values -/

mutual

/-- The compact text of a value. -/
def compact : Json → String
  | null => "null"
  | bool true => "true"
  | bool false => "false"
  | int n => signed n toString
  | decimal m p => signed m (decimalText · p)
  | str s => quoted s
  | arr items => "[" ++ ",".intercalate (compactItems items) ++ "]"
  | obj members => "\x7b" ++ ",".intercalate (compactMembers members) ++ "\x7d"

/-- The texts of the items of an array. -/
def compactItems : List Json → List String
  | [] => []
  | j :: js => compact j :: compactItems js

/-- The texts of the members of an object. -/
def compactMembers : List (String × Json) → List String
  | [] => []
  | (k, j) :: ms => (quoted k ++ ":" ++ compact j) :: compactMembers ms

end

mutual

/-- The value with the members of every object in the order of their keys. -/
def sorted : Json → Json
  | arr items => arr (sortedItems items)
  | obj members => obj ((sortedMembers members).mergeSort fun a b => a.1 ≤ b.1)
  | j => j

/-- The items of an array, each sorted inside. -/
def sortedItems : List Json → List Json
  | [] => []
  | j :: js => sorted j :: sortedItems js

/-- The members of an object, each sorted inside. -/
def sortedMembers : List (String × Json) → List (String × Json)
  | [] => []
  | (k, j) :: ms => (k, sorted j) :: sortedMembers ms

end

/-! ### Looking inside -/

/-- The member of an object under a key: of several the last one. -/
def member? (members : List (String × Json)) (key : String) : Option Json :=
  (members.reverse.find? fun m => m.1 == key).map (·.2)

/-- The member of a value under a key, `null` if there is none. -/
def get (j : Json) (key : String) : Json :=
  match j with
  | obj members => (member? members key).getD null
  | _ => null

/-- The items of an array; other values have none. -/
def items : Json → List Json
  | arr js => js
  | _ => []

/-- A string. -/
def str? : Json → Option String
  | str s => some s
  | _ => none

/-- A natural number. -/
def nat? : Json → Option Nat
  | int n => n.toNat?
  | _ => none

/-- Whether the value is `true`. -/
def isTrue : Json → Bool
  | bool b => b
  | _ => false

/-- Whether the value is `null`. -/
def isNull : Json → Bool
  | null => true
  | _ => false

/-! ### Overlays -/

/-- Puts a member in the place of those with its key, at the end. -/
def putMember (members : List (String × Json)) (key : String) (j : Json) : List (String × Json) :=
  members.filter (·.1 != key) ++ [(key, j)]

mutual

/-- Puts a value over another: members over members, and anything else in its place. A `null` says
nothing. -/
def overlay (base : Json) : Json → Json
  | null => base
  | obj upper =>
    match base with
    | obj members => obj (overlayMembers members upper)
    | _ => obj upper
  | j => j

/-- Puts members over others. -/
def overlayMembers (members : List (String × Json)) : List (String × Json) → List (String × Json)
  | [] => members
  | (k, j) :: rest =>
    overlayMembers (putMember members k (overlay (get (obj members) k) j)) rest

end

/-! ### Building -/

/-- A natural number. -/
def nat (n : Nat) : Json := int n

/-- A string or `null`. -/
def optional : Option String → Json
  | some s => str s
  | none => null

/-- An array of strings. -/
def strings (ss : List String) : Json := arr (ss.map str)

end Json

end Switchboard
