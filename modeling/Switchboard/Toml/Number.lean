import Switchboard.Toml.Value
import Switchboard.Unicode.CodePoints

/-!
# TOML numbers, dates and times

Values that start with a digit or a sign. Digits may have single underscores between them; an
integer has to fit into 64 bits with a sign, and a number too great to be a floating-point number
is refused. Dates have to exist in the calendar.

`Toml.number?` reads whichever of the forms it finds.
-/

namespace Switchboard.Toml

/-! ### Digits -/

/-- The value of a digit in a radix. -/
def digit? (radix : Nat) (c : Char) : Option Nat := (CodePoints.hexDigit? c).filter (· < radix)

/-- Reads digits after a first one; an underscore has to stand between two digits. -/
def moreDigits? (radix : Nat) : List Char → Option (List Char × List Char)
  | [] => some ([], [])
  | '_' :: c :: rest =>
    if (digit? radix c).isSome then (moreDigits? radix rest).map fun (ds, rest) => (c :: ds, rest)
    else none
  | c :: rest =>
    if (digit? radix c).isSome then (moreDigits? radix rest).map fun (ds, rest) => (c :: ds, rest)
    else if c = '_' then none
    else some ([], c :: rest)

/-- Reads digits: at least one. -/
def digits? (radix : Nat) : List Char → Option (List Char × List Char)
  | c :: rest =>
    if (digit? radix c).isSome then (moreDigits? radix rest).map fun (ds, rest) => (c :: ds, rest)
    else none
  | [] => none

/-- The number that digits write. -/
def digitsValue (radix : Nat) (ds : List Char) : Nat :=
  ds.foldl (fun n c => n * radix + (digit? radix c).getD 0) 0

/-- Reads a sign, if there is one; whether it is a minus. -/
def sign : List Char → Bool × List Char
  | '-' :: rest => (true, rest)
  | '+' :: rest => (false, rest)
  | cs => (false, cs)

/-- Reads decimal digits without a leading zero, or a zero. -/
def decimalDigits? : List Char → Option (List Char × List Char)
  | '0' :: rest => some (['0'], rest)
  | cs => digits? 10 cs

/-! ### Integers -/

/-- A signed word of 64 bits. -/
def wordValue? (n : Int) : Option Value :=
  if Int64.minValue.toInt ≤ n ∧ n ≤ Int64.maxValue.toInt then some (.int n) else none

/-- Reads the digits of an integer in a radix of its own. -/
def radixInteger? (radix : Nat) (cs : List Char) : Option (Value × List Char) := do
  let (ds, rest) ← digits? radix cs
  return (← wordValue? (digitsValue radix ds), rest)

/-- Reads an integer. -/
def integer? (cs : List Char) : Option (Value × List Char) :=
  match cs with
  | '0' :: 'x' :: rest => radixInteger? 16 rest
  | '0' :: 'o' :: rest => radixInteger? 8 rest
  | '0' :: 'b' :: rest => radixInteger? 2 rest
  | _ => do
    let (negative, unsigned) := sign cs
    let (ds, rest) ← decimalDigits? unsigned
    let n : Int := digitsValue 10 ds
    return (← wordValue? (if negative then -n else n), rest)

/-! ### Floating-point numbers -/

/-- Whether the decimal number `m · 10ᵉ` is nearer to infinity than to the greatest double. -/
def isHuge (m : Nat) (e : Int) : Bool :=
  let top := Nat.pow 2 1024 - Nat.pow 2 970
  if m = 0 then false
  else if 400 < e then true
  else if 0 ≤ e then top ≤ m * Nat.pow 10 e.toNat
  else top * Nat.pow 10 (-e).toNat ≤ m

/-- Reads a point and digits, if there is a point. -/
def fraction? : List Char → Option (List Char × List Char)
  | '.' :: rest => digits? 10 rest
  | cs => some ([], cs)

/-- Whether an exponent starts here. -/
def atExponent : List Char → Bool
  | c :: _ => c = 'e' || c = 'E'
  | [] => false

/-- Reads an exponent, if there is one. -/
def exponent? (cs : List Char) : Option (Int × List Char) :=
  if atExponent cs then
    let (negative, unsigned) := sign (cs.drop 1)
    (digits? 10 unsigned).map fun (ds, rest) =>
      let n : Int := digitsValue 10 ds
      (if negative then -n else n, rest)
  else some (0, cs)

/-- Reads a decimal number with a point, an exponent or both. Only a positive number may be too
great. -/
def decimal? (cs : List Char) : Option (Value × List Char) := do
  let (negative, unsigned) := sign cs
  let (whole, afterWhole) ← decimalDigits? unsigned
  let (part, afterPart) ← fraction? afterWhole
  let (e, rest) ← exponent? afterPart
  let exponent := e - part.length
  let tooGreat := isHuge (digitsValue 10 (whole ++ part)) exponent
  if (part.isEmpty && !atExponent afterPart) || (tooGreat && !negative) then none
  else some (.float (String.ofList (cs.take (cs.length - rest.length))), rest)

/-- Reads infinity or the value that is no number. -/
def special? (cs : List Char) : Option (Value × List Char) :=
  match (sign cs).2 with
  | 'i' :: 'n' :: 'f' :: rest => some (.float "inf", rest)
  | 'n' :: 'a' :: 'n' :: rest => some (.float "nan", rest)
  | _ => none

/-! ### Dates and times -/

/-- Reads exactly so many decimal digits and nothing but digits of them. -/
def fixed? (width : Nat) (cs : List Char) : Option (Nat × List Char) :=
  let ds := cs.take width
  if ds.length = width ∧ ds.all fun c => (digit? 10 c).isSome then
    some (digitsValue 10 ds, cs.drop width)
  else none

/-- Reads a number of two digits within bounds. -/
def within? (least greatest : Nat) (cs : List Char) : Option (Nat × List Char) :=
  (fixed? 2 cs).filter fun (n, _) => least ≤ n && n ≤ greatest

/-- Reads a character. -/
def mark? (c : Char) : List Char → Option (List Char)
  | d :: rest => if d = c then some rest else none
  | [] => none

/-- The days of a month. -/
def daysIn (year month : Nat) : Nat :=
  let leap := year % 4 = 0 ∧ (year % 100 ≠ 0 ∨ year % 400 = 0)
  if month = 2 then (if leap then 29 else 28)
  else if month = 4 ∨ month = 6 ∨ month = 9 ∨ month = 11 then 30
  else 31

/-- Reads a date of the calendar; the answer is what is left. -/
def date? (cs : List Char) : Option (List Char) := do
  let (year, cs) ← fixed? 4 cs
  let (month, cs) ← within? 1 12 (← mark? '-' cs)
  let (_, cs) ← within? 1 (daysIn year month) (← mark? '-' cs)
  return cs

/-- Reads a time of the day; a minute may have 61 seconds. -/
def clock? (cs : List Char) : Option (List Char) := do
  let (_, cs) ← within? 0 23 cs
  let (_, cs) ← within? 0 59 (← mark? ':' cs)
  let (_, cs) ← within? 0 60 (← mark? ':' cs)
  match cs with
  | '.' :: c :: rest =>
    if (digit? 10 c).isSome then return rest.dropWhile fun c => (digit? 10 c).isSome else return cs
  | _ => return cs

/-- Reads the distance from universal time, if there is one. -/
def offset (cs : List Char) : List Char :=
  match cs with
  | c :: rest =>
    if c = 'Z' || c = 'z' then rest
    else if c = '+' || c = '-' then
      (do
        let (_, cs) ← within? 0 23 rest
        let (_, cs) ← within? 0 59 (← mark? ':' cs)
        return cs).getD cs
    else cs
  | [] => cs

/-- Reads a date with, perhaps, a time after it. -/
def dateTime? (cs : List Char) : Option (List Char) := do
  let afterDate ← date? cs
  match afterDate with
  | c :: rest =>
    if c = 'T' || c = 't' || c = ' ' then
      match clock? rest with
      | some afterClock => return offset afterClock
      | none => return afterDate
    else return afterDate
  | [] => return afterDate

/-- Reads a date, a time or both. -/
def time? (cs : List Char) : Option (Value × List Char) :=
  ((dateTime? cs).orElse fun _ => clock? cs).map fun rest =>
    (.time (String.ofList (cs.take (cs.length - rest.length))), rest)

/-! ### All of them -/

/-- Reads a value that starts with a digit, a sign, or the name of a special number. -/
def number? (cs : List Char) : Option (Value × List Char) :=
  (((time? cs).orElse fun _ => decimal? cs).orElse fun _ => special? cs).orElse fun _ =>
    integer? cs

end Switchboard.Toml
