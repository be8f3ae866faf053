import Switchboard.Unicode.CodePoints

/-!
# Socket addresses

The text of an address to listen on: an IPv4 address and a port (`127.0.0.1:8080`), or an IPv6
address in brackets, perhaps with the number of a scope, and a port (`[::1%2]:8080`).

`SocketAddress.parse?` reads an address, `SocketAddress.host` writes its host.
-/

namespace Switchboard

/-- The host of a socket address. -/
inductive Host where
  /-- Four numbers below 256. -/
  | v4 (octets : List Nat)
  /-- Eight numbers below 65536, and a scope. -/
  | v6 (groups : List Nat) (scope : Nat)
  deriving DecidableEq, Repr, Inhabited

/-- A host and a port. -/
structure SocketAddress where
  host : Host
  port : Nat
  deriving DecidableEq, Repr, Inhabited

namespace SocketAddress

/-! ### Numbers -/

/-- The value of a digit below 16, in a radix. -/
def digit? (radix : Nat) (c : Char) : Option Nat :=
  (CodePoints.hexDigit? c).filter (· < radix)

/-- The number that digits write. -/
def numberOf (radix : Nat) (digits : List Char) : Nat :=
  digits.foldl (fun n c => n * radix + (digit? radix c).getD 0) 0

/-- Reads all digits that follow: at least one, and a number of at most a bound. -/
def number? (radix bound : Nat) (cs : List Char) : Option (Nat × List Char) :=
  let digits := cs.takeWhile fun c => (digit? radix c).isSome
  let rest := cs.dropWhile fun c => (digit? radix c).isSome
  if digits.isEmpty || bound < numberOf radix digits then none
  else some (numberOf radix digits, rest)

/-- Reads a number of at most so many digits. -/
def shortNumber? (radix width bound : Nat) (cs : List Char) : Option (Nat × List Char) :=
  if width < (cs.takeWhile fun c => (digit? radix c).isSome).length then none
  else number? radix bound cs

/-- Reads a character. -/
def exactly? (c : Char) : List Char → Option (List Char)
  | d :: rest => if c = d then some rest else none
  | [] => none

/-! ### Hosts -/

/-- Reads a number of an IPv4 address: no leading zeros. -/
def octet? (cs : List Char) : Option (Nat × List Char) :=
  match shortNumber? 10 3 255 cs with
  | some (n, rest) =>
    if cs.head? = some '0' ∧ rest.length + 1 < cs.length then none else some (n, rest)
  | none => none

/-- Reads an IPv4 address. -/
def ipv4? (cs : List Char) : Option (List Nat × List Char) := do
  let (a, cs) ← octet? cs
  let (b, cs) ← octet? (← exactly? '.' cs)
  let (c, cs) ← octet? (← exactly? '.' cs)
  let (d, cs) ← octet? (← exactly? '.' cs)
  return ([a, b, c, d], cs)

/-- The two groups that an IPv4 address takes up in an IPv6 address. -/
def embedded : List Nat → List Nat
  | [a, b, c, d] => [a * 256 + b, c * 256 + d]
  | _ => []

/-- Passes the colon between two groups, of which the first has none before it. -/
def afterColon? (first : Bool) (cs : List Char) : Option (List Char) :=
  if first then some cs else exactly? ':' cs

/-- Reads at most so many groups of an IPv6 address, the last two perhaps as an IPv4 address; the
answer tells whether they were. -/
def groups (first : Bool) : Nat → List Char → List Nat × Bool × List Char
  | 0, cs => ([], false, cs)
  | n + 1, cs =>
    match (if 0 < n then (afterColon? first cs).bind ipv4? else none) with
    | some (octets, rest) => (embedded octets, true, rest)
    | none =>
      match (afterColon? first cs).bind (shortNumber? 16 4 0xFFFF) with
      | some (g, rest) =>
        let (gs, v4, rest) := groups false n rest
        (g :: gs, v4, rest)
      | none => ([], false, cs)

/-- Reads an IPv6 address: eight groups, or fewer around one double colon that stands for at least
one group of zeros. -/
def ipv6? (cs : List Char) : Option (List Nat × List Char) :=
  let (head, v4, rest) := groups true 8 cs
  if head.length = 8 then some (head, rest)
  else if v4 then none
  else do
    let rest ← exactly? ':' (← exactly? ':' rest)
    let (tail, _, rest) := groups true (7 - head.length) rest
    return (head ++ List.replicate (8 - head.length - tail.length) 0 ++ tail, rest)

/-! ### Whole addresses -/

/-- Reads a colon and a port. -/
def port? (cs : List Char) : Option (Nat × List Char) := do
  number? 10 0xFFFF (← exactly? ':' cs)

/-- Reads an IPv4 address with its port. -/
def socketV4? (cs : List Char) : Option (SocketAddress × List Char) := do
  let (octets, cs) ← ipv4? cs
  let (port, cs) ← port? cs
  return ({ host := .v4 octets, port }, cs)

/-- Reads a scope, if there is one. -/
def scope? (cs : List Char) : Option (Nat × List Char) :=
  match exactly? '%' cs with
  | some rest => number? 10 0xFFFFFFFF rest
  | none => some (0, cs)

/-- Reads an IPv6 address in brackets with its port. -/
def socketV6? (cs : List Char) : Option (SocketAddress × List Char) := do
  let (groups, cs) ← ipv6? (← exactly? '[' cs)
  let (scope, cs) ← scope? cs
  let (port, cs) ← port? (← exactly? ']' cs)
  return ({ host := .v6 groups scope, port }, cs)

/-- The address that a text writes. -/
def parse? (text : String) : Option SocketAddress :=
  match (socketV4? text.toList).orElse fun _ => socketV6? text.toList with
  | some (a, []) => some a
  | _ => none

/-- What is wrong with a text that is no address. -/
def syntaxMessage : String := "invalid socket address syntax"

/-! ### Writing a host -/

/-- The length of the run of zeros at the beginning. -/
def zeroRun (gs : List Nat) : Nat := (gs.takeWhile (· == 0)).length

/-- The first longest run of zeros, of two at least: where it starts and its length. -/
def longestZeroRun (gs : List Nat) : Nat × Nat :=
  (List.range gs.length).foldl (fun best i =>
    let n := zeroRun (gs.drop i)
    if best.2 < n ∧ 1 < n then (i, n) else best) (0, 0)

/-- Groups in hexadecimal with colons between them. -/
def groupsText (gs : List Nat) : String :=
  ":".intercalate (gs.map fun g => String.ofList (Nat.toDigits 16 g))

/-- Four numbers with points between them. -/
def octetsText (ns : List Nat) : String := ".".intercalate (ns.map toString)

/-- The text of a host. -/
def hostText : Host → String
  | .v4 octets => octetsText octets
  | .v6 groups scope =>
    let text :=
      match groups with
      | [0, 0, 0, 0, 0, 0xFFFF, a, b] =>
        "::ffff:" ++ octetsText [a / 256, a % 256, b / 256, b % 256]
      | _ =>
        match longestZeroRun groups with
        | (_, 0) => groupsText groups
        | (i, n) => groupsText (groups.take i) ++ "::" ++ groupsText (groups.drop (i + n))
    if scope = 0 then text else text ++ "%" ++ toString scope

end SocketAddress

end Switchboard
