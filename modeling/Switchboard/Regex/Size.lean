import Switchboard.Regex.Basic

/-!
# Sizes

How much room a regular expression takes when it is compiled to an automaton over bytes. Patterns
that take too much are refused, so that a short pattern with nested counts cannot exhaust the
memory. A state takes 32 bytes; a set of characters takes a state for every range of bytes in a
prefix of the encodings of its members.

`Regex.size` is the size in bytes, and `Regex.sizeLimit` the bound on it.
-/

namespace Switchboard.Regex

/-- No more than this many bytes. -/
def sizeLimit : Nat := 10 * 1024 * 1024

/-- The bytes of a state. -/
def stateSize : Nat := 32

/-! ### Sets of characters -/

/-- The bytes that encode a code point. -/
def encode (c : Nat) : List Nat :=
  if c < 0x80 then [c]
  else if c < 0x800 then [0xC0 + c / 64, 0x80 + c % 64]
  else if c < 0x10000 then [0xE0 + c / 4096, 0x80 + c / 64 % 64, 0x80 + c % 64]
  else [0xF0 + c / 262144, 0x80 + c / 4096 % 64, 0x80 + c / 64 % 64, 0x80 + c % 64]

/-- The first code point after a given one at which a range of encodings has to be split: where
the surrogates begin and end, and where the encodings become longer. -/
def splitPoints : List Nat := [0x80, 0x800, 0xD800, 0xE000, 0x10000]

/-- Splits a range at the points that lie inside it. -/
def splitAt : List Nat → Nat × Nat → List (Nat × Nat)
  | [], r => [r]
  | p :: ps, (a, b) =>
    if a < p ∧ p ≤ b then (a, p - 1) :: splitAt ps (p, b) else splitAt ps (a, b)

/-- Splits a range of code points with encodings of one length so that the encodings of each part
are all the byte strings between two, byte by byte. `k` is the number of bytes after the first. -/
def splitBytes : Nat → Nat × Nat → List (Nat × Nat)
  | 0, r => [r]
  | k + 1, (a, b) =>
    let block := Nat.pow 64 (k + 1)
    if a / block = b / block then splitBytes k (a, b)
    else
      let low := if a % block = 0 then [] else splitBytes k (a, (a / block + 1) * block - 1)
      let high := if b % block = block - 1 then [] else splitBytes k (b / block * block, b)
      let first := if a % block = 0 then a / block else a / block + 1
      let last := if b % block = block - 1 then b / block + 1 else b / block
      low ++ (if first < last then [(first * block, last * block - 1)] else []) ++ high

/-- The byte ranges of the encodings of a set, in order. -/
def byteRanges (s : CodePoints) : List (List (Nat × Nat)) :=
  let parts := (s.ranges.flatMap (splitAt splitPoints)).filter fun r =>
    r.2 < 0xD800 || 0xE000 ≤ r.1
  (parts.flatMap fun r => splitBytes ((encode r.1).length - 1) r).map fun r =>
    (encode r.1).zip (encode r.2)

/-- How many entries of two lists agree at their beginning. -/
def commonLength : List (Nat × Nat) → List (Nat × Nat) → Nat
  | a :: as, b :: bs => if a = b then commonLength as bs + 1 else 0
  | _, _ => 0

/-- The number of different beginnings of byte ranges. -/
def beginnings (before : List (Nat × Nat)) : List (List (Nat × Nat)) → Nat
  | [] => 0
  | r :: rest => r.length - commonLength before r + beginnings r rest

/-- The only member of a set. -/
def onlyMember? (s : CodePoints) : Option Nat :=
  match s.ranges with
  | [(a, b)] => if a = b then some a else none
  | _ => none

/-- The size of a set of characters. -/
def setSize (s : CodePoints) : Nat :=
  match onlyMember? s with
  | some c => stateSize * (encode c).length
  | none =>
    if s.isAscii then 2 * stateSize + 8 * s.ranges.length
    else
      let rs := byteRanges s
      stateSize * (2 + beginnings [] rs) + 4 * rs.length

/-! ### Regular expressions -/

/-- Whether nothing but the empty text can match. -/
def onlyEmpty : Regex → Bool
  | .empty => true
  | .set _ => false
  | .look _ => true
  | .group r => onlyEmpty r
  | .cat a b => onlyEmpty a && onlyEmpty b
  | .alt a b => onlyEmpty a && onlyEmpty b
  | .rep r _ greatest => onlyEmpty r || greatest == some 0

/-- Whether the empty text can match. -/
def nullable : Regex → Bool
  | .empty => true
  | .set _ => false
  | .look _ => true
  | .group r => nullable r
  | .cat a b => nullable a && nullable b
  | .alt a b => nullable a || nullable b
  | .rep r least _ => least == 0 || nullable r

/-- The set of characters that an expression amounts to, if it is an alternative of sets. -/
def asSet? : Regex → Option CodePoints
  | .set s => some s
  | .alt a b =>
    match asSet? a, asSet? b with
    | some s, some t => some (s.union t)
    | _, _ => none
  | _ => none

/-- The size of a repetition of something of a size. -/
def repSize (size : Nat) (nullable : Bool) (least : Nat) : Option Nat → Nat
  | none =>
    if least = 0 then size + (if nullable then 3 * stateSize + 16 else stateSize + 4)
    else least * size + stateSize + 4
  | some m =>
    if m = 0 then stateSize
    else if m = least then least * size
    else if least = 0 ∧ m = 1 then size + 2 * stateSize + 8
    else max (least * size) stateSize + stateSize + (m - least) * (size + stateSize + 8)

/-- The size of a regular expression. -/
def size : Regex → Nat
  | .empty => stateSize
  | .set s => setSize s
  | .look _ => stateSize
  | .group r => size r + 2 * stateSize
  | .cat a b => size a + size b
  | .alt a b =>
    match asSet? (.alt a b) with
    | some s => setSize s
    | none => size a + size b + 2 * stateSize + 8
  | .rep r least greatest =>
    let m := if onlyEmpty r then greatest.map (min 1) else greatest
    repSize (size r) (nullable r) (if onlyEmpty r then min 1 least else least) m

end Switchboard.Regex
