/-!
# Reading damaged text

Bytes that should be UTF-8 but may not be are read all the same: every ill-formed piece becomes one
replacement character. A piece ends before the first byte that cannot continue it, so that an
interrupted character costs one replacement, not one for each of its bytes.
-/

namespace Switchboard.Lossy

/-- The character that stands for an ill-formed piece. -/
def replacement : Char := '\uFFFD'

/-- Whether a byte continues a character. -/
def continues (b : UInt8) : Bool := 0x80 ≤ b && b ≤ 0xBF

/-- The range of the second byte after a first byte of a character of three or four bytes. -/
def secondRange (first : UInt8) : UInt8 × UInt8 :=
  if first = 0xE0 then (0xA0, 0xBF)
  else if first = 0xED then (0x80, 0x9F)
  else if first = 0xF0 then (0x90, 0xBF)
  else if first = 0xF4 then (0x80, 0x8F)
  else (0x80, 0xBF)

/-- Whether a byte can follow a first byte. -/
def follows (first second : UInt8) : Bool :=
  let (lo, hi) := secondRange first
  lo ≤ second && second ≤ hi

/-- The number of bytes of the character that a first byte announces, zero if it announces none. -/
def width (first : UInt8) : Nat :=
  if first < 0x80 then 1
  else if 0xC2 ≤ first && first ≤ 0xDF then 2
  else if 0xE0 ≤ first && first ≤ 0xEF then 3
  else if 0xF0 ≤ first && first ≤ 0xF4 then 4
  else 0

/-- The code point of a first byte's share and of the shares of the bytes that continue it. -/
def assemble (share : Nat) (rest : List UInt8) : Char :=
  Char.ofNat (rest.foldl (fun n b => n * 64 + (b.toNat - 0x80)) share)

/-- The first character of bytes that begin with `a`, and how many further bytes it takes. -/
def next (a : UInt8) (rest : List UInt8) : Char × Nat :=
  match width a, rest with
  | 1, _ => (Char.ofNat a.toNat, 0)
  | 2, b :: _ => if continues b then (assemble (a.toNat - 0xC0) [b], 1) else (replacement, 0)
  | 3, b :: c :: _ =>
    if !follows a b then (replacement, 0)
    else if continues c then (assemble (a.toNat - 0xE0) [b, c], 2)
    else (replacement, 1)
  | 3, [b] => (replacement, if follows a b then 1 else 0)
  | 4, b :: c :: d :: _ =>
    if !follows a b then (replacement, 0)
    else if !continues c then (replacement, 1)
    else if continues d then (assemble (a.toNat - 0xF0) [b, c, d], 3)
    else (replacement, 2)
  | 4, [b, c] => (replacement, if !follows a b then 0 else if continues c then 2 else 1)
  | 4, [b] => (replacement, if follows a b then 1 else 0)
  | _, _ => (replacement, 0)

/-- The characters of bytes after skipping some, in reverse before `done`. -/
def decodeFrom (done : List Char) : Nat → List UInt8 → List Char
  | _, [] => done.reverse
  | skip + 1, _ :: rest => decodeFrom done skip rest
  | 0, a :: rest =>
    let (c, n) := next a rest
    decodeFrom (c :: done) n rest

/-- The text of bytes, with a replacement for every ill-formed piece. -/
def decode (bytes : List UInt8) : String := String.ofList (decodeFrom [] 0 bytes)

end Switchboard.Lossy
