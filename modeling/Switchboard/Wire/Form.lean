import Switchboard.Text.Lossy
import Switchboard.Unicode.CodePoints

/-!
# Form data

The pairs of a query or of a posted form: pieces between ampersands, each a name and a value around
the first equals sign. A plus sign is a blank, and a percent sign with two hexadecimal digits is a
byte.
-/

namespace Switchboard.Form

/-- The value of a hexadecimal digit. -/
def hexDigit? (b : UInt8) : Option UInt8 :=
  (CodePoints.hexDigit? (Char.ofNat b.toNat)).map UInt8.ofNat

/-- Bytes with the percent signs resolved, in reverse before `done`. -/
def percentDecodeFrom (done : List UInt8) : List UInt8 → List UInt8
  | [] => done.reverse
  | 0x25 :: a :: b :: rest =>
    match hexDigit? a, hexDigit? b with
    | some x, some y => percentDecodeFrom ((x * 16 + y) :: done) rest
    | _, _ => percentDecodeFrom (0x25 :: done) (a :: b :: rest)
  | a :: rest => percentDecodeFrom (a :: done) rest

/-- Bytes with the percent signs resolved. -/
def percentDecode (bytes : List UInt8) : List UInt8 := percentDecodeFrom [] bytes

/-- The text of a name or a value. -/
def decode (bytes : List UInt8) : String :=
  Lossy.decode (percentDecode (bytes.map fun b => if b = 0x2B then 0x20 else b))

/-- Cuts bytes at the first byte of a kind; the second part is empty if there is none. -/
def cut (b : UInt8) (bytes : List UInt8) : List UInt8 × List UInt8 :=
  (bytes.takeWhile (· != b), (bytes.dropWhile (· != b)).drop 1)

/-- The name and the value of a piece. -/
def pair (piece : List UInt8) : String × String :=
  let (name, value) := cut 0x3D piece
  (decode name, decode value)

/-- The pieces between ampersands, in reverse before `done`; `piece` is the present one so far, in
reverse. -/
def piecesFrom (done : List (List UInt8)) (piece : List UInt8) :
    List UInt8 → List (List UInt8)
  | [] => (piece.reverse :: done).reverse
  | b :: rest =>
    if b = 0x26 then piecesFrom (piece.reverse :: done) [] rest
    else piecesFrom done (b :: piece) rest

/-- The pairs of form data; empty pieces do not count. -/
def pairs (bytes : List UInt8) : List (String × String) :=
  ((piecesFrom [] [] bytes).filter (!·.isEmpty)).map pair

end Switchboard.Form
