import Switchboard.Text.Json
import Switchboard.Unicode.CodePoints

/-!
# Bytes and text

Bodies and files are bytes; they are text if they are well-formed UTF-8.
-/

namespace Switchboard

/-- The bytes of a text. -/
def utf8 (s : String) : List UInt8 := s.toUTF8.toList

/-- The text that bytes encode. -/
def textOfBytes? (bytes : List UInt8) : Option String :=
  String.fromUTF8? (ByteArray.mk bytes.toArray)

/-- Bytes as two hexadecimal digits each. -/
def hexText (bytes : List UInt8) : String :=
  String.ofList
    (bytes.flatMap fun b => [Nat.digitChar (b.toNat / 16), Nat.digitChar (b.toNat % 16)])

/-- The bytes that pairs of hexadecimal digits write. -/
def bytesOfHex : List Char → List UInt8
  | a :: b :: rest =>
    let value (c : Char) : Nat := (CodePoints.hexDigit? c).getD 0
    UInt8.ofNat (value a * 16 + value b) :: bytesOfHex rest
  | _ => []

/-- Bytes as data: text, or else their hexadecimal digits. -/
def Json.ofBytes (bytes : List UInt8) : Json :=
  match textOfBytes? bytes with
  | some s => .str s
  | none => .obj [("hex", .str (hexText bytes))]

end Switchboard
