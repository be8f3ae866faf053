import Switchboard.Unicode.Property

/-!
# Quoted text

Error texts show a piece of input between double quotes, with everything escaped that could not be
told apart or could not be seen: quotes and backslashes, control characters, blanks other than the
space, marks that would join the character before them, and code points without a glyph.
`Quoted.quote` writes that form.
-/

namespace Switchboard.Quoted

/-- The hexadecimal digits of a number, small and without leading zeros. -/
def hexDigits (n : Nat) : List Char := Nat.toDigits 16 n

/-- The code points that are never shown as they are: controls, format characters, surrogates,
private use, unassigned ones, and separators other than the space. -/
def hidden : CodePoints :=
  (Unicode.Category.any [.cc, .cf, .cs, .co, .cn, .zl, .zp, .zs]).diff (.single 0x20)

/-- The code points that are escaped by their number. -/
def escaped : CodePoints := Unicode.Property.graphemeExtend.union hidden

/-- Whether a character of no escape of its own is written as it is. -/
def isPlain (c : Char) : Bool :=
  if c.toNat < 0x80 then 0x20 ≤ c.toNat && c.toNat < 0x7F else !escaped.has c

/-- A character inside the quotes. -/
def escape (c : Char) : List Char :=
  if c = '"' then ['\\', '"']
  else if c = '\\' then ['\\', '\\']
  else if c = '\n' then ['\\', 'n']
  else if c = '\r' then ['\\', 'r']
  else if c = '\t' then ['\\', 't']
  else if c = '\x00' then ['\\', '0']
  else if isPlain c then [c]
  else '\\' :: 'u' :: '\x7b' :: hexDigits c.toNat ++ ['\x7d']

/-- A text between double quotes. -/
def quote (s : String) : String :=
  String.ofList ('"' :: s.toList.flatMap escape ++ ['"'])

end Switchboard.Quoted
