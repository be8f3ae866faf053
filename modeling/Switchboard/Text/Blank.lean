import Switchboard.Unicode.Property

/-!
# Blanks

Splitting and trimming text at blanks, where a blank is a character with the white space property.
`Blank.words` are the pieces between blanks, none of them empty; `Blank.trim` drops the blanks at
both ends.
-/

namespace Switchboard.Blank

/-- Whether a character is a blank. -/
def isBlank (c : Char) : Bool :=
  if c.toNat < 0x80 then c == ' ' || (0x09 ≤ c.toNat && c.toNat ≤ 0x0D)
  else Unicode.Property.whiteSpace.has c

/-- The characters after the leading blanks. -/
def trimStart (cs : List Char) : List Char := cs.dropWhile isBlank

/-- The characters before the trailing blanks. -/
def trimEnd (cs : List Char) : List Char := (cs.reverse.dropWhile isBlank).reverse

/-- The characters between the blanks at both ends. -/
def trimChars (cs : List Char) : List Char := trimEnd (trimStart cs)

/-- A text without the blanks at its ends. -/
def trim (s : String) : String := String.ofList (trimChars s.toList)

/-- The words of a text from a point where `word` has been read, in reverse. -/
def wordsFrom (word : List Char) : List Char → List (List Char)
  | [] => if word.isEmpty then [] else [word.reverse]
  | c :: rest =>
    if isBlank c then
      if word.isEmpty then wordsFrom [] rest else word.reverse :: wordsFrom [] rest
    else wordsFrom (c :: word) rest

/-- The pieces of a text between blanks. -/
def words (s : String) : List String := (wordsFrom [] s.toList).map String.ofList

end Switchboard.Blank
