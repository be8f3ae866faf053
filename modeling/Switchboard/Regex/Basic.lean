import Switchboard.Unicode.Property

/-!
# Regular expressions

The regular expressions of the allow list, as trees in which every flag has been worked in: a leaf
is a set of characters or a condition on a position of the text.

`Regex.Matches text r i j` says that `r` matches the part of a text from position `i` to position
`j`, where a position is the number of characters before it. The conditions look at the text
around a position, so a match is always a match inside a text.
-/

namespace Switchboard

/-- A condition on a position. -/
inductive Look where
  | textStart
  | textEnd
  | lineStart
  | lineEnd
  /-- The start of a line that a carriage return may end as well. -/
  | anyLineStart
  /-- The end of a line that a carriage return may end as well. -/
  | anyLineEnd
  | wordBoundary (unicode : Bool)
  | notWordBoundary (unicode : Bool)
  | wordStart (unicode : Bool)
  | wordEnd (unicode : Bool)
  /-- No character of a word before the position. -/
  | halfStart (unicode : Bool)
  /-- No character of a word after the position. -/
  | halfEnd (unicode : Bool)
  deriving DecidableEq, Repr

namespace Look

/-- The characters of words, among all characters or among those of ASCII. -/
def wordSet (unicode : Bool) : CodePoints :=
  if unicode then Unicode.Property.word
  else { ranges := [(0x30, 0x39), (0x41, 0x5A), (0x5F, 0x5F), (0x61, 0x7A)] }

/-- Whether a character is there and in a word. -/
def inWord (unicode : Bool) : Option Char → Bool
  | some c => (wordSet unicode).has c
  | none => false

/-- Whether a condition holds between two neighbouring characters; at the ends of the text one of
them is missing. -/
def between (before after : Option Char) : Look → Bool
  | textStart => before.isNone
  | textEnd => after.isNone
  | lineStart => before.isNone || before == some '\n'
  | lineEnd => after.isNone || after == some '\n'
  | anyLineStart =>
    before.isNone || before == some '\n' || (before == some '\r' && after != some '\n')
  | anyLineEnd =>
    after.isNone || after == some '\r' || (after == some '\n' && before != some '\r')
  | wordBoundary u => inWord u before != inWord u after
  | notWordBoundary u => inWord u before == inWord u after
  | wordStart u => !inWord u before && inWord u after
  | wordEnd u => inWord u before && !inWord u after
  | halfStart u => !inWord u before
  | halfEnd u => !inWord u after

/-- Whether a condition holds at a position of a text. -/
def holds (text : List Char) (i : Nat) (l : Look) : Bool :=
  l.between (if i = 0 then none else text[i - 1]?) text[i]?

end Look

/-- A regular expression. -/
inductive Regex where
  /-- The empty text. -/
  | empty
  /-- One character of a set. -/
  | set (s : CodePoints)
  /-- The empty text where a condition holds. -/
  | look (l : Look)
  /-- A group, which remembers what it matched. -/
  | group (r : Regex)
  /-- One expression after the other. -/
  | cat (a b : Regex)
  /-- Either expression. -/
  | alt (a b : Regex)
  /-- An expression so many times in a row, without a bound if there is no greatest number. -/
  | rep (r : Regex) (least : Nat) (greatest : Option Nat)
  deriving Repr, Inhabited

namespace Regex

/-- So many steps of a relation, from one position to another. -/
inductive Times (R : Nat → Nat → Prop) : Nat → Nat → Nat → Prop where
  | zero (i : Nat) : Times R 0 i i
  | succ {n i j k : Nat} : R i j → Times R n j k → Times R (n + 1) i k

/-- Whether a number lies within the bounds of a repetition. -/
def InBounds (least : Nat) (greatest : Option Nat) (n : Nat) : Prop :=
  least ≤ n ∧ ∀ m, greatest = some m → n ≤ m

/-- A regular expression matches the part of a text between two positions. -/
def Matches (text : List Char) : Regex → Nat → Nat → Prop
  | empty, i, j => i = j ∧ i ≤ text.length
  | set s, i, j => j = i + 1 ∧ ∃ c, text[i]? = some c ∧ s.has c = true
  | look l, i, j => i = j ∧ i ≤ text.length ∧ l.holds text i = true
  | group r, i, j => Matches text r i j
  | cat a b, i, j => ∃ k, Matches text a i k ∧ Matches text b k j
  | alt a b, i, j => Matches text a i j ∨ Matches text b i j
  | rep r least greatest, i, j =>
    i ≤ text.length ∧ ∃ n, InBounds least greatest n ∧ Times (Matches text r) n i j

/-- A regular expression matches some part of a text. -/
def Finds (r : Regex) (text : List Char) : Prop := ∃ i j, Matches text r i j

/-- A regular expression matches a text from its first to its last character. -/
def MatchesWhole (r : Regex) (text : List Char) : Prop := Matches text r 0 text.length

/-! ### Several at once -/

/-- One expression after another, for a list. -/
def cats : List Regex → Regex
  | [] => empty
  | [r] => r
  | r :: rs => cat r (cats rs)

/-- Either of the expressions of a list. -/
def alts : List Regex → Regex
  | [] => empty
  | [r] => r
  | r :: rs => alt r (alts rs)

/-- One character. -/
def char (c : Char) : Regex := set (.single c.toNat)

end Regex

end Switchboard
