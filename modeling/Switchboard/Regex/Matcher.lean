import Switchboard.Regex.Basic

/-!
# Matching

Deciding whether a regular expression matches some part of a text. First the expression is located
in the text: its sets of characters and its conditions are replaced by the positions at which they
hold. Then the positions at which a match can end are computed from those at which it can start,
for all of them at once. A set of positions is a number, of which the bit `i` tells whether `i` is
in the set.

`Regex.finds` is the decision, and `Located.ends` the computation on sets of positions.
-/

namespace Switchboard.Regex

/-- A set of positions. -/
abbrev Positions := Nat

/-- A regular expression located in a text. -/
inductive Located where
  | empty
  /-- One character, at any of some positions. -/
  | step (places : Positions)
  /-- The empty text, at any of some positions. -/
  | stay (places : Positions)
  | cat (a b : Located)
  | alt (a b : Located)
  | rep (r : Located) (least : Nat) (greatest : Option Nat)

/-! ### Locating -/

/-- The positions from `i` on at which the characters of a list satisfy a condition. -/
def positionsFrom (p : Char → Bool) (i : Nat) (acc : Positions) : List Char → Positions
  | [] => acc
  | c :: rest => positionsFrom p (i + 1) (if p c then acc ||| 1 <<< i else acc) rest

/-- The positions from `i` on at which a condition on the neighbours holds. -/
def looksFrom (l : Look) (before : Option Char) (i : Nat) (acc : Positions) :
    List Char → Positions
  | [] => if l.between before none then acc ||| 1 <<< i else acc
  | c :: rest =>
    looksFrom l (some c) (i + 1) (if l.between before (some c) then acc ||| 1 <<< i else acc) rest

/-- Locates a regular expression in a text. -/
def locate (text : List Char) : Regex → Located
  | .empty => .empty
  | .set s => .step (positionsFrom s.has 0 0 text)
  | .look l => .stay (looksFrom l none 0 0 text)
  | .group r => locate text r
  | .cat a b => .cat (locate text a) (locate text b)
  | .alt a b => .alt (locate text a) (locate text b)
  | .rep r least greatest => .rep (locate text r) least greatest

/-! ### Ends of matches -/

/-- Applies a step so many times, but stops when it changes nothing. -/
def iterate (step : Positions → Positions) : Nat → Positions → Positions
  | 0, s => s
  | n + 1, s =>
    let t := step s
    if t = s then s else iterate step n t

/-- Everything reached from some positions, `fresh` among them, in at most so many steps; only the
positions reached for the first time are followed. -/
def reach (step : Positions → Positions) : Nat → Positions → Positions → Positions
  | 0, s, _ => s
  | n + 1, s, fresh =>
    let t := step fresh
    let new := t ^^^ (t &&& s)
    if new = 0 then s else reach step n (s ||| new) new

/-- The positions at which a match can end if it starts at one of some positions, in a text of
which all positions lie below `size`. -/
def Located.ends (size : Nat) : Located → Positions → Positions
  | .empty, s => s
  | .step p, s => (s &&& p) <<< 1
  | .stay p, s => s &&& p
  | .cat a b, s => b.ends size (a.ends size s)
  | .alt a b, s => a.ends size s ||| b.ends size s
  | .rep r least greatest, s =>
    let t := iterate (r.ends size) least s
    match greatest with
    | none => reach (r.ends size) size t t
    | some m => reach (r.ends size) (m - least) t t

/-- Whether a regular expression matches some part of a text. -/
def finds (r : Regex) (text : List Char) : Bool :=
  let size := text.length + 1
  (locate text r).ends size ((1 <<< size) - 1) ≠ 0

end Switchboard.Regex
