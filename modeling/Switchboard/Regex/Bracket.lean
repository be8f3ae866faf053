import Switchboard.Regex.Atom

/-!
# Sets between brackets

A set of characters is written between brackets, as characters, ranges, classes and further sets
between brackets, with a circumflex in front for the complement. Two sets can be intersected
(two ampersands), subtracted (two hyphens) or compared (two tildes); such operations are taken
from left to right.

`Regex.bracket?` reads a set after its opening bracket, and also tells how deep it nests.
-/

namespace Switchboard.Regex

/-- A set that was read, and the depth of what was read. -/
structure ReadSet where
  set : CodePoints
  depth : Nat

/-- The items that stand side by side: their union, how many there are and how deep they nest. -/
structure Items where
  set : CodePoints := .empty
  count : Nat := 0
  depth : Nat := 0

namespace Items

/-- One more item. -/
def add (is : Items) (s : CodePoints) (depth : Nat) : Items where
  set := is.set.union s
  count := is.count + 1
  depth := max is.depth depth

/-- The items as one set. -/
def read (is : Items) : ReadSet where
  set := is.set
  depth := if is.count ≤ 1 then is.depth else is.depth + 1

end Items

/-- An operation on two sets. -/
inductive SetOp where
  | inter
  | diff
  | symmDiff
  deriving DecidableEq

/-- An operation of which the left side has been read. -/
abbrev Pending := Option (SetOp × ReadSet)

/-- Carries out an operation; case is folded before that. -/
def SetOp.apply (f : Flags) (op : SetOp) (s t : CodePoints) : CodePoints :=
  match op with
  | inter => (f.fold s).inter (f.fold t)
  | diff => (f.fold s).diff (f.fold t)
  | symmDiff => (f.fold s).symmDiff (f.fold t)

/-- Closes the right side of an operation. -/
def closeOp (f : Flags) (pending : Pending) (is : Items) : ReadSet :=
  match pending with
  | none => is.read
  | some (op, left) =>
    { set := op.apply f left.set is.read.set, depth := max left.depth is.read.depth + 1 }

/-- The operation that starts here. -/
def setOp? : List Char → Option (SetOp × List Char)
  | '&' :: '&' :: rest => some (.inter, rest)
  | '-' :: '-' :: rest => some (.diff, rest)
  | '~' :: '~' :: rest => some (.symmDiff, rest)
  | _ => none

/-- Drops a circumflex, and tells whether there was one. -/
def caret : List Char → Bool × List Char
  | '^' :: rest => (true, rest)
  | cs => (false, cs)

/-- Reads a class between colons, of which the bracket has been read: its set, whether the
complement is meant, and what is left. -/
def colonClass? (cs : List Char) : Option (CodePoints × Bool × List Char) :=
  match cs with
  | ':' :: rest =>
    match cut? [':'] (caret rest).2 with
    | some (name, ']' :: left) =>
      (asciiClass? (String.ofList name)).map fun s => (s, (caret rest).1, left)
    | _ => none
  | _ => none

/-- Reads a character or an escape inside brackets. -/
def setAtom? (f : Flags) : List Char → Option (Atom × List Char)
  | [] => none
  | '\\' :: rest => escape? f rest
  | c :: rest => some (.char c false, rest)

/-- A character that may stand in a set: without Unicode only one of ASCII. -/
def setChar? (f : Flags) : Atom → Option Nat
  | .char c _ => if f.unicode || c.toNat < 128 then some c.toNat else none
  | _ => none

/-- An atom as a set. -/
def atomSet? (f : Flags) (a : Atom) : Option CodePoints :=
  match a with
  | .set s => some s
  | .look _ => none
  | .char _ _ => (setChar? f a).map .single

/-- Reads an item: a range, a character or a class. -/
def item? (f : Flags) (cs : List Char) : Option (CodePoints × List Char) := do
  let (a, rest) ← setAtom? f cs
  match f.skip rest with
  | [] => none
  | '-' :: after =>
    if f.peek after = some ']' || f.peek after = some '-' then
      return (← atomSet? f a, '-' :: after)
    else
      let (b, rest) ← setAtom? f (f.skip after)
      let first ← setChar? f a
      let last ← setChar? f b
      if first ≤ last then return (.range first last, rest) else none
  | rest => return (← atomSet? f a, rest)

/-- Reads the hyphens at the beginning of a set, which stand for themselves. -/
def hyphens (f : Flags) (is : Items) : Nat → List Char → Items × List Char
  | 0, cs => (is, cs)
  | k + 1, '-' :: rest => hyphens f (is.add (.single '-'.toNat) 0) k (f.skip rest)
  | _ + 1, cs => (is, cs)

/-- Reads the beginning of a set: whether the complement is meant, and the hyphens, or else the
closing bracket, that stand for themselves. -/
def opening (f : Flags) (cs : List Char) : Bool × Items × List Char :=
  let negated := (caret (f.skip cs)).1
  let inner := f.skip (caret (f.skip cs)).2
  match hyphens f {} inner.length inner with
  | (is, ']' :: rest) =>
    if is.count = 0 then (negated, is.add (.single ']'.toNat) 0, f.skip rest)
    else (negated, is, ']' :: rest)
  | (is, rest) => (negated, is, rest)

mutual

/-- Reads a set after its opening bracket; `fuel` bounds the number of steps. -/
def bracket? (f : Flags) (fuel : Nat) (cs : List Char) : Option (ReadSet × List Char) :=
  match fuel with
  | 0 => none
  | fuel + 1 =>
    let (negated, is, rest) := opening f cs
    items? f fuel negated none is rest

/-- Reads the items of a set and its closing bracket. -/
def items? (f : Flags) (fuel : Nat) (negated : Bool) (pending : Pending) (is : Items)
    (cs : List Char) : Option (ReadSet × List Char) :=
  match fuel with
  | 0 => none
  | fuel + 1 =>
    match f.skip cs with
    | [] => none
    | ']' :: rest =>
      let inner := closeOp f pending is
      (f.finish? negated inner.set).map fun s => ({ set := s, depth := inner.depth + 1 }, rest)
    | '[' :: rest =>
      match colonClass? rest with
      | some (s, neg, rest) => do
        items? f fuel negated pending (is.add (← f.finish? neg s) 0) rest
      | none => do
        let (inner, rest) ← bracket? f fuel rest
        items? f fuel negated pending (is.add inner.set inner.depth) rest
    | cs =>
      match setOp? cs with
      | some (op, rest) => items? f fuel negated (some (op, closeOp f pending is)) {} rest
      | none => do
        let (s, rest) ← item? f cs
        items? f fuel negated pending (is.add s 0) rest

end

end Switchboard.Regex
