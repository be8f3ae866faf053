/-!
# Sets of code points

A set of code points is kept as a list of closed ranges in increasing order, any two of them apart
by at least one code point, together with the proof that it is so. The set operations work range by
range, so a table of the Unicode standard is as cheap to complement or to intersect as a single
letter.

`CodePoints.ofText` reads the notation of the standard's own data files, ranges of hexadecimal
numbers separated by blanks and line ends (`41-5A 61-7A AA`), which is how the tables of this
library are written.
-/

namespace Switchboard

namespace CodePoints

/-- Closed ranges that start no sooner than `start`, none of them empty, in increasing order and
apart. -/
def Apart (start : Nat) : List (Nat × Nat) → Prop
  | [] => True
  | r :: rest => start ≤ r.1 ∧ r.1 ≤ r.2 ∧ Apart (r.2 + 2) rest

instance : (start : Nat) → (rs : List (Nat × Nat)) → Decidable (Apart start rs)
  | _, [] => .isTrue trivial
  | start, r :: rest =>
    have : Decidable (Apart (r.2 + 2) rest) := instDecidableApart (r.2 + 2) rest
    inferInstanceAs (Decidable (start ≤ r.1 ∧ r.1 ≤ r.2 ∧ Apart (r.2 + 2) rest))

end CodePoints

/-- A set of code points: closed ranges, increasing and apart. -/
structure CodePoints where
  ranges : List (Nat × Nat)
  apart : CodePoints.Apart 0 ranges := by decide
  deriving DecidableEq, Repr

namespace CodePoints

/-- The greatest code point. -/
def last : Nat := 0x10FFFF

/-- The empty set. -/
def empty : CodePoints := ⟨[], trivial⟩

instance : Inhabited CodePoints := ⟨empty⟩

/-- One closed range; empty if the ends are in the wrong order. -/
def range (a b : Nat) : CodePoints :=
  if h : a ≤ b then ⟨[(a, b)], Nat.zero_le a, h, trivial⟩ else empty

/-- One code point. -/
def single (c : Nat) : CodePoints := ⟨[(c, c)], Nat.zero_le c, Nat.le_refl c, trivial⟩

/-- Whether a code point is in the set. -/
def contains (s : CodePoints) (c : Nat) : Bool :=
  s.ranges.any fun r => r.1 ≤ c && c ≤ r.2

/-- Whether a character is in the set. -/
def has (s : CodePoints) (c : Char) : Bool := s.contains c.toNat

/-! ### Joining ranges -/

/-- Closed ranges, none of them empty, of which each starts no sooner than the one before it, and
the first no sooner than `start`. -/
def Rising (start : Nat) : List (Nat × Nat) → Prop
  | [] => True
  | r :: rest => start ≤ r.1 ∧ r.1 ≤ r.2 ∧ Rising r.1 rest

theorem Apart.mono {a b : Nat} (h : a ≤ b) : {rs : List (Nat × Nat)} → Apart b rs → Apart a rs
  | [], _ => trivial
  | _ :: _, ⟨hstart, hr⟩ => ⟨Nat.le_trans h hstart, hr⟩

theorem Rising.mono {a b : Nat} (h : a ≤ b) : {rs : List (Nat × Nat)} → Rising b rs → Rising a rs
  | [], _ => trivial
  | _ :: _, ⟨hstart, hr⟩ => ⟨Nat.le_trans h hstart, hr⟩

theorem Apart.rising {start : Nat} {rs : List (Nat × Nat)} (h : Apart start rs) :
    Rising start rs := by
  induction rs generalizing start with
  | nil => trivial
  | cons r rest ih => exact ⟨h.1, h.2.1, (ih h.2.2).mono (by have := h.2.1; omega)⟩

/-- Puts a range in front of ranges that do not start before it, joining the two that touch. -/
def push (r : Nat × Nat) : List (Nat × Nat) → List (Nat × Nat)
  | [] => [r]
  | q :: rest => if q.1 ≤ r.2 + 1 then push (r.1, max r.2 q.2) rest else r :: q :: rest

theorem apart_push {r : Nat × Nat} (hr : r.1 ≤ r.2) {rs : List (Nat × Nat)} (h : Apart r.1 rs) :
    Apart r.1 (push r rs) := by
  induction rs generalizing r with
  | nil => exact ⟨Nat.le_refl _, hr, trivial⟩
  | cons q rest ih =>
    obtain ⟨hstart, hq, hrest⟩ := h
    simp only [push]
    split
    · exact ih (r := (r.1, max r.2 q.2)) (by dsimp only; omega) (hrest.mono (by dsimp only; omega))
    · exact ⟨Nat.le_refl _, hr, by omega, hq, hrest⟩

/-- Joins touching ranges of a list in increasing order of their starts. -/
def joined : List (Nat × Nat) → List (Nat × Nat)
  | [] => []
  | r :: rest => push r (joined rest)

theorem Rising.apart_joined {start : Nat} {rs : List (Nat × Nat)} (h : Rising start rs) :
    Apart start (joined rs) := by
  induction rs generalizing start with
  | nil => trivial
  | cons r rest ih => exact (apart_push h.2.1 (ih h.2.2)).mono h.1

/-- The ranges of a list that are not empty, by their starts. -/
def inOrder (rs : List (Nat × Nat)) : List (Nat × Nat) :=
  (rs.filter fun r => r.1 ≤ r.2).mergeSort fun a b => a.1 ≤ b.1

theorem rising_of_pairwise {start : Nat} {rs : List (Nat × Nat)}
    (hrs : rs.Pairwise fun a b => a.1 ≤ b.1) (h : ∀ r ∈ rs, start ≤ r.1 ∧ r.1 ≤ r.2) :
    Rising start rs := by
  induction hrs generalizing start with
  | nil => trivial
  | cons hr _ ih =>
    obtain ⟨hhead, htail⟩ := List.forall_mem_cons.mp h
    exact ⟨hhead.1, hhead.2, ih fun q hq => ⟨hr q hq, (htail q hq).2⟩⟩

theorem rising_inOrder (rs : List (Nat × Nat)) : Rising 0 (inOrder rs) := by
  refine rising_of_pairwise ?_ fun r hr => ⟨Nat.zero_le _, ?_⟩
  · have hsorted : (inOrder rs).Pairwise fun a b => decide (a.1 ≤ b.1) = true :=
      List.pairwise_mergeSort
        (fun a b c hab hbc => by simp only [decide_eq_true_eq] at *; omega)
        (fun a b => by simp only [Bool.or_eq_true, decide_eq_true_eq]; omega) _
    exact hsorted.imp of_decide_eq_true
  · have hmem := List.mem_mergeSort.mp hr
    exact of_decide_eq_true (List.mem_filter.mp hmem).2

/-- The set of the code points of some ranges in any order. -/
def ofRanges (rs : List (Nat × Nat)) : CodePoints :=
  ⟨joined (inOrder rs), (rising_inOrder rs).apart_joined⟩

/-! ### Set operations -/

/-- Merges two lists of ranges by their starts. -/
def interleave : List (Nat × Nat) → List (Nat × Nat) → List (Nat × Nat)
  | [], bs => bs
  | as, [] => as
  | a :: as, b :: bs =>
    if a.1 ≤ b.1 then a :: interleave as (b :: bs) else b :: interleave (a :: as) bs

theorem rising_interleave {start : Nat} {as bs : List (Nat × Nat)} (ha : Rising start as)
    (hb : Rising start bs) : Rising start (interleave as bs) := by
  induction as, bs using interleave.induct generalizing start with
  | case1 bs => simpa only [interleave] using hb
  | case2 as has =>
    cases as with
    | nil => exact absurd rfl has
    | cons => simpa only [interleave] using ha
  | case3 a as b bs hab ih =>
    rw [interleave, if_pos hab]
    exact ⟨ha.1, ha.2.1, ih ha.2.2 ⟨hab, hb.2⟩⟩
  | case4 a as b bs hab ih =>
    rw [interleave, if_neg hab]
    exact ⟨hb.1, hb.2.1, ih ⟨by omega, ha.2⟩ hb.2.2⟩

/-- The code points in either set. -/
def union (s t : CodePoints) : CodePoints :=
  ⟨joined (interleave s.ranges t.ranges),
    (rising_interleave s.apart.rising t.apart.rising).apart_joined⟩

/-- The gaps between ranges, from a start on, up to the greatest code point. -/
def gaps (start : Nat) : List (Nat × Nat) → List (Nat × Nat)
  | [] => if start ≤ last then [(start, last)] else []
  | r :: rest =>
    if start < r.1 then (start, r.1 - 1) :: gaps (r.2 + 1) rest else gaps (r.2 + 1) rest

theorem apart_gaps {start : Nat} {rs : List (Nat × Nat)} (h : Apart start rs) :
    Apart start (gaps start rs) := by
  induction rs generalizing start with
  | nil =>
    simp only [gaps]
    split
    · exact ⟨Nat.le_refl _, ‹_›, trivial⟩
    · trivial
  | cons r rest ih =>
    obtain ⟨hstart, hr, hrest⟩ := h
    have hgaps : Apart (r.2 + 1) (gaps (r.2 + 1) rest) := ih (hrest.mono (by omega))
    simp only [gaps]
    split
    · exact ⟨Nat.le_refl _, by dsimp only; omega, hgaps.mono (by dsimp only; omega)⟩
    · exact hgaps.mono (by omega)

/-- All other code points. -/
def compl (s : CodePoints) : CodePoints := ⟨gaps 0 s.ranges, apart_gaps s.apart⟩

/-- The code points in both sets. -/
def inter (s t : CodePoints) : CodePoints := (s.compl.union t.compl).compl

/-- The code points in the first set and not in the second. -/
def diff (s t : CodePoints) : CodePoints := s.inter t.compl

/-- The code points in exactly one of the sets. -/
def symmDiff (s t : CodePoints) : CodePoints := (s.union t).diff (s.inter t)

instance : Union CodePoints := ⟨union⟩
instance : Inter CodePoints := ⟨inter⟩
instance : SDiff CodePoints := ⟨diff⟩

/-- The union of several sets. -/
def unions (ss : List CodePoints) : CodePoints := ss.foldl union empty

/-- Whether all code points are below 128. -/
def isAscii (s : CodePoints) : Bool := s.ranges.all fun r => r.2 < 128

/-! ### The notation of the tables -/

/-- The value of a hexadecimal digit. -/
def hexDigit? (c : Char) : Option Nat :=
  if '0' ≤ c ∧ c ≤ '9' then some (c.toNat - '0'.toNat)
  else if 'A' ≤ c ∧ c ≤ 'F' then some (c.toNat - 'A'.toNat + 10)
  else if 'a' ≤ c ∧ c ≤ 'f' then some (c.toNat - 'a'.toNat + 10)
  else none

/-- The numbers of a text of hexadecimal numbers; a `-` is kept as a mark of its own. -/
private def readTable (number : Option Nat) (open? : Option Nat) :
    List Char → List (Nat × Nat) → List (Nat × Nat)
  | [], acc =>
    match number, open? with
    | some n, some a => (a, n) :: acc
    | some n, none => (n, n) :: acc
    | none, _ => acc
  | c :: rest, acc =>
    match hexDigit? c with
    | some d => readTable (some (number.getD 0 * 16 + d)) open? rest acc
    | none =>
      if c = '-' then readTable none number rest acc
      else
        match number, open? with
        | some n, some a => readTable none none rest ((a, n) :: acc)
        | some n, none => readTable none none rest ((n, n) :: acc)
        | none, _ => readTable none none rest acc

/-- Reads a table: hexadecimal ranges `a-b` and single numbers `a`. -/
def ofText (s : String) : CodePoints := .ofRanges (readTable none none s.toList []).reverse

end CodePoints

end Switchboard
