import Mathlib.Tactic
import Switchboard.Regex.Atom

/-!
# Members of sets of code points

What the set operations of `CodePoints` hold: every operation works range by range, and a code point
is in what comes out as the name of the operation says (`contains_union`, `contains_compl`,
`contains_inter`). A complement ends at the greatest code point, so membership in a complement is
only told up to there; a character is never beyond (`toNat_le_last`).

Sets that are closed under case are larger (`subset_close`, `subset_closeAscii`).
-/

namespace Switchboard

namespace CodePoints

variable {s s' t t' : CodePoints} {c : ℕ}

/-! ### Ranges -/

/-- Some range of a list has a code point. -/
def Covers (rs : List (ℕ × ℕ)) (c : ℕ) : Prop := ∃ r ∈ rs, r.1 ≤ c ∧ c ≤ r.2

theorem contains_iff : s.contains c = true ↔ Covers s.ranges c := by
  simp [contains, Covers]

@[simp] theorem covers_nil : ¬ Covers [] c := by simp [Covers]

@[simp] theorem covers_cons {r : ℕ × ℕ} {rs : List (ℕ × ℕ)} :
    Covers (r :: rs) c ↔ (r.1 ≤ c ∧ c ≤ r.2) ∨ Covers rs c := by
  simp [Covers]

theorem Apart.le_of_covers {start : ℕ} {rs : List (ℕ × ℕ)} (h : Apart start rs)
    (hc : Covers rs c) : start ≤ c := by
  induction rs generalizing start with
  | nil => exact absurd hc covers_nil
  | cons r rest ih =>
    obtain ⟨hstart, hr, hrest⟩ := h
    obtain hc | hc := covers_cons.mp hc
    · exact hstart.trans hc.1
    · have := ih hrest hc
      omega

theorem covers_push {r : ℕ × ℕ} {rs : List (ℕ × ℕ)} (h : Apart r.1 rs) :
    Covers (push r rs) c ↔ (r.1 ≤ c ∧ c ≤ r.2) ∨ Covers rs c := by
  induction rs generalizing r with
  | nil => simp [push]
  | cons q rest ih =>
    obtain ⟨hstart, hq, hrest⟩ := h
    simp only [push]
    split
    · rw [ih (hrest.mono (by dsimp only; omega)), covers_cons, ← or_assoc]
      refine or_congr_left ?_
      dsimp only
      omega
    · exact covers_cons

theorem Rising.covers_joined {start : ℕ} {rs : List (ℕ × ℕ)} (h : Rising start rs) :
    Covers (joined rs) c ↔ Covers rs c := by
  induction rs generalizing start with
  | nil => rfl
  | cons r rest ih => rw [joined, covers_push h.2.2.apart_joined, covers_cons, ih h.2.2]

theorem covers_interleave {as bs : List (ℕ × ℕ)} :
    Covers (interleave as bs) c ↔ Covers as c ∨ Covers bs c := by
  induction as, bs using interleave.induct with
  | case1 bs => simp [interleave]
  | case2 as has =>
    cases as with
    | nil => exact absurd rfl has
    | cons => simp [interleave]
  | case3 a as b bs hab ih =>
    rw [interleave, if_pos hab, covers_cons, ih, covers_cons (r := a)]
    exact or_assoc.symm
  | case4 a as b bs hab ih =>
    rw [interleave, if_neg hab, covers_cons, ih, covers_cons (r := b)]
    exact or_left_comm

/-- The gaps are what the ranges leave out. -/
theorem Apart.covers_gaps (hc : c ≤ last) {start : ℕ} {rs : List (ℕ × ℕ)} (h : Apart start rs) :
    Covers (gaps start rs) c ↔ start ≤ c ∧ ¬ Covers rs c := by
  induction rs generalizing start with
  | nil =>
    simp only [gaps]
    split <;> simp <;> omega
  | cons r rest ih =>
    obtain ⟨hstart, hr, hrest⟩ := h
    have hbeyond (hin : Covers rest c) : r.2 + 2 ≤ c := hrest.le_of_covers hin
    have hgaps := ih (hrest.mono (Nat.le_succ (r.2 + 1)))
    simp only [gaps]
    split
    · rw [covers_cons, hgaps, covers_cons]
      dsimp only
      by_cases hin : Covers rest c
      · have := hbeyond hin
        simp only [hin, not_true, and_false, or_false, or_true, iff_false]
        omega
      · simp only [hin, not_false_iff, and_true, or_false]
        omega
    · rw [hgaps, covers_cons]
      by_cases hin : Covers rest c
      · simp [hin]
      · simp only [hin, not_false_iff, and_true, or_false]
        omega

/-! ### Sets -/

@[simp] theorem contains_union : (s.union t).contains c = (s.contains c || t.contains c) := by
  rw [Bool.eq_iff_iff, Bool.or_eq_true, contains_iff, contains_iff, contains_iff,
    ← covers_interleave]
  exact (rising_interleave s.apart.rising t.apart.rising).covers_joined

theorem contains_compl (hc : c ≤ last) : s.compl.contains c = !s.contains c := by
  rw [Bool.eq_iff_iff, Bool.not_eq_true', ← Bool.not_eq_true, contains_iff, contains_iff]
  exact (s.apart.covers_gaps hc).trans (and_iff_right (Nat.zero_le c))

theorem contains_inter (hc : c ≤ last) :
    (s.inter t).contains c = (s.contains c && t.contains c) := by
  rw [inter, contains_compl hc, contains_union, contains_compl hc, contains_compl hc,
    Bool.not_or, Bool.not_not, Bool.not_not]

/-- Every code point of the first set is in the second one. -/
instance : HasSubset CodePoints :=
  ⟨fun s t => ∀ c ≤ last, s.contains c = true → t.contains c = true⟩

theorem Subset.refl (s : CodePoints) : s ⊆ s := fun _ _ h => h

theorem Subset.trans {u : CodePoints} (h : s ⊆ t) (h' : t ⊆ u) : s ⊆ u :=
  fun c hc hs => h' c hc (h c hc hs)

theorem subset_union_left (s t : CodePoints) : s ⊆ s.union t := fun _ _ h => by simp [h]

theorem union_subset_union (h : s ⊆ s') (h' : t ⊆ t') : s.union t ⊆ s'.union t' := by
  intro c hc hin
  rw [contains_union, Bool.or_eq_true] at hin ⊢
  exact hin.imp (h c hc) (h' c hc)

theorem inter_subset_inter (h : s ⊆ s') (h' : t ⊆ t') : s.inter t ⊆ s'.inter t' := by
  intro c hc hin
  rw [contains_inter hc, Bool.and_eq_true] at hin ⊢
  exact hin.imp (h c hc) (h' c hc)

theorem toNat_le_last (c : Char) : c.toNat ≤ last := by
  have hvalid := c.valid
  simp only [Char.toNat, last, UInt32.isValidChar, Nat.isValidChar] at *
  omega

theorem has_of_subset (h : s ⊆ t) {c : Char} (hc : s.has c = true) : t.has c = true :=
  h _ (toNat_le_last c) hc

end CodePoints

open CodePoints

theorem Unicode.CaseFold.subset_close (s : CodePoints) : s ⊆ close s := subset_union_left _ _

namespace Regex.Flags

theorem subset_closeAscii (s : CodePoints) : s ⊆ closeAscii s := by
  intro c hc hin
  simp [closeAscii, unions, hin]

/-- Whatever the flags, a set is part of what it is folded to. -/
theorem subset_fold (f : Flags) (s : CodePoints) : s ⊆ f.fold s := by
  unfold fold
  split
  · split
    · exact Unicode.CaseFold.subset_close s
    · exact subset_closeAscii s
  · exact Subset.refl s

end Regex.Flags

end Switchboard
