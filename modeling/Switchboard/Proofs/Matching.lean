import Mathlib.Tactic
import Switchboard.Regex.Matcher

/-!
# The matcher is right

`Regex.finds` computes with sets of positions, which are numbers. `Tracks` says that such a
computation follows a relation between positions, and a located expression tracks what the
expression matches (`tracks_ends`), repetitions by `tracks_iterate` and `testBit_reach`: what is
reached in any number of steps is reached in few, for a match does not end before it starts.

Main statement: `finds_iff`. The matcher finds a match exactly where there is one.
-/

namespace Switchboard

namespace Regex

variable {text : List Char} {r : Regex} {i j k n : ℕ}

/-! ### Relations between positions -/

/-- Steps of a relation that only leads forward, up to a last position. -/
def Forward (last : ℕ) (R : ℕ → ℕ → Prop) : Prop := ∀ i j, R i j → i ≤ j ∧ j ≤ last

namespace Times

variable {R : ℕ → ℕ → Prop} {m last : ℕ}

theorem add (h : Times R m i j) (h' : Times R n j k) : Times R (m + n) i k := by
  induction h with
  | zero => rwa [Nat.zero_add]
  | succ step _ ih => rw [Nat.succ_add]; exact .succ step (ih h')

theorem split (h : Times R (m + n) i k) : ∃ j, Times R m i j ∧ Times R n j k := by
  induction m generalizing i with
  | zero => exact ⟨i, .zero i, by rwa [Nat.zero_add] at h⟩
  | succ m ih =>
    rw [Nat.succ_add] at h
    cases h with
    | succ step rest =>
      obtain ⟨j, first, second⟩ := ih rest
      exact ⟨j, .succ step first, second⟩

theorem le (hR : Forward last R) (h : Times R m i j) : i ≤ j := by
  induction h with
  | zero => exact le_rfl
  | succ step _ ih => exact (hR _ _ step).1.trans ih

/-- What every step keeps is kept by any number of steps. -/
theorem keeps {P : ℕ → Prop} (step : ∀ i j, P i → R i j → P j) (h : Times R m i j) (hi : P i) :
    P j := by
  induction h with
  | zero => exact hi
  | succ hstep _ ih => exact ih (step _ _ hi hstep)

theorem le_last (hR : Forward last R) (h : Times R m i j) (hi : i ≤ last) : j ≤ last :=
  h.keeps (P := (· ≤ last)) (fun i j _ step => (hR i j step).2) hi

/-- Steps that lead nowhere can be left out. -/
theorem shorten (hR : Forward last R) (h : Times R m i j) :
    ∃ m' ≤ j - i, Times R m' i j := by
  induction h with
  | zero i => exact ⟨0, Nat.zero_le _, .zero i⟩
  | @succ n i k j step rest ih =>
    obtain ⟨m', hm', rest'⟩ := ih
    have hk := rest.le hR
    obtain heq | hlt := (hR _ _ step).1.eq_or_lt
    · exact ⟨m', heq ▸ hm', heq ▸ rest'⟩
    · exact ⟨m' + 1, by omega, .succ step rest'⟩

end Times

/-! ### Computing with sets of positions -/

/-- No position of a set is beyond the last one. -/
def Below (last : ℕ) (s : Positions) : Prop := ∀ i, s.testBit i = true → i ≤ last

/-- A computation on sets of positions up to a last one follows a relation. -/
def Tracks (last : ℕ) (f : Positions → Positions) (R : ℕ → ℕ → Prop) : Prop :=
  ∀ s, Below last s → ∀ j, (f s).testBit j = true ↔ ∃ i, s.testBit i = true ∧ R i j

namespace Tracks

variable {last : ℕ} {f : Positions → Positions} {R : ℕ → ℕ → Prop} {s fresh : Positions}

theorem below (h : Tracks last f R) (hR : Forward last R) (hs : Below last s) :
    Below last (f s) := fun j hj =>
  have ⟨i, _, step⟩ := (h s hs j).mp hj
  (hR i j step).2

theorem iterate_eq (f : Positions → Positions) (n : ℕ) (s : Positions) :
    iterate f n s = f^[n] s := by
  induction n generalizing s with
  | zero => rfl
  | succ n ih =>
    simp only [iterate, Function.iterate_succ_apply]
    split
    · rename_i hfix
      rw [hfix, Function.iterate_fixed hfix]
    · exact ih (f s)

theorem iterate (h : Tracks last f R) (hR : Forward last R) (n : ℕ) :
    Tracks last (iterate f n) (Times R n) := by
  intro s hs j
  rw [iterate_eq]
  induction n generalizing s with
  | zero =>
    constructor
    · exact fun hj => ⟨j, hj, .zero j⟩
    · rintro ⟨i, hi, hsteps⟩
      cases hsteps
      exact hi
  | succ n ih =>
    rw [Function.iterate_succ_apply, ih (f s) (h.below hR hs)]
    constructor
    · rintro ⟨k, hk, hsteps⟩
      obtain ⟨i, hi, hstep⟩ := (h s hs k).mp hk
      exact ⟨i, hi, .succ hstep hsteps⟩
    · rintro ⟨i, hi, hsteps⟩
      cases hsteps with
      | @succ _ _ k _ hstep hsteps => exact ⟨k, (h s hs k).mpr ⟨i, hi, hstep⟩, hsteps⟩

theorem testBit_new (t s : Positions) (i : ℕ) :
    (t ^^^ (t &&& s)).testBit i = (t.testBit i && !s.testBit i) := by
  rw [Nat.testBit_xor, Nat.testBit_and]
  cases t.testBit i <;> cases s.testBit i <;> rfl

/-- If only fresh positions lead out of a set, everything is found that is reached from it in so
many steps. -/
theorem testBit_reach (h : Tracks last f R) (hR : Forward last R) (n : ℕ) (hs : Below last s)
    (hfresh : ∀ i, fresh.testBit i = true → s.testBit i = true)
    (hold : ∀ i j, s.testBit i = true → fresh.testBit i = false → R i j → s.testBit j = true) :
    (reach f n s fresh).testBit j = true ↔
      ∃ i, s.testBit i = true ∧ ∃ m ≤ n, Times R m i j := by
  induction n generalizing s fresh with
  | zero =>
    constructor
    · exact fun hj => ⟨j, hj, 0, le_rfl, .zero j⟩
    · rintro ⟨i, hi, m, hm, hsteps⟩
      obtain rfl := Nat.le_zero.mp hm
      cases hsteps
      exact hi
  | succ n ih =>
    have hbelow : Below last fresh := fun i hi => hs i (hfresh i hi)
    have hnext (i k : ℕ) (hi : s.testBit i = true) (hstep : R i k) :
        s.testBit k = true ∨ (f fresh ^^^ (f fresh &&& s)).testBit k = true := by
      cases hk : s.testBit k with
      | true => exact .inl rfl
      | false =>
        cases hf : fresh.testBit i with
        | false => exact .inl (hk.symm.trans (hold i k hi hf hstep))
        | true =>
          have hfk : (f fresh).testBit k = true := (h fresh hbelow k).mpr ⟨i, hf, hstep⟩
          exact .inr (by rw [testBit_new, hfk, hk]; rfl)
    simp only [reach]
    split
    · -- nothing new: the set is closed under the relation
      rename_i hnew
      constructor
      · exact fun hj => ⟨j, hj, 0, Nat.zero_le _, .zero j⟩
      · rintro ⟨i, hi, m, -, hsteps⟩
        refine hsteps.keeps (P := fun i => s.testBit i = true) (fun i k hi hstep => ?_) hi
        refine (hnext i k hi hstep).resolve_right ?_
        rw [hnew, Nat.zero_testBit]
        exact Bool.false_ne_true
    · generalize hnew : f fresh ^^^ (f fresh &&& s) = new at hnext
      have hmem (i : ℕ) : (s ||| new).testBit i = true ↔
          s.testBit i = true ∨ new.testBit i = true := by
        rw [Nat.testBit_or, Bool.or_eq_true]
      have hcome (k : ℕ) (hk : new.testBit k = true) : ∃ i, s.testBit i = true ∧ R i k := by
        rw [← hnew, testBit_new, Bool.and_eq_true] at hk
        obtain ⟨i, hi, hstep⟩ := (h fresh hbelow k).mp hk.1
        exact ⟨i, hfresh i hi, hstep⟩
      have hs' : Below last (s ||| new) := by
        intro k hk
        obtain hk | hk := (hmem k).mp hk
        · exact hs k hk
        · obtain ⟨i, -, hstep⟩ := hcome k hk
          exact (hR i k hstep).2
      rw [ih hs' (fun i hi => (hmem i).mpr (.inr hi))
        (fun i k hi hi' hstep => (hmem k).mpr (hnext i k
          (((hmem i).mp hi).resolve_right (Bool.eq_false_iff.mp hi')) hstep))]
      constructor
      · rintro ⟨k, hk, m, hm, hsteps⟩
        obtain hk | hk := (hmem k).mp hk
        · exact ⟨k, hk, m, hm.trans (Nat.le_succ n), hsteps⟩
        · obtain ⟨i, hi, hstep⟩ := hcome k hk
          exact ⟨i, hi, m + 1, Nat.succ_le_succ hm, .succ hstep hsteps⟩
      · rintro ⟨i, hi, m, hm, hsteps⟩
        cases hsteps with
        | zero => exact ⟨j, (hmem j).mpr (.inl hi), 0, Nat.zero_le n, .zero j⟩
        | @succ m _ k _ hstep hsteps =>
          exact ⟨k, (hmem k).mpr (hnext i k hi hstep), m, Nat.le_of_succ_le_succ hm, hsteps⟩

end Tracks

/-! ### Locating -/

theorem testBit_mark (acc : Positions) (i j : ℕ) (b : Bool) :
    (if b then acc ||| 1 <<< i else acc).testBit j = true ↔
      acc.testBit j = true ∨ (j = i ∧ b = true) := by
  cases b with
  | false => simp
  | true =>
    rw [if_pos rfl, Nat.testBit_or, Nat.one_shiftLeft, Nat.testBit_two_pow, Bool.or_eq_true,
      decide_eq_true_eq, and_iff_left rfl, eq_comm (a := i)]

theorem testBit_positionsFrom (p : Char → Bool) (acc : Positions) (first : ℕ) :
    (positionsFrom p first acc text).testBit j = true ↔
      acc.testBit j = true ∨ ∃ k, j = first + k ∧ ∃ c, text[k]? = some c ∧ p c = true := by
  induction text generalizing first acc with
  | nil => simp [positionsFrom]
  | cons c rest ih =>
    rw [positionsFrom, ih, testBit_mark, or_assoc]
    refine or_congr_right ⟨?_, ?_⟩
    · rintro (⟨rfl, hp⟩ | ⟨k, rfl, hk⟩)
      · exact ⟨0, rfl, c, rfl, hp⟩
      · exact ⟨k + 1, by omega, hk⟩
    · rintro ⟨k, rfl, d, hd, hp⟩
      cases k with
      | zero =>
        obtain rfl := Option.some.inj hd
        exact .inl ⟨rfl, hp⟩
      | succ k => exact .inr ⟨k, by omega, d, hd, hp⟩

theorem testBit_looksFrom (l : Look) (before : Option Char) (acc : Positions) (first : ℕ) :
    (looksFrom l before first acc text).testBit j = true ↔
      acc.testBit j = true ∨ ∃ k, j = first + k ∧ k ≤ text.length ∧
        l.between (if k = 0 then before else text[k - 1]?) text[k]? = true := by
  induction text generalizing first acc before with
  | nil =>
    rw [looksFrom, testBit_mark]
    refine or_congr_right ⟨?_, ?_⟩
    · rintro ⟨rfl, hl⟩
      exact ⟨0, rfl, le_rfl, hl⟩
    · rintro ⟨k, rfl, hk, hl⟩
      obtain rfl := Nat.le_zero.mp hk
      exact ⟨rfl, hl⟩
  | cons c rest ih =>
    rw [looksFrom, ih, testBit_mark, or_assoc]
    -- a position of the rest has the same neighbours as the next one of the whole text
    have hneighbour (k : ℕ) : (if k = 0 then some c else rest[k - 1]?) = (c :: rest)[k]? := by
      cases k <;> rfl
    refine or_congr_right ⟨?_, ?_⟩
    · rintro (⟨rfl, hl⟩ | ⟨k, rfl, hk, hl⟩)
      · exact ⟨0, rfl, Nat.zero_le _, hl⟩
      · rw [hneighbour] at hl
        exact ⟨k + 1, by omega, Nat.succ_le_succ hk, hl⟩
    · rintro ⟨k, rfl, hk, hl⟩
      cases k with
      | zero => exact .inl ⟨rfl, hl⟩
      | succ k =>
        refine .inr ⟨k, by omega, Nat.le_of_succ_le_succ hk, ?_⟩
        rw [hneighbour]
        exact hl

/-! ### What a located expression matches -/

/-- The bounds of every repetition are in order. -/
def Bounded : Regex → Prop
  | .empty | .set _ | .look _ => True
  | .group r => r.Bounded
  | .cat a b | .alt a b => a.Bounded ∧ b.Bounded
  | .rep r least greatest => r.Bounded ∧ ∀ m, greatest = some m → least ≤ m

theorem forward_matches (text : List Char) (r : Regex) :
    Forward text.length (Matches text r) := by
  induction r with
  | empty => exact fun i j h => ⟨h.1.le, h.1 ▸ h.2⟩
  | set s =>
    rintro i j ⟨rfl, c, hc, -⟩
    exact ⟨Nat.le_succ i, (List.getElem?_eq_some_iff.mp hc).1⟩
  | look l => exact fun i j h => ⟨h.1.le, h.1 ▸ h.2.1⟩
  | group r ih => exact ih
  | cat a b iha ihb =>
    rintro i j ⟨k, ha, hb⟩
    exact ⟨(iha i k ha).1.trans (ihb k j hb).1, (ihb k j hb).2⟩
  | alt a b iha ihb => exact fun i j h => h.elim (iha i j) (ihb i j)
  | rep r least greatest ih =>
    rintro i j ⟨hi, n, -, hsteps⟩
    exact ⟨hsteps.le ih, hsteps.le_last ih hi⟩

theorem Matches.le_length {r : Regex} (h : Matches text r i j) : i ≤ text.length :=
  ((forward_matches text r i j h).1).trans (forward_matches text r i j h).2

/-- So many repetitions, and any number within bounds. -/
theorem tracks_rep {R : ℕ → ℕ → Prop} {last least : ℕ} {greatest : Option ℕ} {l : Located}
    (h : Tracks last (l.ends (last + 1)) R) (hR : Forward last R)
    (hbounds : ∀ m, greatest = some m → least ≤ m) :
    Tracks last ((Located.rep l least greatest).ends (last + 1))
      (fun i j => i ≤ last ∧ ∃ n, InBounds least greatest n ∧ Times R n i j) := by
  intro s hs j
  generalize hf : l.ends (last + 1) = f at h
  simp only [Located.ends, hf]
  have hleast := h.iterate hR least s hs
  have hbelow : Below last (iterate f least s) := fun k hk =>
    have ⟨i, hi, hsteps⟩ := (hleast k).mp hk
    hsteps.le_last hR (hs i hi)
  -- both bounds leave `n` optional repetitions after the required ones, for an `n` of their own
  have hreach (n : ℕ) : (reach f n (iterate f least s) (iterate f least s)).testBit j = true ↔
      ∃ i, s.testBit i = true ∧ ∃ m ≤ n, Times R (least + m) i j := by
    rw [h.testBit_reach hR n hbelow (fun _ => id) fun i k hi hi' _ =>
      absurd (hi.symm.trans hi') nofun]
    constructor
    · rintro ⟨k, hk, m, hm, hsteps⟩
      obtain ⟨i, hi, hfirst⟩ := (hleast k).mp hk
      exact ⟨i, hi, m, hm, hfirst.add hsteps⟩
    · rintro ⟨i, hi, m, hm, hsteps⟩
      obtain ⟨k, hfirst, hsteps⟩ := hsteps.split
      exact ⟨k, (hleast k).mpr ⟨i, hi, hfirst⟩, m, hm, hsteps⟩
  cases greatest with
  | none =>
    refine (hreach (last + 1)).trans ⟨?_, ?_⟩
    · rintro ⟨i, hi, m, -, hsteps⟩
      exact ⟨i, hi, hs i hi, least + m, ⟨Nat.le_add_right _ _, nofun⟩, hsteps⟩
    · rintro ⟨i, hi, hlast, n, ⟨hn, -⟩, hsteps⟩
      obtain ⟨m, rfl⟩ := Nat.exists_eq_add_of_le hn
      obtain ⟨k, hfirst, hsteps⟩ := hsteps.split
      -- without an upper bound the text is the bound: longer ways have shorter ones beside them
      obtain ⟨m', hm', hsteps'⟩ := hsteps.shorten hR
      have hj := hsteps.le_last hR (hfirst.le_last hR hlast)
      exact ⟨i, hi, m', by omega, hfirst.add hsteps'⟩
  | some greatest =>
    have hle := hbounds greatest rfl
    refine (hreach (greatest - least)).trans ⟨?_, ?_⟩
    · rintro ⟨i, hi, m, hm, hsteps⟩
      refine ⟨i, hi, hs i hi, least + m, ⟨Nat.le_add_right _ _, ?_⟩, hsteps⟩
      rintro _ ⟨⟩
      omega
    · rintro ⟨i, hi, -, n, ⟨hn, hn'⟩, hsteps⟩
      obtain ⟨m, rfl⟩ := Nat.exists_eq_add_of_le hn
      have := hn' greatest rfl
      exact ⟨i, hi, m, by omega, hsteps⟩

theorem tracks_ends (text : List Char) (hr : r.Bounded) :
    Tracks text.length ((locate text r).ends (text.length + 1)) (Matches text r) := by
  induction r with
  | empty =>
    intro s hs j
    exact ⟨fun hj => ⟨j, hj, rfl, hs j hj⟩, fun ⟨i, hi, h, _⟩ => h ▸ hi⟩
  | set set =>
    intro s hs j
    simp only [locate, Located.ends, Nat.testBit_shiftLeft, Nat.testBit_and, Bool.and_eq_true,
      decide_eq_true_eq, testBit_positionsFrom, Nat.zero_testBit, Bool.false_eq_true, false_or,
      Nat.zero_add, exists_eq_left', Matches]
    constructor
    · rintro ⟨hj, hs, hc⟩
      exact ⟨j - 1, hs, (Nat.sub_add_cancel hj).symm, hc⟩
    · rintro ⟨i, hi, rfl, hc⟩
      exact ⟨Nat.le_add_left 1 i, hi, hc⟩
  | look l =>
    intro s hs j
    simp only [locate, Located.ends, Nat.testBit_and, Bool.and_eq_true, testBit_looksFrom,
      Nat.zero_testBit, Bool.false_eq_true, false_or, Nat.zero_add, exists_eq_left', Matches]
    constructor
    · rintro ⟨hj, hle, hl⟩
      exact ⟨j, hj, rfl, hle, hl⟩
    · rintro ⟨i, hi, rfl, hle, hl⟩
      exact ⟨hi, hle, hl⟩
  | group r ih => exact ih hr
  | cat a b iha ihb =>
    intro s hs j
    have ha := iha hr.1 s hs
    have hbelow := (iha hr.1).below (forward_matches text a) hs
    refine (ihb hr.2 _ hbelow j).trans ⟨?_, ?_⟩
    · rintro ⟨k, hk, hb⟩
      obtain ⟨i, hi, ha⟩ := (ha k).mp hk
      exact ⟨i, hi, k, ha, hb⟩
    · rintro ⟨i, hi, k, ha', hb⟩
      exact ⟨k, (ha k).mpr ⟨i, hi, ha'⟩, hb⟩
  | alt a b iha ihb =>
    intro s hs j
    simp only [locate, Located.ends, Nat.testBit_or, Bool.or_eq_true, iha hr.1 s hs j,
      ihb hr.2 s hs j, Matches, and_or_left, exists_or]
  | rep r least greatest ih => exact tracks_rep (ih hr.1) (forward_matches text r) hr.2

/-- **The matcher is right.** It finds a match exactly where the expression matches some part of the
text. -/
theorem finds_iff (hr : r.Bounded) : r.finds text = true ↔ r.Finds text := by
  have hall (i : ℕ) : ((1 <<< (text.length + 1)) - 1).testBit i = true ↔ i ≤ text.length := by
    rw [Nat.one_shiftLeft, Nat.testBit_two_pow_sub_one, decide_eq_true_eq, Nat.lt_succ_iff]
  have hends := tracks_ends text hr _ fun i hi => (hall i).mp hi
  rw [finds, decide_eq_true_eq]
  constructor
  · intro hne
    obtain ⟨j, hj⟩ := Nat.exists_testBit_of_ne_zero hne
    obtain ⟨i, -, h⟩ := (hends j).mp hj
    exact ⟨i, j, h⟩
  · rintro ⟨i, j, h⟩ hzero
    have hj := (hends j).mpr ⟨i, (hall i).mpr h.le_length, h⟩
    rw [hzero, Nat.zero_testBit] at hj
    cases hj

end Regex

end Switchboard
