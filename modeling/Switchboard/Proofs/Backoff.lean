import Mathlib.Data.Nat.Find
import Mathlib.Tactic
import Switchboard.Backoff.Words
import Switchboard.Settings.Basic

/-!
# Delays without rounding

The delay of an attempt is computed in words that stop at their greatest value. Since the cap is a
word itself, stopping there is never seen: before jitter the delay is the least of the cap and of
the base doubled so many times, as natural numbers (`Backoff.plateau_eq`). Only the bound of the
jitter is cut off at the width of a word, and that makes it less (`Backoff.jitterBound_le`).

The words are followed through `Backoff.wait?`, which is total (`Backoff.exists_wait?`) and gives
just the delays of the jitters that can be drawn (`Backoff.wait?_eq_some_iff`). A polling backoff
climbs while its delay stays below the cap, so its counter stops at the first attempt that reaches
the cap (`PollBackoff.Climbing.poll?`).

Main statements: `Backoff.waits_exactly` and `PollBackoff.polls_within`.
-/

namespace Switchboard

/-! ### Words -/

namespace Word

theorem lt_size_iff {n : ℕ} : n < UInt64.size ↔ n ≤ Backoff.maxWord := by
  rw [Backoff.maxWord]
  have : 0 < UInt64.size := by decide
  omega

theorem toNat_maxWord : (UInt64.ofNat Backoff.maxWord).toNat = Backoff.maxWord := by decide

theorem toNat_saturatingMul (a b : UInt64) :
    (saturatingMul a b).toNat = min (a.toNat * b.toNat) Backoff.maxWord := by
  unfold saturatingMul
  split
  next h => rw [UInt64.toNat_mul, Nat.mod_eq_of_lt h, min_eq_left (lt_size_iff.mp h)]
  next h => rw [toNat_maxWord, min_eq_right (not_le.mp (mt lt_size_iff.mpr h)).le]

/-- Stopping on the way is not seen in the end. -/
theorem toNat_saturatingPow (a : UInt64) (n : ℕ) :
    (saturatingPow a n).toNat = min (a.toNat ^ n) Backoff.maxWord := by
  induction n with
  | zero => rfl
  | succ n ih =>
    rw [saturatingPow, toNat_saturatingMul, ih, pow_succ]
    rcases le_total (a.toNat ^ n) Backoff.maxWord with h | h
    · rw [min_eq_left h]
    · rw [min_eq_right h]
      rcases Nat.eq_zero_or_pos a.toNat with ha | ha
      · simp [ha]
      · rw [min_eq_right (Nat.le_mul_of_pos_right _ ha),
          min_eq_right (h.trans (Nat.le_mul_of_pos_right _ ha))]

theorem sub?_of_le {a b : UInt32} (h : b ≤ a) :
    ∃ c, sub? a b = some c ∧ c.toNat = a.toNat - b.toNat :=
  ⟨a - b, if_pos h, UInt32.toNat_sub_of_le a b h⟩

end Word

namespace Backoff

variable {attempt : UInt32} {base cap draw : UInt64} {jitter : ℕ} {d : Duration}

/-! ### Before jitter -/

theorem factor_eq (attempt : UInt32) :
    factor attempt = min (2 ^ (attempt.toNat - 1)) maxWord := by
  change min (2 ^ min (attempt.toNat - 1) 64) maxWord = _
  rcases le_total (attempt.toNat - 1) 64 with h | h
  · rw [min_eq_left h]
  · have hword : maxWord ≤ 2 ^ 64 := by decide
    rw [min_eq_right h, min_eq_right hword,
      min_eq_right (hword.trans (Nat.pow_le_pow_right Nat.zero_lt_two h))]

/-- **Stopping at the greatest word is not seen**, since the cap is a word: the base is doubled as
often as the attempt says, and capped. -/
theorem plateau_eq (h : attempt ≠ 0) (base cap : UInt64) :
    plateau attempt base cap = min (base.toNat * 2 ^ (attempt.toNat - 1)) cap.toNat := by
  have hcap : cap.toNat ≤ maxWord := Word.lt_size_iff.mp cap.toNat_lt_size
  rw [plateau, if_neg h, saturate, factor_eq]
  generalize 2 ^ (attempt.toNat - 1) = power
  rcases le_total power maxWord with hpower | hpower
  · rw [min_eq_left hpower, min_assoc, min_eq_right hcap]
  · rw [min_eq_right hpower, min_assoc, min_eq_right hcap]
    rcases Nat.eq_zero_or_pos base.toNat with hbase | hbase
    · simp [hbase]
    · have hmul := Nat.le_mul_of_pos_left maxWord hbase
      rw [min_eq_right (hcap.trans hmul),
        min_eq_right (hcap.trans (hmul.trans (Nat.mul_le_mul_left _ hpower)))]

theorem plateau_zero (base cap : UInt64) : plateau 0 base cap = 0 := if_pos rfl

/-- A later attempt, a greater base and a greater cap do not make the delay less. -/
theorem plateau_mono {attempt' : UInt32} {base' cap' : UInt64} (hattempt : attempt ≤ attempt')
    (hbase : base ≤ base') (hcap : cap ≤ cap') :
    plateau attempt base cap ≤ plateau attempt' base' cap' := by
  by_cases h : attempt = 0
  · rw [h, plateau_zero]
    exact Nat.zero_le _
  · have hle : attempt.toNat ≤ attempt'.toNat := UInt32.le_iff_toNat_le.mp hattempt
    have h' : attempt' ≠ 0 := by
      rintro rfl
      exact h (UInt32.toNat_inj.mp (Nat.le_zero.mp hle))
    rw [plateau_eq h, plateau_eq h']
    refine min_le_min (Nat.mul_le_mul (UInt64.le_iff_toNat_le.mp hbase) ?_)
      (UInt64.le_iff_toNat_le.mp hcap)
    exact Nat.pow_le_pow_right Nat.zero_lt_two (Nat.sub_le_sub_right hle 1)

/-! ### Jitter -/

/-- The jitter is a tenth of the delay at most. -/
theorem jitterBound_le (ms : ℕ) : jitterBound ms ≤ ms * 100 := by
  have hnarrow : narrow (ms * 1000) ≤ ms * 1000 := Nat.mod_le _ _
  unfold jitterBound
  omega

/-- It is bounded by just a tenth as long as the microseconds of the delay are a word. -/
theorem jitterBound_eq_iff (ms : ℕ) : jitterBound ms = ms * 100 ↔ ms * 1000 < UInt64.size := by
  have hsize : 10 ≤ UInt64.size := by decide
  have hdiv := Nat.mod_add_div (ms * 1000) UInt64.size
  unfold jitterBound narrow
  constructor
  · intro h
    by_contra hge
    have hquot : UInt64.size * 1 ≤ UInt64.size * (ms * 1000 / UInt64.size) :=
      Nat.mul_le_mul_left _ ((Nat.one_le_div_iff (by decide)).mpr (not_lt.mp hge))
    omega
  · intro h
    rw [Nat.mod_eq_of_lt h]
    omega

theorem jitter_le (h : IsJitter attempt base cap jitter) :
    jitter ≤ plateau attempt base cap * 100 := by
  rcases h with h | rfl
  · exact h.le.trans (jitterBound_le _)
  · exact Nat.zero_le _

/-! ### In words -/

/-- The delay before jitter, in words. -/
theorem toNat_capped (h : attempt ≠ 0) {doublings : UInt32}
    (hdoublings : doublings.toNat = attempt.toNat - 1) :
    (capped doublings base cap).toNat = plateau attempt base cap := by
  rw [capped, UInt64.toNat_min, Word.toNat_saturatingMul, Word.toNat_saturatingPow, hdoublings,
    plateau, if_neg h, factor_eq]
  rfl

/-- The bound of the jitter, in words. -/
theorem toNat_range (ms : UInt64) :
    (UInt64.ofNat (Duration.ofMillis ms).micros / 10).toNat = jitterBound ms.toNat := by
  have hmicros : (Duration.ofMillis ms).micros = ms.toNat * 1000 := by
    change ms.toNat * 1000000 / 1000 = _
    omega
  rw [UInt64.toNat_div, hmicros, UInt64.toNat_ofNat']
  rfl

/-- A number is drawn only from a range that is not empty; a word of the range is drawn as it
is. -/
theorem exists_jitter? (ms draw : UInt64) : ∃ jitter, jitter? (.ofMillis ms) draw = some jitter ∧
    (jitter.toNat < jitterBound ms.toNat ∨ jitter.toNat = 0) ∧
      (draw.toNat < jitterBound ms.toNat ∨ draw.toNat = 0 → jitter = draw) := by
  have hrange := toNat_range ms
  rw [jitter?]
  generalize UInt64.ofNat (Duration.ofMillis ms).micros / 10 = range at hrange
  generalize jitterBound ms.toNat = bound at hrange
  subst hrange
  split
  next hpos =>
    have hpos : 0 < range.toNat := UInt64.lt_iff_toNat_lt.mp hpos
    have hne : range ≠ 0 := by
      rintro rfl
      exact absurd hpos (by decide)
    refine ⟨draw % range, if_neg hne, .inl ?_, fun hdraw => ?_⟩
    · rw [UInt64.toNat_mod]
      exact Nat.mod_lt _ hpos
    · refine UInt64.toNat_inj.mp ?_
      rw [UInt64.toNat_mod]
      exact Nat.mod_eq_of_lt (by omega)
  next hzero =>
    have hzero : ¬ 0 < range.toNat := fun h => hzero (UInt64.lt_iff_toNat_lt.mpr h)
    exact ⟨0, rfl, .inr rfl, fun hdraw => UInt64.toNat_inj.mp (hdraw.resolve_left (by omega)).symm⟩

/-- The capped delay and its jitter have a sum. -/
theorem add?_jitter {ms jitter : UInt64} (h : jitter.toNat ≤ ms.toNat * 100) :
    ∃ d, (Duration.ofMillis ms).add? (.ofMicros jitter) = some d ∧
      d.nanos = 1000 * (ms.toNat * 1000 + jitter.toNat) := by
  have hms := ms.toNat_lt_size
  have hfits : (Duration.ofMillis ms).nanos + (Duration.ofMicros jitter).nanos <
      UInt64.size * 1000000000 := by
    change ms.toNat * 1000000 + jitter.toNat * 1000 < _
    omega
  refine ⟨_, dif_pos hfits, ?_⟩
  change ms.toNat * 1000000 + jitter.toNat * 1000 = _
  omega

/-- **The delay is always computed**, and it is that of a jitter that can be drawn; every such
jitter is drawn as itself. -/
theorem exists_wait? (attempt : UInt32) (base cap draw : UInt64) :
    ∃ d jitter, wait? attempt base cap draw = some d ∧ IsJitter attempt base cap jitter ∧
      d.nanos = 1000 * delay attempt base cap jitter ∧
      (IsJitter attempt base cap draw.toNat → jitter = draw.toNat) := by
  by_cases hzero : attempt = 0
  · subst hzero
    have hplateau := plateau_zero base cap
    refine ⟨.ofMillis 0, 0, if_pos rfl, .inr rfl, ?_, fun hdraw => ?_⟩
    · rw [delay, hplateau]
      rfl
    · rw [IsJitter, hplateau] at hdraw
      exact (hdraw.resolve_left (Nat.not_lt_zero _)).symm
  · have hpos : 1 ≤ attempt := by
      rw [UInt32.le_iff_toNat_le]
      exact Nat.one_le_iff_ne_zero.mpr fun h => hzero (UInt32.toNat_inj.mp h)
    obtain ⟨doublings, hsub, hdoublings⟩ := Word.sub?_of_le hpos
    obtain ⟨jitter, hdrawn, hjitter, hself⟩ := exists_jitter? (capped doublings base cap) draw
    rw [toNat_capped hzero hdoublings] at hjitter hself
    have hle : jitter.toNat ≤ (capped doublings base cap).toNat * 100 := by
      rw [toNat_capped hzero hdoublings]
      exact jitter_le hjitter
    obtain ⟨d, hadd, hnanos⟩ := add?_jitter hle
    rw [toNat_capped hzero hdoublings] at hnanos
    refine ⟨d, jitter.toNat, (if_neg hzero).trans ?_, hjitter, hnanos,
      fun hdraw => congrArg _ (hself hdraw)⟩
    exact Option.bind_eq_some_iff.mpr
      ⟨doublings, hsub, Option.bind_eq_some_iff.mpr ⟨jitter, hdrawn, hadd⟩⟩

/-- What is waited are just the delays of the jitters that can be drawn. -/
theorem wait?_eq_some_iff : (∃ draw, wait? attempt base cap draw = some d) ↔
    ∃ jitter, IsJitter attempt base cap jitter ∧
      d.nanos = 1000 * delay attempt base cap jitter := by
  constructor
  · rintro ⟨draw, hwait⟩
    obtain ⟨d', jitter, hwait', hjitter, hnanos, -⟩ := exists_wait? attempt base cap draw
    obtain rfl := Option.some.inj (hwait.symm.trans hwait')
    exact ⟨jitter, hjitter, hnanos⟩
  · rintro ⟨jitter, hjitter, hnanos⟩
    have hsize : jitter < UInt64.size := by
      rcases hjitter with h | rfl
      · exact h.trans ((Nat.div_le_self _ _).trans_lt (Nat.mod_lt _ (by decide)))
      · decide
    have hword : (UInt64.ofNat jitter).toNat = jitter := UInt64.toNat_ofNat_of_lt' hsize
    obtain ⟨d', jitter', hwait, -, hnanos', hself⟩ :=
      exists_wait? attempt base cap (UInt64.ofNat jitter)
    rw [hword] at hself
    obtain rfl := hself hjitter
    refine ⟨_, hwait.trans (congrArg some ?_)⟩
    obtain ⟨nanos, _⟩ := d
    obtain ⟨nanos', _⟩ := d'
    simp only [Duration.mk.injEq]
    exact hnanos'.trans hnanos.symm

theorem le_delay (attempt : UInt32) (base cap : UInt64) (jitter : ℕ) :
    plateau attempt base cap * 1000 ≤ delay attempt base cap jitter := Nat.le_add_right _ _

theorem delay_le (h : IsJitter attempt base cap jitter) :
    delay attempt base cap jitter ≤ plateau attempt base cap * 1000 + plateau attempt base cap * 100 :=
  Nat.add_le_add_left (jitter_le h) _

/-- **The delay of an attempt.** Attempt 0 waits no time. The delay of any other is computed whatever
is drawn, and is at least the base doubled so many times and capped, as a natural number of
milliseconds, and at most a tenth more. What can be waited are just the sums of that number and of a
jitter below its bound, which is a tenth of it, or less where its microseconds are no word. A later
attempt, a greater base and a greater cap do not make the number less. -/
theorem waits_exactly (attempt : UInt32) (base cap : UInt64) :
    (∀ draw, wait? 0 base cap draw = some (.ofMillis 0)) ∧
    (attempt ≠ 0 →
      let ms := min (base.toNat * 2 ^ (attempt.toNat - 1)) cap.toNat
      plateau attempt base cap = ms ∧
      (∀ draw, ∃ d, wait? attempt base cap draw = some d ∧
        ms * 1000000 ≤ d.nanos ∧ d.nanos ≤ ms * 1000000 + ms * 100000) ∧
      (∀ d, (∃ draw, wait? attempt base cap draw = some d) ↔
        ∃ jitter, (jitter < jitterBound ms ∨ jitter = 0) ∧ d.nanos = ms * 1000000 + jitter * 1000) ∧
      jitterBound ms ≤ ms * 100 ∧ (jitterBound ms = ms * 100 ↔ ms * 1000 < UInt64.size)) ∧
    ∀ attempt' base' cap', attempt ≤ attempt' → base ≤ base' → cap ≤ cap' →
      plateau attempt base cap ≤ plateau attempt' base' cap' := by
  refine ⟨fun _ => if_pos rfl, fun hattempt => ?_, fun _ _ _ => plateau_mono⟩
  intro ms
  have hms : plateau attempt base cap = ms := plateau_eq hattempt base cap
  clear_value ms
  refine ⟨hms, fun draw => ?_, fun d => ?_, jitterBound_le ms, jitterBound_eq_iff ms⟩
  · obtain ⟨d, jitter, hwait, hjitter, hnanos, -⟩ := exists_wait? attempt base cap draw
    have hle := le_delay attempt base cap jitter
    have hge := delay_le hjitter
    rw [hms] at hle hge
    exact ⟨d, hwait, by linarith, by linarith⟩
  · simp only [wait?_eq_some_iff, IsJitter, delay, hms]
    refine exists_congr fun jitter => and_congr_right fun _ => ?_
    omega

/-- The greatest cap is waited for in full, and an attempt later no less; its microseconds are no
word, so that the jitter stays below a tenth. -/
theorem waits_exactly_sample :
    (∃ d, wait? 65 1 18446744073709551615 0 = some d ∧
      18446744073709551615 * 1000000 ≤ d.nanos) ∧
      jitterBound 18446744073709551615 < 18446744073709551615 * 100 ∧
      plateau 65 1 18446744073709551615 ≤ plateau 66 1 18446744073709551615 := by
  obtain ⟨-, hwaits, hmono⟩ := waits_exactly 65 1 18446744073709551615
  obtain ⟨-, hdelay, -, hle, hcut⟩ := hwaits (by decide)
  have hms : min ((1 : UInt64).toNat * 2 ^ ((65 : UInt32).toNat - 1))
      (18446744073709551615 : UInt64).toNat = 18446744073709551615 := by decide
  rw [hms] at hle hcut
  obtain ⟨d, hd, hge, -⟩ := hdelay 0
  rw [hms] at hge
  exact ⟨⟨d, hd, hge⟩, lt_of_le_of_ne hle fun h => absurd (hcut.mp h) (by decide),
    hmono 66 1 18446744073709551615 (by decide) (UInt64.le_refl _) (UInt64.le_refl _)⟩

end Backoff

/-! ### Polling -/

namespace PollBackoff

variable {p : PollBackoff} {top : ℕ}

/-- At this attempt the delay reaches the cap. -/
def ReachesCap (p : PollBackoff) (n : ℕ) : Prop :=
  1 ≤ n ∧ p.max.toNat ≤ p.base.toNat * 2 ^ (n - 1)

theorem ReachesCap.mono {n m : ℕ} (h : p.ReachesCap n) (hle : n ≤ m) : p.ReachesCap m :=
  ⟨h.1.trans hle, h.2.trans (Nat.mul_le_mul_left _
    (Nat.pow_le_pow_right Nat.zero_lt_two (Nat.sub_le_sub_right hle 1)))⟩

/-- Sixty-four doublings reach every cap. -/
theorem reachesCap_of_pos (h : 1 ≤ p.base.toNat) : p.ReachesCap 65 :=
  ⟨by decide, p.max.toNat_lt.le.trans (Nat.le_mul_of_pos_left _ h)⟩

/-- The counter is between the first attempt and the first that reaches the cap. -/
structure Climbing (p : PollBackoff) (top : ℕ) : Prop where
  base_pos : 1 ≤ p.base.toNat
  base_le : p.base.toNat ≤ p.max.toNat
  isLeast : IsLeast {n | p.ReachesCap n} top
  one_le : 1 ≤ p.attempt.toNat
  le_top : p.attempt.toNat ≤ top

namespace Climbing

theorem top_le (h : p.Climbing top) : top ≤ 65 := h.isLeast.2 (reachesCap_of_pos h.base_pos)

theorem plateau_eq (h : p.Climbing top) : Backoff.plateau p.attempt p.base p.max =
    min (p.base.toNat * 2 ^ (p.attempt.toNat - 1)) p.max.toNat := by
  refine Backoff.plateau_eq ?_ p.base p.max
  intro hzero
  have hone := h.one_le
  rw [hzero] at hone
  exact absurd hone (by decide)

/-- Below the cap the counter is below its top. -/
theorem lt_top (h : p.Climbing top)
    (hbelow : Backoff.plateau p.attempt p.base p.max < p.max.toNat) : p.attempt.toNat < top := by
  by_contra hge
  have hreaches := h.isLeast.1.mono (not_lt.mp hge)
  rw [h.plateau_eq, min_eq_right hreaches.2] at hbelow
  exact lt_irrefl _ hbelow

/-- The delays of a climbing backoff. -/
theorem delay_mem (h : p.Climbing top) {jitter : ℕ}
    (hjitter : Backoff.IsJitter p.attempt p.base p.max jitter) :
    p.base.toNat * 1000 ≤ Backoff.delay p.attempt p.base p.max jitter ∧
      Backoff.delay p.attempt p.base p.max jitter ≤ p.max.toNat * 1000 + p.max.toNat * 100 := by
  have hle := Backoff.le_delay p.attempt p.base p.max jitter
  have hge := Backoff.delay_le hjitter
  have hbase : p.base.toNat ≤ Backoff.plateau p.attempt p.base p.max := by
    rw [h.plateau_eq]
    exact le_min (Nat.le_mul_of_pos_right _ (Nat.pow_pos Nat.zero_lt_two)) h.base_le
  have hcap : Backoff.plateau p.attempt p.base p.max ≤ p.max.toNat := by
    rw [h.plateau_eq]
    exact min_le_right _ _
  omega

/-- The same backoff with its counter elsewhere. -/
theorem at_attempt (h : p.Climbing top) {attempt : UInt32} (hone : 1 ≤ attempt.toNat)
    (htop : attempt.toNat ≤ top) : ({ p with attempt } : PollBackoff).Climbing top :=
  ⟨h.base_pos, h.base_le, h.isLeast, hone, htop⟩

/-- A step back does not leave the range, -/
theorem stepBack (h : p.Climbing top) (hone : 1 < p.attempt) :
    Word.sub? p.attempt 1 = some (p.attempt - 1) ∧
      ({ p with attempt := p.attempt - 1 } : PollBackoff).Climbing top := by
  have hlt : 1 < p.attempt.toNat := UInt32.lt_iff_toNat_lt.mp hone
  have hle : 1 ≤ p.attempt := UInt32.le_of_lt hone
  have hattempt : (p.attempt - 1).toNat = p.attempt.toNat - 1 := UInt32.toNat_sub_of_le _ _ hle
  have htop := h.le_top
  exact ⟨if_pos hle, h.at_attempt (by omega) (by omega)⟩

/-- nor does a step forward while the delay is below the cap. -/
theorem stepForward (h : p.Climbing top)
    (hbelow : Backoff.plateau p.attempt p.base p.max < p.max.toNat) :
    Word.add? p.attempt 1 = some (p.attempt + 1) ∧
      ({ p with attempt := p.attempt + 1 } : PollBackoff).Climbing top := by
  have hlt := h.lt_top hbelow
  have htop := h.top_le
  have hfits : p.attempt.toNat + 1 < UInt32.size := by
    have hsize : 66 < UInt32.size := by decide
    omega
  have hattempt : (p.attempt + 1).toNat = p.attempt.toNat + 1 := by
    rw [UInt32.toNat_add]
    exact Nat.mod_eq_of_lt hfits
  exact ⟨if_pos hfits, h.at_attempt (by omega) (by omega)⟩

/-- **One polling step** is computed whatever is drawn, and its counter does not leave its range. -/
theorem poll? (h : p.Climbing top) (draw : UInt64) (stepBack : Bool) :
    ∃ d jitter, p.poll? draw stepBack = some (d, (p.next jitter stepBack).2) ∧
      Backoff.IsJitter p.attempt p.base p.max jitter ∧
      d.nanos = 1000 * (p.next jitter stepBack).1 ∧ (p.next jitter stepBack).2.Climbing top := by
  obtain ⟨d, jitter, hwait, hjitter, hnanos, -⟩ :=
    Backoff.exists_wait? p.attempt p.base p.max draw
  have hle := Backoff.le_delay p.attempt p.base p.max jitter
  have hcompare : d.nanos < (Duration.ofMillis p.max).nanos ↔
      Backoff.delay p.attempt p.base p.max jitter < p.max.toNat * 1000 := by
    change d.nanos < p.max.toNat * 1000000 ↔ _
    omega
  have hpoll : p.poll? draw stepBack = some (d, p.advance
      (Backoff.delay p.attempt p.base p.max jitter) stepBack) ∧
      (p.advance (Backoff.delay p.attempt p.base p.max jitter) stepBack).Climbing top := by
    simp only [PollBackoff.poll?, hwait, Option.bind_eq_bind, Option.bind_some, PollBackoff.advance,
      hcompare]
    by_cases hback : (decide (p.attempt > 1) && stepBack) = true
    · obtain ⟨hsub, hclimbing⟩ := h.stepBack (of_decide_eq_true (Bool.and_eq_true_iff.mp hback).1)
      rw [if_pos hback, if_pos hback, hsub]
      exact ⟨rfl, hclimbing⟩
    · rw [if_neg hback, if_neg hback]
      by_cases hbelow : Backoff.delay p.attempt p.base p.max jitter < p.max.toNat * 1000
      · obtain ⟨hadd, hclimbing⟩ := h.stepForward (by omega)
        rw [if_pos hbelow, if_pos hbelow, hadd]
        exact ⟨rfl, hclimbing⟩
      · rw [if_neg hbelow, if_neg hbelow]
        exact ⟨rfl, h⟩
  exact ⟨d, jitter, hpoll.1, hjitter, hnanos, hpoll.2⟩

end Climbing

theorem base_advance (p : PollBackoff) (delay : ℕ) (stepBack : Bool) :
    (p.advance delay stepBack).base = p.base ∧ (p.advance delay stepBack).max = p.max := by
  unfold advance
  split
  · exact ⟨rfl, rfl⟩
  · split <;> exact ⟨rfl, rfl⟩

/-- Polling steps are all computed, and keep what a single one keeps. -/
theorem Climbing.polls? (h : p.Climbing top) (draws : List (UInt64 × Bool)) :
    ∃ delays q, p.polls? draws = some (delays, q) ∧ q.Climbing top ∧
      delays.length = draws.length ∧
      ∀ d ∈ delays, p.base.toNat * 1000000 ≤ d.nanos ∧
        d.nanos ≤ p.max.toNat * 1000000 + p.max.toNat * 100000 := by
  induction draws generalizing p with
  | nil => exact ⟨[], p, rfl, h, rfl, nofun⟩
  | cons draw draws ih =>
    obtain ⟨d, jitter, hpoll, hjitter, hnanos, hnext⟩ := h.poll? draw.1 draw.2
    obtain ⟨hbase, hcap⟩ := p.base_advance (Backoff.delay p.attempt p.base p.max jitter) draw.2
    obtain ⟨delays, q, hpolls, hq, hlength, hdelays⟩ := ih hnext
    rw [show (p.next jitter draw.2).2.base = p.base from hbase,
      show (p.next jitter draw.2).2.max = p.max from hcap] at hdelays
    refine ⟨d :: delays, q, ?_, hq, congrArg (· + 1) hlength, List.forall_mem_cons.mpr ⟨?_, hdelays⟩⟩
    · exact Option.bind_eq_some_iff.mpr ⟨_, hpoll, Option.bind_eq_some_iff.mpr ⟨_, hpolls, rfl⟩⟩
    · obtain ⟨hle, hge⟩ := h.delay_mem hjitter
      have hnanos : d.nanos = 1000 * Backoff.delay p.attempt p.base p.max jitter := hnanos
      exact ⟨by linarith, by linarith⟩

/-- A backoff starts at the first attempt. -/
theorem exists_climbing_start (base cap : UInt64) : ∃ top, (start base cap).Climbing top := by
  have hbase : 1 ≤ (start base cap).base.toNat := by
    change 1 ≤ (Max.max base 1).toNat
    rw [UInt64.toNat_max]
    exact le_max_right _ _
  have hreaches : ∃ n, (start base cap).ReachesCap n := ⟨65, reachesCap_of_pos hbase⟩
  classical
  refine ⟨Nat.find hreaches, hbase, ?_, Nat.isLeast_find hreaches, le_rfl,
    (Nat.find_spec hreaches).1⟩
  change (Max.max base 1).toNat ≤ (Max.max (Max.max cap base) 1).toNat
  simp only [UInt64.toNat_max]
  exact max_le_max_right _ (le_max_right _ _)

/-- **Polling stays within its bounds for ever**, whatever the settings are, valid or not. Every
polling step is computed, whatever is drawn; the counter stays between the first attempt and the
first that reaches the cap, which is not far, so that it cannot leave its word; and every delay is at
least the base, and at most a tenth above the cap. A base of zero counts as one millisecond, and the
cap is never below the base. -/
theorem polls_within (s : PollingSettings) :
    let base := Max.max s.baseMs.toNat 1
    let cap := Max.max (Max.max s.maxMs.toNat s.baseMs.toNat) 1
    ∃ top, IsLeast {n | 1 ≤ n ∧ cap ≤ base * 2 ^ (n - 1)} top ∧ top ≤ 65 ∧
      ∀ draws, ∃ delays p, (start s.baseMs s.maxMs).polls? draws = some (delays, p) ∧
        1 ≤ p.attempt.toNat ∧ p.attempt.toNat ≤ top ∧ delays.length = draws.length ∧
        ∀ d ∈ delays, base * 1000000 ≤ d.nanos ∧ d.nanos ≤ cap * 1000000 + cap * 100000 := by
  intro base cap
  obtain ⟨top, h⟩ := exists_climbing_start s.baseMs s.maxMs
  have hbase : (start s.baseMs s.maxMs).base.toNat = base := UInt64.toNat_max _ _
  have hcap : (start s.baseMs s.maxMs).max.toNat = cap := by
    change (Max.max (Max.max s.maxMs s.baseMs) 1).toNat = _
    simp only [UInt64.toNat_max]
    rfl
  have hleast := h.isLeast
  simp only [ReachesCap, hbase, hcap] at hleast
  refine ⟨top, hleast, h.top_le, fun draws => ?_⟩
  obtain ⟨delays, p, hpolls, hp, hlength, hdelays⟩ := h.polls? draws
  rw [hbase, hcap] at hdelays
  exact ⟨delays, p, hpolls, hp.one_le, hp.le_top, hlength, hdelays⟩

/-- Where the base exceeds the cap, every attempt is the first one. -/
theorem polls_within_sample :
    ∃ delays p, (start 500 20).polls? [(7, false), (9, true)] = some (delays, p) ∧
      p.attempt.toNat = 1 ∧ ∀ d ∈ delays, 500000000 ≤ d.nanos ∧ d.nanos ≤ 550000000 := by
  obtain ⟨top, hleast, -, hpolls⟩ := polls_within { baseMs := 500, maxMs := 20 }
  obtain ⟨delays, p, hdelays, hone, htop, -, hbounds⟩ := hpolls [(7, false), (9, true)]
  have hreaches : top ≤ 1 := hleast.2 ⟨le_rfl, by decide⟩
  exact ⟨delays, p, hdelays, le_antisymm (htop.trans hreaches) hone, hbounds⟩

end PollBackoff

end Switchboard
