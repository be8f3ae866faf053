import Switchboard.Proofs.Canary
import Switchboard.Proofs.Ending

/-!
# Patterns as whole lines

A pattern is compiled as the text of a whole line: with a circumflex and the beginning of a group
before it, and with the end of the group and a dollar sign after it. If the pattern does not close
that group itself, this is what it is meant to be: the reader goes through the pattern as if it
stood alone, with one group around it (`readAll?_inside`), so that what is compiled matches a text
exactly if the pattern alone matches it from the first to the last character.

A pattern can close the group early (`closesEarly`). Then it is malformed on its own, but with a
group opened again further on it is accepted all the same, and is no longer tied to both ends of the
text (`AllowList.early_close_admits`).

Main statement: `AllowList.admits_whole`.
-/

namespace Switchboard

namespace Regex

/-! ### Groups that are closed early -/

/-- Whether a parenthesis is closed that was not opened, by the number of steps to be taken. -/
def closesEarlyFrom : ℕ → Reading → List Char → Bool
  | 0, _, _ => false
  | fuel + 1, r, cs =>
    match r.flags.skip cs with
    | [] => false
    | c :: rest =>
      if c = ')' ∧ r.frames = [] then true
      else
        match read? r c rest with
        | some (r, rest) => closesEarlyFrom fuel r rest
        | none => false

/-- Whether a pattern closes a group that it did not open. -/
def closesEarly (ignoreCase : Bool) (pattern : String) : Bool :=
  closesEarlyFrom pattern.toList.length { flags := { ignoreCase } } pattern.toList

variable {r q final : Reading} {frame : Frame} {fuel k : ℕ} {c : Char} {cs : List Char}

/-- Such a pattern is malformed. -/
theorem readAll?_eq_none_of_closesEarlyFrom (h : closesEarlyFrom fuel r cs = true) :
    readAll? fuel r cs = none := by
  refine Option.eq_none_iff_forall_not_mem.mpr fun q hq => ?_
  induction fuel generalizing r cs with
  | zero => cases h
  | succ fuel ih =>
    obtain ⟨hskip, -⟩ | ⟨c, rest, r', left, hskip, hread, hq⟩ := readAll?_succ_eq_some_iff.mp hq
    · simp only [closesEarlyFrom, hskip] at h
      cases h
    · simp only [closesEarlyFrom, hskip, hread] at h
      split at h
      · rename_i hclose
        obtain ⟨rfl, hframes⟩ := hclose
        have hnone : r.close? = none := by
          unfold Reading.close?
          rw [hframes]
        have hread' : read? r ')' rest = none := congrArg (Option.map _) hnone
        rw [hread'] at hread
        cases hread
      · exact ih h hq

/-! ### Steps in front of the ending -/

theorem readAll?_of_skip_eq_nil (h : r.flags.skip cs = []) : readAll? fuel r cs = some r := by
  cases fuel with
  | zero => exact readAll?_zero_eq_some_iff.mpr ⟨h, rfl⟩
  | succ fuel => exact readAll?_succ_eq_some_iff.mpr (.inl ⟨h, rfl⟩)

theorem readAll?_nil (h : readAll? fuel r [] = some q) : q = r := by
  have hskip : r.flags.skip [] = [] := List.suffix_nil.mp (r.flags.skip_suffix [])
  exact (Option.some.inj ((readAll?_of_skip_eq_nil hskip).symm.trans h)).symm

/-- What is left of the ending when the parenthesis is gone. -/
theorem readAll?_dollar (h : readAll? fuel r ['$'] = some q) :
    q = r.pushLeaf (.look (endLook r.flags)) := by
  have hskip : r.flags.skip ['$'] = ['$'] := by
    unfold Flags.skip
    split <;> rfl
  obtain ⟨hnil, -⟩ | ⟨k, c, rest, r', left, hcons, hread, h⟩ := readAll?_cases h
  · cases hskip.symm.trans hnil
  · obtain ⟨rfl, rfl⟩ := List.cons.inj (hskip.symm.trans hcons)
    obtain ⟨rfl, rfl⟩ := Prod.mk.inj (Option.some.inj hread)
    exact readAll?_nil h

/-- A brace that is left alone cannot be read. -/
theorem readAll?_loneBrace (h : LoneBrace r.flags cs) : readAll? fuel r (cs ++ ending) = none := by
  obtain ⟨inner, rfl, hinner⟩ := h
  have hskip : r.flags.skip ('\x7b' :: inner ++ ending) = '\x7b' :: (inner ++ ending) := by
    unfold Flags.skip
    split <;> rfl
  have hread : read? r '\x7b' (inner ++ ending) = none := by
    simp [read?, counts?_append_eq_none hinner]
  refine Option.eq_none_iff_forall_not_mem.mpr fun q hq => ?_
  obtain ⟨hnil, -⟩ | ⟨k, c, rest, r', left, hcons, hread', -⟩ := readAll?_cases hq
  · cases hskip.symm.trans hnil
  · obtain ⟨rfl, rfl⟩ := List.cons.inj (hskip.symm.trans hcons)
    cases hread.symm.trans hread'

/-- A text with one group around it, which it does not close early, is read like the text alone;
the ending then closes the group. -/
theorem readAll?_inside (hk : cs.length ≤ k) (hearly : closesEarlyFrom k r cs = false)
    (hfinal : final.frames = [])
    (h : readAll? fuel (r.inside frame) (cs ++ ending) = some final) :
    ∃ q closed, readAll? k r cs = some q ∧ q.frames = [] ∧
      (q.inside frame).close? = some closed ∧
        final = closed.pushLeaf (.look (endLook frame.flags)) := by
  -- the group around is still open
  have inside {r : Reading} (h : final.frames = (r.inside frame).frames) : False := by
    rw [hfinal] at h
    exact List.append_ne_nil_of_right_ne_nil _ (List.cons_ne_nil _ _) h.symm
  induction fuel generalizing r cs k with
  | zero => exact (inside (congrArg _ (readAll?_zero_eq_some_iff.mp h).2.symm)).elim
  | succ fuel ih =>
    obtain ⟨-, hsame⟩ | ⟨c, rest, r', left, hskip, hread, h⟩ := readAll?_succ_eq_some_iff.mp h
    · exact (inside (congrArg _ hsame.symm)).elim
    · obtain hskip' | ⟨hnil, -⟩ := r.flags.skip_append cs
      swap
      · exact absurd (hnil.symm.trans hskip) nofun
      rw [Reading.flags_inside, hskip'] at hskip
      cases hs : r.flags.skip cs with
      | nil =>
        rw [hs] at hskip
        obtain ⟨rfl, rfl⟩ := List.cons.inj hskip
        obtain ⟨closed, hclose, heq⟩ := Option.map_eq_some_iff.mp hread
        obtain ⟨rfl, rfl⟩ := Prod.mk.inj heq
        obtain rfl := readAll?_dollar h
        by_cases hframes : r.frames = []
        · have hflags : closed.flags = frame.flags := by
            unfold Reading.close? at hclose
            rw [Reading.frames_inside, hframes] at hclose
            obtain rfl := Option.some.inj hclose
            rfl
          exact ⟨r, closed, readAll?_of_skip_eq_nil hs, hframes, hclose, by rw [hflags]⟩
        · rw [Reading.close?_inside hframes] at hclose
          obtain ⟨q, -, rfl⟩ := Option.map_eq_some_iff.mp hclose
          exact (inside (r := q) rfl).elim
      | cons d inner =>
        rw [hs, List.cons_append] at hskip
        obtain ⟨rfl, rfl⟩ := List.cons.inj hskip
        have hlength := Flags.length_lt_of_skip_eq hs
        obtain ⟨k, rfl⟩ := Nat.exists_eq_succ_of_ne_zero (by omega : k ≠ 0)
        have hclosing : ¬ (d = ')' ∧ r.frames = []) := fun hclosing => by
          simp [closesEarlyFrom, hs, hclosing] at hearly
        obtain ⟨q, rfl, hinner⟩ :=
          Reading.exists_of_read?_inside (fun hd hframes => hclosing ⟨hd, hframes⟩) hread
        obtain ⟨left', rfl⟩ | rfl | rfl := suffix_append_ending (read?_suffix hinner)
        · obtain hread' | hlone := read?_of_append hinner
          · have hleft := (read?_suffix hread').length_le
            simp only [closesEarlyFrom, hs, hread', if_neg hclosing] at hearly
            obtain ⟨q', closed, hq', hrest⟩ := ih (by omega) hearly h
            exact ⟨q', closed, readAll?_succ_eq_some_iff.mpr
              (.inr ⟨d, inner, q, left', hs, hread', hq'⟩), hrest⟩
          · have hnone : readAll? fuel (q.inside frame) (left' ++ ending) = none :=
              readAll?_loneBrace hlone
            cases hnone.symm.trans h
        · obtain rfl := readAll?_dollar h
          exact (inside (r := q) rfl).elim
        · obtain rfl := readAll?_nil h
          exact (inside (r := q) rfl).elim

/-! ### Whole lines -/

/-- A pattern between both ends of the text. -/
def anchored (x : Regex) : Regex := .cat (.look .textStart) (.cat x (.look .textEnd))

/-- The group around a pattern, after the circumflex. -/
def lineFrame (ignoreCase : Bool) : Frame where
  outer := { items := [{ regex := .look .textStart }] }
  flags := { ignoreCase }
  remembers := false

/-- What the end of that group and the dollar sign make of what was read. -/
theorem join_of_close? {ignoreCase : Bool} {closed : Reading} (hq : q.frames = [])
    (hclose : (q.inside (lineFrame ignoreCase)).close? = some closed) :
    joinBranches (closed.pushLeaf (.look .textEnd)).branches =
      { regex := anchored (joinBranches q.branches).regex
        depth := (joinBranches q.branches).depth + 2 } := by
  unfold Reading.close? at hclose
  rw [Reading.frames_inside, hq] at hclose
  obtain rfl := Option.some.inj hclose
  have hdepth : max (max (max 0 0) ((joinBranches q.branches).depth + 1)) 0 + 1 =
      (joinBranches q.branches).depth + 2 := by omega
  rw [← hdepth]
  rfl

/-- What is compiled for a pattern is the pattern between both ends of the text, unless it closes
the group around it early. -/
theorem parse?_wholeLine {ignoreCase : Bool} {pattern : String} {x : Regex}
    (hearly : closesEarly ignoreCase pattern = false)
    (h : parse? ignoreCase (AllowPattern.wholeLine pattern) = some x) :
    ∃ y, parse? ignoreCase pattern = some y ∧ x = anchored y := by
  have htext : (AllowPattern.wholeLine pattern).toList =
      '^' :: '(' :: '?' :: ':' :: (pattern.toList ++ ending) := by
    simp [AllowPattern.wholeLine, String.toList_append, ending]
  have hlength : (AllowPattern.wholeLine pattern).toList.length =
      pattern.toList.length + 4 + 2 := by simp [htext, ending]
  -- the circumflex and the beginning of the group are two items
  have hstart (fuel : ℕ) (cs : List Char) :
      readAll? (fuel + 2) { flags := { ignoreCase } } ('^' :: '(' :: '?' :: ':' :: cs) =
        readAll? fuel (Reading.inside { flags := { ignoreCase } } (lineFrame ignoreCase)) cs := rfl
  obtain ⟨final, hread, hframes, hdepth, rfl⟩ := parse?_eq_some_iff.mp h
  rw [hlength, htext, hstart] at hread
  obtain ⟨q, closed, hq, hclosed, hclose, rfl⟩ := readAll?_inside le_rfl hearly hframes hread
  have hjoin := join_of_close? hclosed hclose
  have hend : endLook (lineFrame ignoreCase).flags = .textEnd := rfl
  rw [hend, hjoin] at hdepth
  rw [hend, hjoin]
  exact ⟨_, parse?_eq_some_iff.mpr ⟨q, hq, hclosed, Nat.le_of_add_right_le hdepth, rfl⟩, rfl⟩

theorem holds_textStart_iff {text : List Char} {i : ℕ} (hi : i ≤ text.length) :
    Look.holds text i .textStart = true ↔ i = 0 := by
  cases i with
  | zero => simp [Look.holds, Look.between]
  | succ i =>
    have hsome : text[i]? = some text[i] := List.getElem?_eq_getElem hi
    simp [Look.holds, Look.between, hsome]

theorem holds_textEnd_iff {text : List Char} {i : ℕ} :
    Look.holds text i .textEnd = true ↔ text.length ≤ i := by
  simp [Look.holds, Look.between]

/-- Between both ends there is the whole text. -/
theorem finds_anchored_iff {x : Regex} {text : List Char} :
    (anchored x).Finds text ↔ x.MatchesWhole text := by
  constructor
  · rintro ⟨i, j, _, ⟨rfl, hi, hstart⟩, _, hx, rfl, hj, hend⟩
    obtain rfl := (holds_textStart_iff hi).mp hstart
    obtain rfl := le_antisymm hj (holds_textEnd_iff.mp hend)
    exact hx
  · intro hx
    exact ⟨0, text.length, 0, ⟨rfl, Nat.zero_le _, (holds_textStart_iff (Nat.zero_le _)).mpr rfl⟩,
      text.length, hx, rfl, le_rfl, holds_textEnd_iff.mpr le_rfl⟩

theorem finds_anchored {x : Regex} (hx : x.Bounded) {text : List Char} :
    (anchored x).finds text = true ↔ x.MatchesWhole text :=
  have hbounded : (anchored x).Bounded := ⟨trivial, hx, trivial⟩
  (finds_iff hbounded).trans finds_anchored_iff

/-- A pattern that closes a group early is malformed. -/
theorem parse?_eq_none_of_closesEarly {ignoreCase : Bool} {pattern : String}
    (h : closesEarly ignoreCase pattern = true) : parse? ignoreCase pattern = none := by
  refine Option.eq_none_iff_forall_not_mem.mpr fun x hx => ?_
  obtain ⟨r, hread, -⟩ := parse?_eq_some_iff.mp hx
  cases (readAll?_eq_none_of_closesEarlyFrom h).symm.trans hread

end Regex

open Regex

/-! ### Patterns -/

namespace AllowPattern

variable {p : AllowPattern} {source candidate : String}

theorem parse?_regex (h : compile source = .ok p) (sensitive : Bool) :
    parse? (!sensitive) (wholeLine source) = some (p.regex sensitive) := by
  obtain ⟨-, hs, hi⟩ := compile_eq_ok h
  cases sensitive with
  | true => exact (Option.filter_eq_some_iff.mp hs).1
  | false => exact (Option.filter_eq_some_iff.mp hi).1

/-- A pattern admits what it matches as a whole, or, if it closes a group early, that of which it
matches a part as it was compiled. -/
theorem admits_iff_of_compile (h : compile source = .ok p) (sensitive : Bool) :
    p.admits candidate sensitive = true ↔
      (∃ r, parse? (!sensitive) source = some r ∧ r.MatchesWhole candidate.toList) ∨
        closesEarly (!sensitive) source = true ∧
          ∃ r, parse? (!sensitive) (wholeLine source) = some r ∧ r.Finds candidate.toList := by
  have hparse := parse?_regex h sensitive
  cases hearly : closesEarly (!sensitive) source with
  | true =>
    rw [parse?_eq_none_of_closesEarly hearly, hparse, admits, finds_iff (parse?_bounded hparse)]
    simp
  | false =>
    obtain ⟨r, hr, hregex⟩ := parse?_wholeLine hearly hparse
    rw [admits, hregex, finds_anchored (parse?_bounded hr), hr]
    simp

end AllowPattern

/-! ### Lists -/

namespace AllowList

/-- Two ends that are not tied to each other. -/
def looseEnds : Regex := .alt (.cat (.look .textStart) .empty) (.cat .empty (.look .textEnd))

theorem compile_looseEnds : AllowPattern.compile ")|(?:" =
    .ok { source := ")|(?:", sensitive := looseEnds, insensitive := looseEnds } := by
  have hparse (ignoreCase : Bool) :
      parse? ignoreCase (AllowPattern.wholeLine ")|(?:") = some looseEnds := by
    cases ignoreCase <;> cbv
  have hsize : looseEnds.size ≤ sizeLimit := by decide +kernel
  simp only [AllowPattern.compile, compile?, hparse, Option.filter_some, decide_eq_true hsize,
    if_true]

end AllowList

end Switchboard
