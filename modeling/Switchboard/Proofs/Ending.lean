import Switchboard.Proofs.Items

/-!
# Reading in front of an ending

A pattern is compiled with a parenthesis and a dollar sign after it. A part that is read in front of
that ending, and leaves it, is read in the same way without it; there is one lemma for each reader,
in the order of their definitions. A reader that counts its steps needs no more of them than there
are characters, so the lemmas hold for every number of steps that is large enough.

There is one exception. A brace with nothing but blanks after it is an unfinished name after a word
boundary, but in front of the ending it is left for a repetition (`LoneBrace`), which cannot be read
there either (`counts?_append_eq_none`).
-/

namespace Switchboard

namespace Regex

/-- What stands after every pattern. -/
def ending : List Char := [')', '$']

variable {f : Flags} {cs rest left : List Char} {k k' n : ℕ} {c : Char}

/-! ### Texts in front of the ending -/

theorem exists_append_of_suffix (h : rest ++ ending <:+ left) :
    ∃ left', left = left' ++ ending := by
  obtain ⟨before, rfl⟩ := h
  exact ⟨before ++ rest, (List.append_assoc _ _ _).symm⟩

/-- Something shorter does not leave the ending. -/
theorem not_suffix_of_length_lt (h : left.length < 2) : ¬ rest ++ ending <:+ left := by
  intro hsuffix
  have hle := hsuffix.length_le
  rw [List.length_append] at hle
  exact absurd (Nat.le_of_add_left_le hle) (not_le.mpr h)

/-- What is left of a text in front of the ending has the ending, or is a part of it. -/
theorem suffix_append_ending (h : left <:+ cs ++ ending) :
    (∃ left', left = left' ++ ending) ∨ left = ['$'] ∨ left = [] := by
  obtain hle | hlt := Nat.lt_or_ge left.length 2
  · have hshort : left <:+ ending :=
      List.suffix_of_suffix_length_le h (List.suffix_append cs ending) hle.le
    obtain rfl | hshort := List.suffix_cons_iff.mp hshort
    · exact absurd hle (by decide)
    · obtain rfl | hshort := List.suffix_cons_iff.mp hshort
      · exact .inr (.inl rfl)
      · exact .inr (.inr (List.suffix_nil.mp hshort))
  · obtain ⟨left', rfl⟩ := List.suffix_of_suffix_length_le (List.suffix_append cs ending) h hlt
    exact .inl ⟨left', rfl⟩

/-- What starts a text in front of the ending and leaves the ending is in that text. -/
theorem cons_of_append (h : cs ++ ending = c :: left) (hleft : rest ++ ending <:+ left) :
    ∃ left', left = left' ++ ending ∧ cs = c :: left' := by
  obtain ⟨left', rfl⟩ := exists_append_of_suffix hleft
  exact ⟨left', rfl, List.append_cancel_right (h.trans (List.cons_append ..).symm)⟩

/-! ### Blanks -/

theorem dropWhile_isBlank_append (cs : List Char) :
    (cs ++ ending).dropWhile Blank.isBlank = cs.dropWhile Blank.isBlank ++ ending := by
  rw [List.dropWhile_append]
  split
  · rename_i hnil
    rw [List.isEmpty_iff.mp hnil]
    rfl
  · rfl

namespace Flags

theorem dropBlanks_append (comment : Bool) (cs : List Char) :
    dropBlanks comment (cs ++ ending) = dropBlanks comment cs ++ ending ∨
      dropBlanks comment (cs ++ ending) = [] ∧ dropBlanks comment cs = [] := by
  induction cs generalizing comment with
  | nil => cases comment <;> decide
  | cons c cs ih =>
    simp only [List.cons_append, dropBlanks]
    split
    · exact ih _
    · split
      · exact ih _
      · split
        · exact ih _
        · exact .inl rfl

/-- Blanks are passed over in front of the ending, which is lost if it is in a comment. -/
theorem skip_append (f : Flags) (cs : List Char) :
    f.skip (cs ++ ending) = f.skip cs ++ ending ∨ f.skip (cs ++ ending) = [] ∧ f.skip cs = [] := by
  unfold skip
  split
  · exact dropBlanks_append false cs
  · exact .inl rfl

theorem skip_append_of_suffix (h : rest ++ ending <:+ f.skip (cs ++ ending)) :
    f.skip (cs ++ ending) = f.skip cs ++ ending := by
  refine (f.skip_append cs).resolve_right fun hnil => ?_
  rw [hnil.1] at h
  exact not_suffix_of_length_lt (by decide) h

theorem skip_of_append (h : f.skip (cs ++ ending) = rest ++ ending) : f.skip cs = rest := by
  have hrest : rest ++ ending <:+ f.skip (cs ++ ending) := by rw [h]
  have hskip := skip_append_of_suffix hrest
  exact List.append_cancel_right (hskip.symm.trans h)

theorem skip_cons_of_append (h : f.skip (cs ++ ending) = c :: left)
    (hleft : rest ++ ending <:+ left) :
    ∃ left', left = left' ++ ending ∧ f.skip cs = c :: left' := by
  have hskip : f.skip (cs ++ ending) = f.skip cs ++ ending :=
    skip_append_of_suffix (h ▸ suffix_cons hleft)
  exact cons_of_append (hskip.symm.trans h) hleft

theorem length_lt_of_skip_eq (h : f.skip cs = c :: rest) : rest.length < cs.length := by
  have hle := (f.skip_suffix cs).length_le
  rwa [h, List.length_cons] at hle

/-- The next character is the same, if it is neither a blank nor one of two marks. -/
theorem peek_append {d : Char} (hblank : Blank.isBlank d = false) (hd : d ≠ '#') (hd' : d ≠ ')') :
    f.peek (cs ++ ending) = some d ↔ f.peek cs = some d := by
  have hhead : (cs ++ ending).head? = some d ↔ cs.head? = some d := by
    cases cs with
    | nil => simp [ending, Ne.symm hd']
    | cons => rfl
  have hparen : ¬ (some ')' = some d) := fun h => hd' (Option.some.inj h).symm
  unfold peek
  split
  · rw [dropWhile_isBlank_append]
    -- the first character, if it is wanted, is no blank
    have hfirst : cs.head? = some d → ∃ rest, cs.dropWhile Blank.isBlank = d :: rest := by
      intro h
      obtain ⟨rest, rfl⟩ := List.head?_eq_some_iff.mp h
      exact ⟨rest, List.dropWhile_cons_of_neg (by simp [hblank])⟩
    cases hdrop : cs.dropWhile Blank.isBlank with
    | nil =>
      refine iff_of_false hparen fun h => ?_
      obtain ⟨rest, hrest⟩ := hfirst h
      rw [hdrop] at hrest
      cases hrest
    | cons c rest =>
      by_cases hc : c = '#'
      · subst hc
        simp only [List.cons_append, dropWhile_isBlank_append]
        cases rest.dropWhile Blank.isBlank with
        | nil =>
          refine iff_of_false hparen fun h => ?_
          obtain ⟨rest, hrest⟩ := hfirst h
          rw [hdrop] at hrest
          exact hd (List.cons.inj hrest).1.symm
        | cons => rfl
      · simp
  · exact hhead

end Flags

/-! ### Escapes -/

theorem hexDigits?_of_append {m : ℕ}
    (h : hexDigits? f k n (cs ++ ending) = some (m, rest ++ ending)) :
    hexDigits? f k n cs = some (m, rest) := by
  induction k generalizing n cs with
  | zero =>
    obtain ⟨rfl, heq⟩ := Prod.mk.inj (Option.some.inj h)
    obtain rfl := List.append_cancel_right heq
    rfl
  | succ k ih =>
    cases cs with
    | nil => cases h
    | cons c cs =>
      simp only [List.cons_append, hexDigits?] at h ⊢
      split at h
      · rw [Flags.skip_append_of_suffix (hexDigits?_suffix h)] at h
        exact ih h
      · cases h

/-- A text between braces goes on until its first brace. -/
theorem braced?_succ_eq_some_iff {name : List Char} : braced? f (k + 1) cs = some (name, rest) ↔
    (f.skip cs = '\x7d' :: rest ∧ name = []) ∨ ∃ c inner name', f.skip cs = c :: inner ∧
      c ≠ '\x7d' ∧ braced? f k inner = some (name', rest) ∧ c :: name' = name := by
  cases hskip : f.skip cs with
  | nil => simp [braced?, hskip]
  | cons c inner =>
    by_cases hc : c = '\x7d'
    · subst hc
      simp [braced?, hskip, eq_comm, and_comm]
    · simp [braced?, hskip, hc, Option.map_eq_some_iff]

theorem braced?_of_append {name : List Char} (hk : cs.length ≤ k')
    (h : braced? f k (cs ++ ending) = some (name, rest ++ ending)) :
    braced? f k' cs = some (name, rest) := by
  induction k generalizing cs name k' with
  | zero => cases h
  | succ k ih =>
    have hlength := (f.skip_suffix cs).length_le
    obtain ⟨hskip, rfl⟩ | ⟨c, inner, name', hskip, hc, hbraced, rfl⟩ :=
      braced?_succ_eq_some_iff.mp h
    · have hskip' : f.skip cs = '\x7d' :: rest := Flags.skip_of_append hskip
      rw [hskip', List.length_cons] at hlength
      obtain ⟨k', rfl⟩ := Nat.exists_eq_succ_of_ne_zero (by omega : k' ≠ 0)
      exact braced?_succ_eq_some_iff.mpr (.inl ⟨hskip', rfl⟩)
    · obtain ⟨inner', rfl, hskip'⟩ := Flags.skip_cons_of_append hskip (braced?_suffix hbraced)
      rw [hskip', List.length_cons] at hlength
      obtain ⟨k', rfl⟩ := Nat.exists_eq_succ_of_ne_zero (by omega : k' ≠ 0)
      exact braced?_succ_eq_some_iff.mpr
        (.inr ⟨c, inner', name', hskip', hc, ih (by omega) hbraced, rfl⟩)

theorem hex?_of_append {width : ℕ} {a : Atom}
    (h : hex? f width (cs ++ ending) = some (a, rest ++ ending)) :
    hex? f width cs = some (a, rest) := by
  unfold hex? at h ⊢
  split at h
  · rename_i inner hskip
    simp only [Option.bind_eq_bind, Option.bind_eq_some_iff] at h
    obtain ⟨⟨ds, left⟩, hbraced, n, hn, c, hc, heq⟩ := h
    obtain ⟨rfl, hleft⟩ := Prod.mk.inj (Option.some.inj heq)
    obtain ⟨left', rfl⟩ := exists_append_of_suffix (hleft ▸ f.skip_suffix left)
    obtain ⟨inner', rfl, hskip'⟩ := Flags.skip_cons_of_append hskip (braced?_suffix hbraced)
    simp [hskip', braced?_of_append le_rfl hbraced, hn, hc, Flags.skip_of_append hleft]
  · rename_i hne
    simp only [Option.bind_eq_bind, Option.bind_eq_some_iff] at h
    obtain ⟨⟨n, left⟩, hdigits, c, hc, heq⟩ := h
    obtain ⟨rfl, rfl⟩ := Prod.mk.inj (Option.some.inj heq)
    have hskip := Flags.skip_append_of_suffix (hexDigits?_suffix hdigits)
    rw [hskip] at hdigits hne
    split
    · rename_i hskip
      exact (hne _ (by rw [hskip]; rfl)).elim
    · simp [hexDigits?_of_append hdigits, hc]

theorem property?_of_append {negated : Bool} {a : Atom}
    (h : property? f negated (cs ++ ending) = some (a, rest ++ ending)) :
    property? f negated cs = some (a, rest) := by
  unfold property? at h ⊢
  split at h
  · cases h
  · rename_i inner hskip
    simp only [Option.bind_eq_bind, Option.bind_eq_some_iff] at h
    obtain ⟨⟨name, left⟩, hbraced, s, hs, heq⟩ := h
    obtain ⟨rfl, rfl⟩ := Prod.mk.inj (Option.some.inj heq)
    obtain ⟨inner', rfl, hskip'⟩ := Flags.skip_cons_of_append hskip (braced?_suffix hbraced)
    simp [hskip', braced?_of_append le_rfl hbraced, hs]
  · cases h
  · rename_i c left hbrace hslash hskip
    simp only [Option.bind_eq_bind, Option.bind_eq_some_iff] at h
    obtain ⟨s, hs, heq⟩ := h
    obtain ⟨rfl, hleft⟩ := Prod.mk.inj (Option.some.inj heq)
    obtain ⟨left', rfl, hskip'⟩ :=
      Flags.skip_cons_of_append hskip (hleft ▸ f.skip_suffix left)
    simp [hskip', hs, Flags.skip_of_append hleft]

theorem scan_of_append {p : Char → Bool} (hp : p ')' = false) {name : List Char}
    (hk : cs.length < k) (hk' : cs.length ≤ k')
    (h : scan p f k (cs ++ ending) = (name, rest ++ ending)) : scan p f k' cs = (name, rest) := by
  induction k generalizing cs name k' with
  | zero => exact absurd hk (Nat.not_lt_zero _)
  | succ k ih =>
    cases cs with
    | nil =>
      have hempty : scan p f (k + 1) ([] ++ ending) = ([], ending) := by
        simp [ending, scan, hp]
      obtain ⟨rfl, heq⟩ := Prod.mk.inj (hempty.symm.trans h)
      obtain rfl : [] = rest := List.append_cancel_right heq
      cases k' <;> rfl
    | cons c cs =>
      obtain ⟨k', rfl⟩ := Nat.exists_eq_succ_of_ne_zero (Nat.ne_zero_of_lt hk')
      have hlength := (f.skip_suffix cs).length_le
      rw [List.length_cons] at hk hk'
      simp only [List.cons_append, scan] at h ⊢
      split at h
      · rename_i hc
        obtain ⟨rfl, hrest⟩ := Prod.mk.inj h
        have hsuffix := scan_suffix (f := f) p k (f.skip (cs ++ ending))
        rw [hrest] at hsuffix
        rw [Flags.skip_append_of_suffix hsuffix] at hrest ⊢
        have hk'' : (f.skip cs).length ≤ k' := by omega
        have hscan := ih (by omega) hk'' (Prod.ext rfl hrest)
        rw [if_pos hc, hscan]
      · rename_i hc
        obtain ⟨rfl, hrest⟩ := Prod.mk.inj h
        have hcs : c :: cs = rest := List.append_cancel_right hrest
        rw [if_neg hc, hcs]

theorem boundaryName_of_append {name : List Char} (hk : cs.length < k) (hk' : cs.length ≤ k')
    (h : boundaryName f k (cs ++ ending) = (name, rest ++ ending)) :
    boundaryName f k' cs = (name, rest) := by
  rw [boundaryName_eq] at h ⊢
  exact scan_of_append rfl hk hk' h

/-- A brace with nothing but blanks after it. -/
def LoneBrace (f : Flags) (cs : List Char) : Prop :=
  ∃ inner, cs = '\x7b' :: inner ∧ f.skip inner = []

theorem boundary?_of_append {a : Atom}
    (h : boundary? f (cs ++ ending) = some (a, rest ++ ending)) :
    boundary? f cs = some (a, rest) ∨ (∃ l, a = .look l) ∧ LoneBrace f rest := by
  have plain {l : Look} (h : some (Atom.look l, cs ++ ending) = some (a, rest ++ ending)) :
      some (Atom.look l, cs) = some (a, rest) := by
    obtain ⟨rfl, heq⟩ := Prod.mk.inj (Option.some.inj h)
    rw [List.append_cancel_right heq]
  cases cs with
  | nil => exact .inl (plain h)
  | cons c cs =>
    by_cases hc : c = '\x7b'
    · subst hc
      simp only [List.cons_append, boundary?] at h ⊢
      obtain hskip | ⟨hskip, -⟩ := f.skip_append cs
      · rw [hskip] at h
        cases hs : f.skip cs with
        | nil =>
          rw [hs] at h
          obtain ⟨rfl, heq⟩ := Prod.mk.inj (Option.some.inj h)
          have hrest : '\x7b' :: cs = rest := List.append_cancel_right heq
          exact .inr ⟨⟨_, rfl⟩, cs, hrest.symm, hs⟩
        | cons d inner =>
          left
          rw [hs, List.cons_append] at h
          dsimp only at h ⊢
          split at h
          · rename_i hd
            rw [if_pos hd]
            split at h
            · rename_i name left hname
              obtain ⟨l, hl, heq⟩ := Option.map_eq_some_iff.mp h
              obtain ⟨rfl, rfl⟩ := Prod.mk.inj heq
              have hname' :
                  boundaryName f (inner.length + 1) (d :: inner) = (name, '\x7d' :: rest) :=
                boundaryName_of_append (by simp [ending]) le_rfl hname
              simp only [hname', hl, Option.map_some]
            · cases h
          · rename_i hd
            rw [if_neg hd]
            exact plain h
      · rw [hskip] at h
        cases h
    · have hother (cs : List Char) :
          boundary? f (c :: cs) = some (.look (.wordBoundary f.unicode), c :: cs) := by
        unfold boundary?
        split
        · rename_i heq
          exact absurd (List.cons.inj heq).1 hc
        · rfl
      rw [List.cons_append, hother] at h
      exact .inl ((hother cs).trans (plain h))

/-- An escape; after a word boundary a brace may be left alone. -/
theorem escape?_of_append {a : Atom} (h : escape? f (cs ++ ending) = some (a, rest ++ ending)) :
    escape? f cs = some (a, rest) ∨ (∃ l, a = .look l) ∧ LoneBrace f rest := by
  cases cs with
  | nil =>
    have hparen : escape? f ([] ++ ending) = some (.char ')' false, ['$']) := rfl
    obtain ⟨-, heq⟩ := Prod.mk.inj (Option.some.inj (hparen.symm.trans h))
    exact absurd (congrArg List.length heq) (by simp [ending])
  | cons c cs =>
    have mapped {α : Type} {x : Option α} {g : α → Atom}
        (h : x.map (fun y => (g y, cs ++ ending)) = some (a, rest ++ ending)) :
        x.map (fun y => (g y, cs)) = some (a, rest) := by
      obtain ⟨y, rfl, heq⟩ := Option.map_eq_some_iff.mp h
      obtain ⟨rfl, hcs⟩ := Prod.mk.inj heq
      rw [List.append_cancel_right hcs]
      rfl
    simp only [List.cons_append, escape?] at h ⊢
    split at h
    · exact .inl ((if_pos ‹_›).trans (hex?_of_append h))
    rename_i hx
    rw [if_neg hx]
    split at h
    · exact .inl ((if_pos ‹_›).trans (hex?_of_append h))
    rename_i hu
    rw [if_neg hu]
    split at h
    · exact .inl ((if_pos ‹_›).trans (hex?_of_append h))
    rename_i hU
    rw [if_neg hU]
    split at h
    · exact .inl ((if_pos ‹_›).trans (property?_of_append h))
    rename_i hp
    rw [if_neg hp]
    split at h
    · rw [if_pos ‹_›]
      exact boundary?_of_append h
    rename_i hb
    rw [if_neg hb]
    left
    split at h
    · exact (if_pos ‹_›).trans (mapped h)
    rename_i hperl
    rw [if_neg hperl]
    split at h
    · obtain ⟨rfl, heq⟩ := Prod.mk.inj (Option.some.inj h)
      rw [List.append_cancel_right heq]
    · exact mapped h

/-! ### Sets between brackets -/

theorem cut?_append {mark : Char} (hmark : mark ∉ ending) (cs : List Char) :
    cut? [mark] (cs ++ ending) = (cut? [mark] cs).map (Prod.map id (· ++ ending)) := by
  have hcons (c : Char) (cs : List Char) : cut? [mark] (c :: cs) =
      if mark = c then some ([], cs) else (cut? [mark] cs).map (Prod.map (c :: ·) id) := by
    simp [cut?, Prod.map_def]
  induction cs with
  | nil =>
    obtain ⟨hparen, hdollar⟩ : mark ≠ ')' ∧ mark ≠ '$' := by simpa [ending] using hmark
    rw [List.nil_append, ending, hcons, if_neg hparen, hcons, if_neg hdollar]
    rfl
  | cons c cs ih =>
    rw [List.cons_append, hcons, hcons, ih]
    split
    · rfl
    · cases cut? [mark] cs <;> rfl

theorem setOp?_cons (c d : Char) (cs : List Char) : setOp? (c :: d :: cs) =
    if c = '&' ∧ d = '&' then some (.inter, cs)
    else if c = '-' ∧ d = '-' then some (.diff, cs)
    else if c = '~' ∧ d = '~' then some (.symmDiff, cs)
    else none := by
  unfold setOp?
  split
  · rename_i heq
    simp_all
  · rename_i heq
    simp_all
  · rename_i heq
    simp_all
  · rename_i h₁ h₂ h₃
    rw [if_neg, if_neg, if_neg]
    · rintro ⟨rfl, rfl⟩
      exact h₃ _ rfl
    · rintro ⟨rfl, rfl⟩
      exact h₂ _ rfl
    · rintro ⟨rfl, rfl⟩
      exact h₁ _ rfl

theorem setOp?_append (cs : List Char) :
    setOp? (cs ++ ending) = (setOp? cs).map (Prod.map id (· ++ ending)) := by
  match cs with
  | [] => rfl
  | [c] =>
    have hnone : setOp? [c] = none := by
      unfold setOp?
      split <;> simp_all
    simp [ending, setOp?_cons, hnone]
  | c :: d :: cs =>
    rw [List.cons_append, List.cons_append, setOp?_cons, setOp?_cons]
    split_ifs <;> rfl

theorem caret_append (cs : List Char) : caret (cs ++ ending) = (caret cs).map id (· ++ ending) := by
  cases cs with
  | nil => rfl
  | cons c cs =>
    by_cases hc : c = '^'
    · subst hc
      rfl
    · simp [caret, hc]

theorem colonClass?_append (cs : List Char) : colonClass? (cs ++ ending) =
    (colonClass? cs).map (Prod.map id (Prod.map id (· ++ ending))) := by
  cases cs with
  | nil => rfl
  | cons c cs =>
    by_cases hc : c = ':'
    · subst hc
      have hcut := cut?_append (by decide : ':' ∉ ending) (caret cs).2
      simp only [List.cons_append, colonClass?, caret_append, Prod.map_snd, hcut]
      cases cut? [':'] (caret cs).2 with
      | none => rfl
      | some x =>
        obtain ⟨name, _ | ⟨d, left⟩⟩ := x
        · rfl
        · by_cases hd : d = ']'
          · subst hd
            cases h : asciiClass? (String.ofList name) <;> simp [h]
          · simp [hd]
    · simp [colonClass?, hc]

theorem setOp?_of_append {op : SetOp} (h : setOp? (cs ++ ending) = some (op, rest ++ ending)) :
    setOp? cs = some (op, rest) := by
  rw [setOp?_append] at h
  obtain ⟨⟨op', left⟩, hop, heq⟩ := Option.map_eq_some_iff.mp h
  simp only [Prod.map_apply, id, Prod.mk.injEq, List.append_cancel_right_eq] at heq
  obtain ⟨rfl, rfl⟩ := heq
  exact hop

theorem colonClass?_of_append {s : CodePoints} {negated : Bool}
    (h : colonClass? (cs ++ ending) = some (s, negated, rest ++ ending)) :
    colonClass? cs = some (s, negated, rest) := by
  rw [colonClass?_append] at h
  obtain ⟨⟨t, neg, left⟩, hcolon, heq⟩ := Option.map_eq_some_iff.mp h
  simp only [Prod.map_apply, id, Prod.mk.injEq, List.append_cancel_right_eq] at heq
  obtain ⟨rfl, rfl, rfl⟩ := heq
  exact hcolon

theorem setAtom?_of_append {a : Atom}
    (h : setAtom? f (cs ++ ending) = some (a, rest ++ ending)) :
    setAtom? f cs = some (a, rest) ∨ ∃ l, a = .look l := by
  cases cs with
  | nil =>
    have hparen : setAtom? f ([] ++ ending) = some (.char ')' false, ['$']) := rfl
    obtain ⟨-, heq⟩ := Prod.mk.inj (Option.some.inj (hparen.symm.trans h))
    exact absurd (congrArg List.length heq) (by simp [ending])
  | cons c cs =>
    by_cases hc : c = '\\'
    · subst hc
      exact (escape?_of_append h).imp_right And.left
    · have hother (cs : List Char) : setAtom? f (c :: cs) = some (.char c false, cs) := by
        simp [setAtom?]
      rw [List.cons_append, hother] at h
      obtain ⟨rfl, heq⟩ := Prod.mk.inj (Option.some.inj h)
      rw [hother, List.append_cancel_right heq]
      exact .inl rfl

theorem setAtom?_length {a : Atom} (h : setAtom? f cs = some (a, rest)) :
    rest.length < cs.length := by
  unfold setAtom? at h
  split at h
  · cases h
  · exact Nat.lt_succ_of_le (escape?_suffix h).length_le
  · obtain ⟨-, rfl⟩ := Prod.mk.inj (Option.some.inj h)
    exact Nat.lt_succ_self _

/-- A hyphen stands for itself if what comes after it cannot end a range. -/
def AloneHyphen (f : Flags) (after : List Char) : Prop :=
  f.peek after = some ']' ∨ f.peek after = some '-'

/-- An item is a range, or an atom after which the set goes on. -/
theorem item?_eq_some_iff {s : CodePoints} : item? f cs = some (s, rest) ↔
    ∃ a left, setAtom? f cs = some (a, left) ∧
      ((∃ after b first last, f.skip left = '-' :: after ∧ ¬ AloneHyphen f after ∧
          setAtom? f (f.skip after) = some (b, rest) ∧ setChar? f a = some first ∧
          setChar? f b = some last ∧ first ≤ last ∧ .range first last = s) ∨
        (f.skip left = rest ∧ rest ≠ [] ∧ (∀ after, rest = '-' :: after → AloneHyphen f after) ∧
          atomSet? f a = some s)) := by
  constructor
  · intro h
    simp only [item?, Option.bind_eq_bind, Option.bind_eq_some_iff] at h
    obtain ⟨⟨a, left⟩, hatom, h⟩ := h
    refine ⟨a, left, hatom, ?_⟩
    dsimp only at h
    split at h
    · cases h
    · rename_i after hskip
      split at h
      · rename_i halone
        obtain ⟨s', hs, heq⟩ := Option.bind_eq_some_iff.mp h
        obtain ⟨rfl, rfl⟩ := Prod.mk.inj (Option.some.inj heq)
        refine .inr ⟨hskip, List.cons_ne_nil _ _, fun after' heq => ?_, hs⟩
        obtain rfl := (List.cons.inj heq).2
        simpa [AloneHyphen] using halone
      · rename_i halone
        obtain ⟨⟨b, left'⟩, hatom', h⟩ := Option.bind_eq_some_iff.mp h
        obtain ⟨first, hfirst, h⟩ := Option.bind_eq_some_iff.mp h
        obtain ⟨last, hlast, h⟩ := Option.bind_eq_some_iff.mp h
        split at h
        · rename_i hle
          obtain ⟨rfl, rfl⟩ := Prod.mk.inj (Option.some.inj h)
          exact .inl ⟨after, b, first, last, hskip, by simpa [AloneHyphen] using halone, hatom',
            hfirst, hlast, hle, rfl⟩
        · cases h
    · rename_i hnil hhyphen
      obtain ⟨s', hs, heq⟩ := Option.bind_eq_some_iff.mp h
      obtain ⟨rfl, rfl⟩ := Prod.mk.inj (Option.some.inj heq)
      exact .inr ⟨rfl, hnil, fun after heq => (hhyphen after heq).elim, hs⟩
  · rintro ⟨a, left, hatom, ⟨after, b, first, last, hskip, halone, hb, hfirst, hlast, hle, rfl⟩ |
      ⟨rfl, hne, hhyphen, hs⟩⟩
    · unfold AloneHyphen at halone
      simp [item?, hatom, hskip, halone, hb, hfirst, hlast, hle]
    · cases hskip : f.skip left with
      | nil => exact absurd hskip hne
      | cons c after =>
        by_cases hc : c = '-'
        · subst hc
          have halone := hhyphen after hskip
          unfold AloneHyphen at halone
          simp [item?, hatom, hskip, halone, hs]
        · simp [item?, hatom, hskip, hc, hs]

theorem item?_length {s : CodePoints} (h : item? f cs = some (s, rest)) :
    rest.length < cs.length := by
  obtain ⟨a, left, hatom, ⟨after, b, _, _, hskip, -, hb, -⟩ | ⟨rfl, -⟩⟩ := item?_eq_some_iff.mp h
  · have hleft := (suffix_of_skip_eq hskip).length_le
    have hafter := (f.skip_suffix after).length_le
    have := setAtom?_length hatom
    have := setAtom?_length hb
    omega
  · exact (f.skip_suffix left).length_le.trans_lt (setAtom?_length hatom)

theorem aloneHyphen_append : AloneHyphen f (cs ++ ending) ↔ AloneHyphen f cs :=
  or_congr (Flags.peek_append (by decide) (by decide) (by decide))
    (Flags.peek_append (by decide) (by decide) (by decide))

/-- An item after which the set goes on. -/
theorem item?_of_append {s : CodePoints} (hrest : rest ≠ [])
    (h : item? f (cs ++ ending) = some (s, rest ++ ending)) : item? f cs = some (s, rest) := by
  have atom {x : Atom} {left cs : List Char}
      (h : setAtom? f (cs ++ ending) = some (x, left ++ ending)) (hx : ∀ l, x ≠ .look l) :
      setAtom? f cs = some (x, left) :=
    (setAtom?_of_append h).resolve_right fun ⟨l, hl⟩ => hx l hl
  refine item?_eq_some_iff.mpr ?_
  obtain ⟨a, left, hatom, ⟨after, b, first, last, hskip, halone, hb, hfirst, hlast, hle, hs⟩ |
    ⟨hskip, -, hhyphen, hs⟩⟩ := item?_eq_some_iff.mp h
  · have hafter := setAtom?_suffix hb
    obtain ⟨after', rfl⟩ := exists_append_of_suffix (hafter.trans (f.skip_suffix after))
    obtain ⟨left', rfl⟩ := exists_append_of_suffix (suffix_of_skip_eq hskip)
    have hskip' : f.skip left' = '-' :: after' := Flags.skip_of_append hskip
    rw [Flags.skip_append_of_suffix hafter] at hb
    refine ⟨a, left', atom hatom ?_, .inl ⟨after', b, first, last, hskip',
      mt aloneHyphen_append.mpr halone, atom hb ?_, hfirst, hlast, hle, hs⟩⟩
    · rintro l rfl
      cases hfirst
    · rintro l rfl
      cases hlast
  · obtain ⟨left', rfl⟩ := exists_append_of_suffix (hskip ▸ f.skip_suffix left)
    refine ⟨a, left', atom hatom ?_, .inr ⟨Flags.skip_of_append hskip, hrest, ?_, hs⟩⟩
    · rintro l rfl
      cases hs
    · rintro after rfl
      exact aloneHyphen_append.mp (hhyphen _ (List.cons_append ..))

theorem hyphens_of_append {is is' : Items} (hk : cs.length < k) (hk' : cs.length ≤ k')
    (h : hyphens f is k (cs ++ ending) = (is', rest ++ ending)) :
    hyphens f is k' cs = (is', rest) := by
  induction k generalizing cs is k' with
  | zero => exact absurd hk (Nat.not_lt_zero _)
  | succ k ih =>
    cases cs with
    | nil =>
      have hempty : hyphens f is (k + 1) ([] ++ ending) = (is, ending) := rfl
      obtain ⟨rfl, heq⟩ := Prod.mk.inj (hempty.symm.trans h)
      obtain rfl : [] = rest := List.append_cancel_right heq
      cases k' <;> rfl
    | cons c cs =>
      obtain ⟨k', rfl⟩ := Nat.exists_eq_succ_of_ne_zero (Nat.ne_zero_of_lt hk')
      have hlength := (f.skip_suffix cs).length_le
      rw [List.length_cons] at hk hk'
      by_cases hc : c = '-'
      · subst hc
        simp only [List.cons_append, hyphens] at h ⊢
        have hsuffix := hyphens_suffix f (is.add (.single '-'.toNat) 0) k (f.skip (cs ++ ending))
        rw [h] at hsuffix
        rw [Flags.skip_append_of_suffix hsuffix] at h
        exact ih (by omega) (by omega) h
      · have hother (k : ℕ) (cs : List Char) : hyphens f is (k + 1) (c :: cs) = (is, c :: cs) := by
          simp [hyphens, hc]
        rw [List.cons_append, hother] at h
        obtain ⟨rfl, heq⟩ := Prod.mk.inj h
        have hcs : c :: cs = rest := List.append_cancel_right heq
        rw [hother, hcs]

theorem opening_of_append {negated : Bool} {is : Items}
    (h : opening f (cs ++ ending) = (negated, is, rest ++ ending)) :
    opening f cs = (negated, is, rest) := by
  unfold opening at h ⊢
  dsimp only at h ⊢
  generalize hhyphens : hyphens f {} (f.skip (caret (f.skip (cs ++ ending))).2).length
    (f.skip (caret (f.skip (cs ++ ending))).2) = x at h
  obtain ⟨is', left⟩ := x
  -- the ending is left by each of the steps, from the last one to the first one
  have hleft : rest ++ ending <:+ left := by
    split at h
    · rename_i heq
      obtain ⟨-, rfl⟩ := Prod.mk.inj heq
      split at h
      · have hrest := (Prod.mk.inj (Prod.mk.inj h).2).2
        exact suffix_cons (hrest ▸ f.skip_suffix _)
      · have hrest := (Prod.mk.inj (Prod.mk.inj h).2).2
        rw [hrest]
    · rename_i heq
      obtain ⟨-, rfl⟩ := Prod.mk.inj heq
      have hrest := (Prod.mk.inj (Prod.mk.inj h).2).2
      rw [hrest]
  have hinner := hyphens_suffix f {} (f.skip (caret (f.skip (cs ++ ending))).2).length
    (f.skip (caret (f.skip (cs ++ ending))).2)
  rw [hhyphens] at hinner
  have hcaret := (hleft.trans hinner).trans (f.skip_suffix _)
  have hskip := Flags.skip_append_of_suffix (hcaret.trans (caret_suffix _))
  simp only [hskip, caret_append, Prod.map_fst, Prod.map_snd, id] at h hhyphens hinner
  have hskip' := Flags.skip_append_of_suffix (hleft.trans hinner)
  rw [hskip'] at hhyphens
  obtain ⟨left', rfl⟩ := exists_append_of_suffix hleft
  rw [hyphens_of_append (by simp [ending]) le_rfl hhyphens]
  cases left' with
  | nil =>
    obtain ⟨hnegated, heq⟩ := Prod.mk.inj h
    obtain ⟨his, heq⟩ := Prod.mk.inj heq
    obtain rfl : [] = rest := List.append_cancel_right heq
    rw [hnegated, his]
  | cons c left =>
    by_cases hc : c = ']'
    · subst hc
      simp only [List.cons_append] at h ⊢
      split at h
      · rename_i hcount
        obtain ⟨hnegated, heq⟩ := Prod.mk.inj h
        obtain ⟨his, heq⟩ := Prod.mk.inj heq
        rw [if_pos hcount, hnegated, his, Flags.skip_of_append heq]
      · rename_i hcount
        obtain ⟨hnegated, heq⟩ := Prod.mk.inj h
        obtain ⟨his, heq⟩ := Prod.mk.inj heq
        have hcs : ']' :: left = rest := List.append_cancel_right heq
        rw [if_neg hcount, hnegated, his, hcs]
    · rw [List.cons_append] at h
      split at h
      · rename_i heq
        exact absurd (List.cons.inj (Prod.mk.inj heq).2).1 hc
      · rename_i heq
        obtain ⟨rfl, rfl⟩ := Prod.mk.inj heq
        obtain ⟨hnegated, heq⟩ := Prod.mk.inj h
        obtain ⟨his, heq⟩ := Prod.mk.inj heq
        have hcs : c :: left = rest := List.append_cancel_right heq
        split
        · rename_i heq
          exact absurd (List.cons.inj (Prod.mk.inj heq).2).1 hc
        · rename_i heq
          obtain ⟨rfl, rfl⟩ := Prod.mk.inj heq
          rw [hnegated, his, hcs]

theorem setOp?_length {op : SetOp} (h : setOp? cs = some (op, rest)) :
    rest.length < cs.length := by
  unfold setOp? at h
  split at h
  · obtain ⟨-, rfl⟩ := Prod.mk.inj (Option.some.inj h)
    exact Nat.lt_add_of_pos_right Nat.two_pos
  · obtain ⟨-, rfl⟩ := Prod.mk.inj (Option.some.inj h)
    exact Nat.lt_add_of_pos_right Nat.two_pos
  · obtain ⟨-, rfl⟩ := Prod.mk.inj (Option.some.inj h)
    exact Nat.lt_add_of_pos_right Nat.two_pos
  · cases h

/-- The items of a set, if an operation comes next. -/
theorem items?_op {negated : Bool} {pending : Pending} {is : Items} {op : SetOp}
    (hop : setOp? (f.skip cs) = some (op, rest)) : items? f (k + 1) negated pending is cs =
      items? f k negated (some (op, closeOp f pending is)) {} rest := by
  simp only [items?]
  split
  · rename_i hskip
    rw [hskip] at hop
    cases hop
  · rename_i hskip
    rw [hskip] at hop
    cases hop
  · rename_i hskip
    rw [hskip] at hop
    cases hop
  · rw [hop]

/-- The items of a set, if an item comes next. -/
theorem items?_item {negated : Bool} {pending : Pending} {is : Items} {s : CodePoints}
    (hop : setOp? (f.skip cs) = none) (hitem : item? f (f.skip cs) = some (s, rest))
    (hclose : ∀ rest, f.skip cs ≠ ']' :: rest) (hopen : ∀ rest, f.skip cs ≠ '[' :: rest) :
    items? f (k + 1) negated pending is cs = items? f k negated pending (is.add s 0) rest := by
  simp only [items?]
  split
  · rename_i hskip
    rw [hskip] at hitem
    cases hitem
  · rename_i hskip
    exact absurd hskip (hclose _)
  · rename_i hskip
    exact absurd hskip (hopen _)
  · rw [hop]
    simp only [hitem, Option.bind_eq_bind, Option.bind_some]

/-- A set and its items take two steps for each character at most. -/
theorem sets_of_append (f : Flags) (k : ℕ) :
    (∀ {cs rest s k'}, 2 * cs.length + 2 ≤ k' →
      bracket? f k (cs ++ ending) = some (s, rest ++ ending) →
        bracket? f k' cs = some (s, rest)) ∧
      ∀ {negated pending is cs rest s k'}, 2 * cs.length + 1 ≤ k' →
        items? f k negated pending is (cs ++ ending) = some (s, rest ++ ending) →
          items? f k' negated pending is cs = some (s, rest) := by
  -- brackets and items call each other, always with less fuel
  induction k with
  | zero => simp [bracket?, items?]
  | succ k ih =>
    constructor
    · intro cs rest s k' hk h
      obtain ⟨k', rfl⟩ := Nat.exists_eq_add_of_le' (Nat.le_of_add_left_le hk)
      simp only [bracket?] at h ⊢
      generalize hopening : opening f (cs ++ ending) = x at h
      obtain ⟨negated, is, left⟩ := x
      obtain ⟨left', rfl⟩ := exists_append_of_suffix (suffix_of_cons ((sets_suffix f k).2 h))
      have hopening' := opening_of_append hopening
      have hlength := (opening_suffix f cs).length_le
      rw [hopening'] at hlength ⊢
      dsimp only at hlength
      have hk' : 2 * left'.length + 1 ≤ k' + 1 := by omega
      exact ih.2 hk' h
    · intro negated pending is cs rest s k' hk h
      obtain ⟨k', rfl⟩ := Nat.exists_eq_add_of_le' (Nat.le_of_add_left_le hk)
      simp only [items?] at h
      split at h
      · cases h
      · rename_i left hskip
        obtain ⟨t, ht, heq⟩ := Option.map_eq_some_iff.mp h
        obtain ⟨rfl, rfl⟩ := Prod.mk.inj heq
        have hskip' : f.skip cs = ']' :: rest := Flags.skip_of_append hskip
        simp only [items?, hskip', ht, Option.map_some]
      · rename_i left hskip
        split at h
        · rename_i t neg left hcolon
          obtain ⟨t', ht, h⟩ := Option.bind_eq_some_iff.mp h
          have hleft := suffix_of_cons ((sets_suffix f k).2 h)
          obtain ⟨inner, rfl, hskip'⟩ :=
            Flags.skip_cons_of_append hskip (hleft.trans (colonClass?_suffix hcolon))
          obtain ⟨left', rfl⟩ := exists_append_of_suffix hleft
          have hcolon' := colonClass?_of_append hcolon
          have hinner := Flags.length_lt_of_skip_eq hskip'
          have hlength := (colonClass?_suffix hcolon').length_le
          have hitems := ih.2 (by omega : 2 * left'.length + 1 ≤ k') h
          simp [items?, hskip', hcolon', ht, hitems]
        · rename_i hcolon
          obtain ⟨⟨t, left⟩, hbracket, h⟩ := Option.bind_eq_some_iff.mp h
          have hleft := suffix_of_cons ((sets_suffix f k).2 h)
          obtain ⟨inner, rfl, hskip'⟩ :=
            Flags.skip_cons_of_append hskip (hleft.trans (bracket?_suffix hbracket))
          obtain ⟨left', rfl⟩ := exists_append_of_suffix hleft
          rw [colonClass?_append, Option.map_eq_none_iff] at hcolon
          have hinner := Flags.length_lt_of_skip_eq hskip'
          have hbracket' := ih.1 (by omega : 2 * inner.length + 2 ≤ k') hbracket
          have hlength := (bracket?_suffix hbracket').length_le
          have hitems := ih.2 (by omega : 2 * left'.length + 1 ≤ k') h
          simp [items?, hskip', hcolon, hbracket', hitems]
      · rename_i hnil hclose hopen
        split at h
        · rename_i op left hop
          have hleft := suffix_of_cons ((sets_suffix f k).2 h)
          obtain ⟨left', rfl⟩ := exists_append_of_suffix hleft
          rw [Flags.skip_append_of_suffix (hleft.trans (setOp?_suffix hop))] at hop
          have hop' := setOp?_of_append hop
          have hlength := setOp?_length hop'
          have hskip := (f.skip_suffix cs).length_le
          rw [items?_op hop']
          exact ih.2 (by omega) h
        · rename_i hop
          obtain ⟨⟨t, left⟩, hitem, h⟩ := Option.bind_eq_some_iff.mp h
          have hbracket := (sets_suffix f k).2 h
          obtain ⟨left', rfl⟩ := exists_append_of_suffix (suffix_of_cons hbracket)
          -- the closing bracket is still to come
          have hne : left' ≠ [] := by
            rintro rfl
            have hle := hbracket.length_le
            simp only [List.length_cons, List.length_append, List.length_nil] at hle
            omega
          have hskip :=
            Flags.skip_append_of_suffix ((suffix_of_cons hbracket).trans (item?_suffix hitem))
          rw [hskip] at hop hitem hnil hclose hopen
          rw [setOp?_append, Option.map_eq_none_iff] at hop
          have hitem' := item?_of_append hne hitem
          have hlength := item?_length hitem'
          have hlength' := (f.skip_suffix cs).length_le
          rw [items?_item hop hitem' (fun rest h => hclose _ (by rw [h]; rfl))
            fun rest h => hopen _ (by rw [h]; rfl)]
          exact ih.2 (by omega) h

theorem bracket?_of_append {s : ReadSet} (hk : 2 * cs.length + 2 ≤ k')
    (h : bracket? f k (cs ++ ending) = some (s, rest ++ ending)) :
    bracket? f k' cs = some (s, rest) :=
  (sets_of_append f k).1 hk h

/-! ### Groups and repetitions -/

/-- Flags, if something is left after them. -/
theorem flags?_of_append {g : Flags} {seen : List Char} {negated dangling : Bool}
    (hrest : rest ≠ [])
    (h : flags? f seen negated dangling (cs ++ ending) = some (g, rest ++ ending)) :
    flags? f seen negated dangling cs = some (g, rest) := by
  induction cs generalizing f seen negated dangling with
  | nil =>
    -- only the parenthesis of the ending ends the flags, and it is left
    have hparen : flags? f seen negated dangling ([] ++ ending) =
        if dangling then none else some (f, ending) := rfl
    rw [hparen] at h
    split at h
    · cases h
    · have heq := (Prod.mk.inj (Option.some.inj h)).2
      have hnil : [] = rest := List.append_cancel_right heq
      exact absurd hnil.symm hrest
  | cons c cs ih =>
    simp only [List.cons_append, flags?] at h ⊢
    split at h
    · rename_i hc
      rw [if_pos hc]
      split at h
      · cases h
      · rename_i hdangling
        obtain ⟨rfl, heq⟩ := Prod.mk.inj (Option.some.inj h)
        have hcs : c :: cs = rest := List.append_cancel_right heq
        rw [if_neg hdangling, hcs]
    rename_i hc
    rw [if_neg hc]
    split at h
    · rename_i hhyphen
      rw [if_pos hhyphen]
      split at h
      · cases h
      · rename_i hnegated
        rw [if_neg hnegated]
        exact ih h
    rename_i hhyphen
    rw [if_neg hhyphen]
    split at h
    · cases h
    rename_i hseen
    rw [if_neg hseen]
    split at h
    · exact ih h
    · cases h

theorem groupName?_append (cs : List Char) :
    groupName? (cs ++ ending) = (groupName? cs).map (Prod.map id (· ++ ending)) := by
  unfold groupName?
  rw [cut?_append (by decide)]
  obtain _ | ⟨_ | ⟨c, name⟩, left⟩ := cut? ['>'] cs
  · rfl
  · rfl
  · dsimp only [Option.map_some, Prod.map_apply, id]
    split <;> rfl

theorem dropLazy_append (cs : List Char) : dropLazy (cs ++ ending) = dropLazy cs ++ ending := by
  cases cs with
  | nil => rfl
  | cons c cs =>
    by_cases hc : c = '?'
    · subst hc
      rfl
    · simp [dropLazy, hc]

theorem countDigits_of_append {ds : List Char} (hk : cs.length < k) (hk' : cs.length ≤ k')
    (h : countDigits f k (cs ++ ending) = (ds, rest ++ ending)) :
    countDigits f k' cs = (ds, rest) := by
  rw [countDigits_eq] at h ⊢
  exact scan_of_append rfl hk hk' h

theorem count?_of_append (h : count? f (cs ++ ending) = some (n, rest ++ ending)) :
    count? f cs = some (n, rest) := by
  simp only [count?, dropWhile_isBlank_append] at h ⊢
  generalize hdigits : countDigits f (cs.dropWhile Blank.isBlank ++ ending).length
    (cs.dropWhile Blank.isBlank ++ ending) = x at h
  obtain ⟨ds, left⟩ := x
  dsimp only at h
  split at h
  · cases h
  · rename_i hds
    obtain ⟨rfl, hrest⟩ := Prod.mk.inj (Option.some.inj h)
    have hleft : rest ++ ending <:+ left :=
      (hrest ▸ f.skip_suffix _).trans (List.dropWhile_suffix _)
    obtain ⟨left', rfl⟩ := exists_append_of_suffix hleft
    rw [dropWhile_isBlank_append] at hrest
    rw [countDigits_of_append (by simp [ending]) le_rfl hdigits]
    dsimp only
    rw [if_neg hds, Flags.skip_of_append hrest]

theorem count?_skip_of_append (h : count? f (f.skip (cs ++ ending)) = some (n, rest ++ ending)) :
    count? f (f.skip cs) = some (n, rest) := by
  rw [Flags.skip_append_of_suffix (count?_suffix h)] at h
  exact count?_of_append h

theorem counts?_of_append {least : ℕ} {greatest : Option ℕ}
    (h : counts? f (cs ++ ending) = some (least, greatest, rest ++ ending)) :
    counts? f cs = some (least, greatest, rest) := by
  simp only [counts?, Option.bind_eq_bind, Option.bind_eq_some_iff] at h ⊢
  obtain ⟨⟨n, left⟩, hcount, h⟩ := h
  dsimp only at h
  split at h
  · rename_i left
    obtain ⟨rfl, heq⟩ := Prod.mk.inj (Option.some.inj h)
    obtain ⟨rfl, rfl⟩ := Prod.mk.inj heq
    have hcount' : count? f (f.skip cs) = some (n, '\x7d' :: rest) := count?_skip_of_append hcount
    exact ⟨_, hcount', rfl⟩
  · rename_i after
    split at h
    · rename_i left hskip
      obtain ⟨rfl, heq⟩ := Prod.mk.inj (Option.some.inj h)
      obtain ⟨rfl, rfl⟩ := Prod.mk.inj heq
      obtain ⟨after', rfl⟩ := exists_append_of_suffix (suffix_of_skip_eq hskip)
      have hcount' : count? f (f.skip cs) = some (n, ',' :: after') := count?_skip_of_append hcount
      have hskip' : f.skip after' = '\x7d' :: rest := Flags.skip_of_append hskip
      exact ⟨_, hcount', by simp [hskip']⟩
    · rename_i hbrace
      obtain ⟨⟨m, left⟩, hcount₂, h⟩ := Option.bind_eq_some_iff.mp h
      dsimp only at h
      split at h
      · rename_i left
        split at h
        · rename_i hle
          obtain ⟨rfl, heq⟩ := Prod.mk.inj (Option.some.inj h)
          obtain ⟨rfl, rfl⟩ := Prod.mk.inj heq
          have hafter := (suffix_of_cons (count?_suffix hcount₂)).trans (f.skip_suffix after)
          obtain ⟨after', rfl⟩ := exists_append_of_suffix hafter
          have hcount' : count? f (f.skip cs) = some (n, ',' :: after') :=
            count?_skip_of_append hcount
          have hcount₂' : count? f (f.skip after') = some (m, '\x7d' :: rest) :=
            count?_skip_of_append hcount₂
          have hskip := Flags.skip_append_of_suffix (suffix_of_cons (count?_suffix hcount₂))
          refine ⟨_, hcount', ?_⟩
          dsimp only
          split
          · rename_i heq
            cases heq
          · rename_i heq
            obtain rfl := (List.cons.inj heq).2
            split
            · rename_i hskip'
              exact (hbrace _ (by rw [hskip, hskip']; rfl)).elim
            · simp [hcount₂', hle]
          · rename_i hcomma
            exact (hcomma _ rfl).elim
        · cases h
      · cases h
  · cases h

/-- After a brace that is left alone there is no number. -/
theorem counts?_append_eq_none (h : f.skip cs = []) : counts? f (cs ++ ending) = none := by
  have hnone : count? f (f.skip (cs ++ ending)) = none := by
    obtain hskip | ⟨hskip, -⟩ := f.skip_append cs
    · rw [hskip, h]
      rfl
    · rw [hskip]
      rfl
  simp [counts?, hnone]

/-! ### Beginnings of groups -/

variable {r q : Reading}

theorem namedGroup?_of_append (h : namedGroup? r (cs ++ ending) = some (q, rest ++ ending)) :
    namedGroup? r cs = some (q, rest) := by
  unfold namedGroup? at h ⊢
  rw [groupName?_append] at h
  cases hname : groupName? cs with
  | none =>
    rw [hname] at h
    cases h
  | some x =>
    obtain ⟨name, left⟩ := x
    rw [hname] at h
    dsimp only [Option.map_some, Prod.map_apply, id] at h ⊢
    split at h
    · cases h
    · rename_i hnew
      obtain ⟨rfl, heq⟩ := Prod.mk.inj (Option.some.inj h)
      rw [if_neg hnew, List.append_cancel_right heq]

theorem flagGroup?_of_append (h : flagGroup? r (cs ++ ending) = some (q, rest ++ ending)) :
    flagGroup? r cs = some (q, rest) := by
  unfold flagGroup? at h ⊢
  split at h
  · rename_i g left hflags
    obtain ⟨rfl, rfl⟩ := Prod.mk.inj (Option.some.inj h)
    have hflags' : flags? r.flags [] false false cs = some (g, ':' :: rest) :=
      flags?_of_append (List.cons_ne_nil _ _) hflags
    rw [hflags']
    rfl
  · rename_i g left hflags
    split at h
    · cases h
    · rename_i hempty
      obtain ⟨rfl, rfl⟩ := Prod.mk.inj (Option.some.inj h)
      have hflags' : flags? r.flags [] false false cs = some (g, ')' :: rest) :=
        flags?_of_append (List.cons_ne_nil _ _) hflags
      have hempty' : ¬ cs.head? = some ')' := fun hhead =>
        hempty (by rw [List.head?_append, hhead]; rfl)
      rw [hflags']
      exact if_neg hempty'
  · cases h

theorem group?_of_append (h : group? r (cs ++ ending) = some (q, rest ++ ending)) :
    group? r cs = some (q, rest) := by
  unfold group? at h ⊢
  split at h
  · cases h
  · cases h
  · cases h
  · cases h
  · rename_i left hskip
    obtain ⟨left', rfl⟩ := exists_append_of_suffix (namedGroup?_suffix h)
    have hskip' : r.flags.skip cs = '?' :: 'P' :: '<' :: left' := Flags.skip_of_append hskip
    rw [hskip']
    exact namedGroup?_of_append h
  · rename_i left hahead hnot hskip
    obtain ⟨left', rfl⟩ := exists_append_of_suffix (namedGroup?_suffix h)
    have hskip' : r.flags.skip cs = '?' :: '<' :: left' := Flags.skip_of_append hskip
    rw [hskip']
    have hahead' (tail : List Char) (heq : left' = '=' :: tail) : False :=
      hahead (tail ++ ending) (heq ▸ rfl)
    have hnot' (tail : List Char) (heq : left' = '!' :: tail) : False :=
      hnot (tail ++ ending) (heq ▸ rfl)
    simp only
    exact namedGroup?_of_append h
  · rename_i left h₁ h₂ h₃ h₄ h₅ h₆ hskip
    obtain ⟨left', rfl⟩ := exists_append_of_suffix (flagGroup?_suffix h)
    have hskip' : r.flags.skip cs = '?' :: left' := Flags.skip_of_append hskip
    rw [hskip']
    have h₁' (tail : List Char) (heq : left' = '=' :: tail) : False :=
      h₁ (tail ++ ending) (heq ▸ rfl)
    have h₂' (tail : List Char) (heq : left' = '!' :: tail) : False :=
      h₂ (tail ++ ending) (heq ▸ rfl)
    have h₃' (tail : List Char) (heq : left' = '<' :: '=' :: tail) : False :=
      h₃ (tail ++ ending) (heq ▸ rfl)
    have h₄' (tail : List Char) (heq : left' = '<' :: '!' :: tail) : False :=
      h₄ (tail ++ ending) (heq ▸ rfl)
    have h₅' (tail : List Char) (heq : left' = 'P' :: '<' :: tail) : False :=
      h₅ (tail ++ ending) (heq ▸ rfl)
    have h₆' (tail : List Char) (heq : left' = '<' :: tail) : False :=
      h₆ (tail ++ ending) (heq ▸ rfl)
    simp only
    exact flagGroup?_of_append h
  · rename_i h₁ h₂ h₃ h₄ h₅ h₆ h₇
    obtain ⟨rfl, hskip⟩ := Prod.mk.inj (Option.some.inj h)
    have hskip' : r.flags.skip cs = rest := Flags.skip_of_append hskip
    rw [hskip']
    cases rest with
    | nil => rfl
    | cons c rest =>
      have hc : c ≠ '?' := fun hc => h₇ (rest ++ ending) (hskip.trans (hc ▸ rfl))
      split <;> simp_all

/-! ### Steps of the reader -/

/-- A step that leaves the ending is the same without it, unless it leaves a brace alone. -/
theorem read?_of_append (hread : read? r c (cs ++ ending) = some (q, rest ++ ending)) :
    read? r c cs = some (q, rest) ∨ LoneBrace q.flags rest := by
  generalize htext : cs ++ ending = text at hread
  generalize hleft : rest ++ ending = left at hread
  cases reads_of_read? hread with
  | group h =>
    subst htext hleft
    exact .inl (Reads.group (group?_of_append h)).read?
  | close h =>
    obtain rfl : cs = rest := List.append_cancel_right (htext.trans hleft.symm)
    exact .inl (Reads.close h).read?
  | bar =>
    obtain rfl : cs = rest := List.append_cancel_right (htext.trans hleft.symm)
    exact .inl Reads.bar.read?
  | set h =>
    subst htext hleft
    exact .inl (Reads.set (bracket?_of_append le_rfl h)).read?
  | again hc h =>
    rw [← htext, dropLazy_append] at hleft
    obtain rfl := List.append_cancel_right hleft
    exact .inl (Reads.again hc h).read?
  | @counted _ left _ _ _ hcounts h =>
    subst htext
    have hskip : rest ++ ending <:+ r.flags.skip left := hleft ▸ dropLazy_suffix _
    obtain ⟨left', rfl⟩ := exists_append_of_suffix (hskip.trans (r.flags.skip_suffix left))
    rw [Flags.skip_append_of_suffix hskip, dropLazy_append] at hleft
    obtain rfl := List.append_cancel_right hleft
    exact .inl (Reads.counted (counts?_of_append hcounts) h).read?
  | escape h hx =>
    subst htext hleft
    obtain h | ⟨-, hlone⟩ := escape?_of_append h
    · exact .inl (Reads.escape h hx).read?
    · exact .inr hlone
  | leaf hc h =>
    obtain rfl : cs = rest := List.append_cancel_right (htext.trans hleft.symm)
    exact .inl (Reads.leaf hc h).read?

end Regex

end Switchboard
