import Switchboard.Proofs.CodePoints
import Switchboard.Proofs.Leftover
import Switchboard.Proofs.Matching

/-!
# Sets that are read without regard to case

A pattern is read twice, with and without regard to case. Where case is folded a set becomes larger,
and a complement of it smaller; so unless the text of a pattern asks for a complement
(`mentionsComplement`) the two expressions have the same shape, with larger sets in the second one
(`Within`), and the second one matches whatever the first one does (`Within.finds_of_finds`).

The second reading has the flags of the first one, except that case does not count
(`Flags.caseless`). Every reader of atoms and of sets between brackets has a lemma that compares the
two; most readers do not look at that flag at all.
-/

namespace Switchboard

namespace Regex

open CodePoints

/-! ### Expressions with larger sets -/

/-- Two expressions of one shape, with the bounds of repetitions in order; the sets of the second
one are larger. -/
inductive Within : Regex → Regex → Prop where
  | empty : Within .empty .empty
  | set {s t : CodePoints} (h : s ⊆ t) : Within (.set s) (.set t)
  | look (l : Look) : Within (.look l) (.look l)
  | group {a a' : Regex} (h : Within a a') : Within (.group a) (.group a')
  | cat {a a' b b' : Regex} (ha : Within a a') (hb : Within b b') :
    Within (.cat a b) (.cat a' b')
  | alt {a a' b b' : Regex} (ha : Within a a') (hb : Within b b') :
    Within (.alt a b) (.alt a' b')
  | rep {a a' : Regex} {least : ℕ} {greatest : Option ℕ} (h : Within a a')
    (bounds : ∀ m, greatest = some m → least ≤ m) :
    Within (.rep a least greatest) (.rep a' least greatest)

variable {text : List Char} {i j : ℕ} {a a' : Regex}

theorem Times.mono {R R' : ℕ → ℕ → Prop} {n : ℕ} (h : Times R n i j)
    (step : ∀ i j, R i j → R' i j) : Times R' n i j := by
  induction h with
  | zero i => exact .zero i
  | succ hstep _ ih => exact .succ (step _ _ hstep) ih

namespace Within

theorem bounded (h : Within a a') : a.Bounded ∧ a'.Bounded := by
  induction h with
  | empty | set | look => exact ⟨trivial, trivial⟩
  | group _ ih => exact ih
  | cat _ _ iha ihb | alt _ _ iha ihb => exact ⟨⟨iha.1, ihb.1⟩, iha.2, ihb.2⟩
  | rep _ bounds ih => exact ⟨⟨ih.1, bounds⟩, ih.2, bounds⟩

theorem matches_of_matches (h : Within a a') (hm : Matches text a i j) : Matches text a' i j := by
  induction h generalizing i j with
  | empty | look => exact hm
  | set hst =>
    obtain ⟨hj, c, hc, hs⟩ := hm
    exact ⟨hj, c, hc, has_of_subset hst hs⟩
  | group _ ih => exact ih hm
  | cat _ _ iha ihb =>
    obtain ⟨k, ha, hb⟩ := hm
    exact ⟨k, iha ha, ihb hb⟩
  | alt _ _ iha ihb => exact hm.imp iha ihb
  | rep _ _ ih =>
    obtain ⟨hi, n, hn, hsteps⟩ := hm
    exact ⟨hi, n, hn, hsteps.mono fun _ _ => ih⟩

/-- What the first expression finds is found by the second one. -/
theorem finds_of_finds (h : Within a a') (hf : a.finds text = true) : a'.finds text = true := by
  obtain ⟨i, j, hm⟩ := (finds_iff h.bounded.1).mp hf
  exact (finds_iff h.bounded.2).mpr ⟨i, j, h.matches_of_matches hm⟩

theorem cats {rs rs' : List Regex} (h : List.Forall₂ Within rs rs') :
    Within (Regex.cats rs) (Regex.cats rs') := by
  induction h with
  | nil => exact .empty
  | cons hr hrs ih =>
    cases hrs with
    | nil => exact hr
    | cons => exact .cat hr ih

theorem alts {rs rs' : List Regex} (h : List.Forall₂ Within rs rs') :
    Within (Regex.alts rs) (Regex.alts rs') := by
  induction h with
  | nil => exact .empty
  | cons hr hrs ih =>
    cases hrs with
    | nil => exact hr
    | cons => exact .alt hr ih

end Within

/-! ### Marks of complements -/

/-- Whether a text begins with something that can ask for a complement: a circumflex after a
bracket, with or without a colon between them, or after a blank, which may not count; the signs of
the set operations that are not a union or an intersection; or the escape of the complement of a
class. -/
def complementAhead : List Char → Bool
  | c :: d :: rest =>
    (d = '^' && (c = '[' || Blank.isBlank c)) ||
      (c = '[' && d = ':' && rest.head? = some '^') ||
      (c = '-' && d = '-') || (c = '~' && d = '~') || (c = '\\' && d = 'P')
  | _ => false

/-- Whether a text can ask for a complement somewhere. -/
def mentionsComplement : List Char → Bool
  | [] => false
  | c :: rest => complementAhead (c :: rest) || mentionsComplement rest

/-- No complement is asked for. -/
def Plain (cs : List Char) : Prop := mentionsComplement cs = false

variable {cs rest : List Char}

theorem Plain.tail {c : Char} (h : Plain (c :: cs)) : Plain cs :=
  (Bool.or_eq_false_iff.mp h).2

theorem Plain.of_suffix (h : Plain cs) (hrest : rest <:+ cs) : Plain rest := by
  induction cs with
  | nil => rwa [List.suffix_nil.mp hrest]
  | cons c cs ih =>
    obtain rfl | hrest := List.suffix_cons_iff.mp hrest
    · exact h
    · exact ih h.tail hrest

theorem Plain.not_ahead (h : Plain cs) : complementAhead cs = false := by
  cases cs with
  | nil => rfl
  | cons c cs => exact (Bool.or_eq_false_iff.mp h).1

/-- What is left after blanks is the text itself, or a blank stands before it. -/
theorem Flags.dropBlanks_eq_cons {comment : Bool} {c : Char}
    (h : dropBlanks comment cs = c :: rest) :
    (comment = false ∧ cs = c :: rest) ∨
      ∃ b, Blank.isBlank b = true ∧ b :: c :: rest <:+ cs := by
  induction cs generalizing comment with
  | nil => cases h
  | cons x cs ih =>
    have later (comment : Bool) (hx : comment = false → Blank.isBlank x = true)
        (h : dropBlanks comment cs = c :: rest) :
        ∃ b, Blank.isBlank b = true ∧ b :: c :: rest <:+ x :: cs := by
      obtain ⟨hcomment, rfl⟩ | ⟨b, hb, hsuffix⟩ := ih h
      · exact ⟨x, hx hcomment, List.suffix_rfl⟩
      · exact ⟨b, hb, suffix_cons hsuffix⟩
    simp only [dropBlanks] at h
    split at h
    · -- a comment ends with its line
      refine .inr (later _ (fun hend => ?_) h)
      obtain rfl : x = '\n' := by simpa using hend
      rfl
    split at h
    · rename_i hblank
      exact .inr (later false (fun _ => hblank) h)
    split at h
    · exact .inr (later true (fun hend => by cases hend) h)
    · rename_i hcomment _ _
      exact .inl ⟨Bool.eq_false_iff.mpr hcomment, h⟩

theorem Plain.skip_ne_caret (h : Plain ('[' :: cs)) (f : Flags) (rest : List Char) :
    f.skip cs ≠ '^' :: rest := by
  intro hskip
  unfold Flags.skip at hskip
  split at hskip
  · obtain ⟨-, rfl⟩ | ⟨b, hb, hsuffix⟩ := Flags.dropBlanks_eq_cons hskip
    · cases h.not_ahead
    · have hahead := (h.tail.of_suffix hsuffix).not_ahead
      simp [complementAhead, hb] at hahead
  · subst hskip
    cases h.not_ahead

/-! ### Flags -/

variable {f : Flags}

/-- The same flags, but case does not count. -/
def Flags.caseless (f : Flags) : Flags := { f with ignoreCase := true }

theorem Flags.caseless_skip (f : Flags) : f.caseless.skip = f.skip := rfl

theorem Flags.fold_eq (hf : f.ignoreCase = false) (s : CodePoints) : f.fold s = s := by
  simp [fold, hf]

/-! Numbers, names and conditions do not depend on case. -/

theorem hexDigits?_caseless (f : Flags) (k n : ℕ) (cs : List Char) :
    hexDigits? f.caseless k n cs = hexDigits? f k n cs := by
  induction k generalizing n cs with
  | zero => rfl
  | succ k ih => cases cs <;> simp only [hexDigits?, Flags.caseless_skip, ih]

theorem braced?_caseless (f : Flags) (k : ℕ) (cs : List Char) :
    braced? f.caseless k cs = braced? f k cs := by
  induction k generalizing cs with
  | zero => rfl
  | succ k ih => simp only [braced?, Flags.caseless_skip, ih]

theorem hex?_caseless (f : Flags) (width : ℕ) (cs : List Char) :
    hex? f.caseless width cs = hex? f width cs := by
  simp only [hex?, Flags.caseless_skip, braced?_caseless, hexDigits?_caseless]

theorem scan_caseless (p : Char → Bool) (f : Flags) (k : ℕ) (cs : List Char) :
    scan p f.caseless k cs = scan p f k cs := by
  induction k generalizing cs with
  | zero => rfl
  | succ k ih => cases cs <;> simp only [scan, Flags.caseless_skip, ih]

theorem boundary?_caseless (f : Flags) (cs : List Char) :
    boundary? f.caseless cs = boundary? f cs := by
  have hunicode : f.caseless.unicode = f.unicode := rfl
  simp only [boundary?, Flags.caseless_skip, boundaryName_eq, scan_caseless, hunicode]

theorem counts?_caseless (f : Flags) (cs : List Char) :
    counts? f.caseless cs = counts? f cs := by
  simp only [counts?, count?, Flags.caseless_skip, countDigits_eq, scan_caseless]

theorem hyphens_caseless (f : Flags) (is : Items) (k : ℕ) (cs : List Char) :
    hyphens f.caseless is k cs = hyphens f is k cs := by
  induction k generalizing is cs with
  | zero => rfl
  | succ k ih =>
    unfold hyphens
    split
    · rfl
    · rename_i hk
      obtain rfl := Nat.succ.inj hk
      exact ih _ _
    · rfl

theorem opening_caseless (f : Flags) (cs : List Char) : opening f.caseless cs = opening f cs := by
  simp only [opening, Flags.caseless_skip, hyphens_caseless]

/-! ### Reading atoms -/

/-- Two atoms of one kind; if they are sets the second one is larger. -/
inductive Atom.Within : Atom → Atom → Prop where
  | char (c : Char) (byte : Bool) : Within (.char c byte) (.char c byte)
  | set {s t : CodePoints} (h : s ⊆ t) : Within (.set s) (.set t)
  | look (l : Look) : Within (.look l) (.look l)

theorem Atom.Within.refl (a : Atom) : a.Within a := by
  cases a with
  | char => exact .char _ _
  | set => exact .set (Subset.refl _)
  | look => exact .look _

theorem unicodeClass?_caseless (hf : f.ignoreCase = false) {name : List Char} {s : CodePoints}
    (h : unicodeClass? f false name = some s) :
    ∃ t, unicodeClass? f.caseless false name = some t ∧ s ⊆ t := by
  unfold unicodeClass? at h ⊢
  have hunicode : f.caseless.unicode = f.unicode := rfl
  rw [hunicode]
  split at h
  · rename_i hu
    obtain ⟨points, hpoints, h⟩ := Option.bind_eq_some_iff.mp h
    obtain rfl : f.fold points = s := by simpa [Flags.finish?] using h
    rw [Flags.fold_eq hf]
    refine ⟨f.caseless.fold points, ?_, f.caseless.subset_fold points⟩
    rw [if_pos hu, hpoints]
    rfl
  · cases h

theorem property?_caseless (hf : f.ignoreCase = false) {x : Atom}
    (h : property? f false cs = some (x, rest)) :
    ∃ y, property? f.caseless false cs = some (y, rest) ∧ x.Within y := by
  simp only [property?, Flags.caseless_skip, braced?_caseless] at h ⊢
  split at h
  · cases h
  · simp only [Option.bind_eq_bind, Option.bind_eq_some_iff] at h
    obtain ⟨⟨name, left⟩, hbraced, s, hs, heq⟩ := h
    obtain ⟨rfl, rfl⟩ := Prod.mk.inj (Option.some.inj heq)
    obtain ⟨t, ht, hst⟩ := unicodeClass?_caseless hf hs
    exact ⟨.set t, by simp [hbraced, ht], .set hst⟩
  · cases h
  · simp only [Option.bind_eq_bind, Option.bind_eq_some_iff] at h
    obtain ⟨s, hs, heq⟩ := h
    obtain ⟨rfl, rfl⟩ := Prod.mk.inj (Option.some.inj heq)
    obtain ⟨t, ht, hst⟩ := unicodeClass?_caseless hf hs
    exact ⟨.set t, by simp [ht], .set hst⟩

theorem escape?_caseless (hf : f.ignoreCase = false) (hcs : Plain ('\\' :: cs)) {x : Atom}
    (h : escape? f cs = some (x, rest)) :
    ∃ y, escape? f.caseless cs = some (y, rest) ∧ x.Within y := by
  cases cs with
  | nil => cases h
  | cons c cs =>
    by_cases hp : c = 'p'
    · subst hp
      exact property?_caseless hf h
    · -- only property classes are folded where they are read; of those `\P` is a complement
      have hp' : c ≠ 'P' := by
        rintro rfl
        cases hcs.not_ahead
      have hsame : escape? f.caseless (c :: cs) = escape? f (c :: cs) := by
        simp only [escape?, hp, hp', decide_false, Bool.or_self, Bool.false_eq_true, if_false,
          hex?_caseless, boundary?_caseless]
        rfl
      exact ⟨x, hsame.trans h, .refl x⟩

/-! ### Reading sets between brackets -/

theorem setAtom?_caseless (hf : f.ignoreCase = false) (hcs : Plain cs) {x : Atom}
    (h : setAtom? f cs = some (x, rest)) :
    ∃ y, setAtom? f.caseless cs = some (y, rest) ∧ x.Within y := by
  unfold setAtom? at h ⊢
  split at h
  · cases h
  · exact escape?_caseless hf hcs h
  · exact ⟨x, h, .refl x⟩

theorem Atom.Within.setChar?_eq {x y : Atom} (h : x.Within y) :
    setChar? f.caseless y = setChar? f x := by
  cases h <;> rfl

theorem Atom.Within.atomSet? {x y : Atom} (h : x.Within y) {s : CodePoints}
    (hs : Regex.atomSet? f x = some s) : ∃ t, Regex.atomSet? f.caseless y = some t ∧ s ⊆ t := by
  cases h with
  | char => exact ⟨s, hs, Subset.refl s⟩
  | set hst =>
    obtain rfl := Option.some.inj hs
    exact ⟨_, rfl, hst⟩
  | look => cases hs

theorem item?_caseless (hf : f.ignoreCase = false) (hcs : Plain cs) {s : CodePoints}
    (h : item? f cs = some (s, rest)) :
    ∃ t, item? f.caseless cs = some (t, rest) ∧ s ⊆ t := by
  simp only [item?, Option.bind_eq_bind, Option.bind_eq_some_iff] at h
  obtain ⟨⟨x, left⟩, hx, h⟩ := h
  obtain ⟨y, hy, hxy⟩ := setAtom?_caseless hf hcs hx
  have hleft : Plain (f.skip left) :=
    hcs.of_suffix ((f.skip_suffix left).trans (setAtom?_suffix hx))
  have hpeek : f.caseless.peek = f.peek := rfl
  simp only [item?, hy, Option.bind_eq_bind, Option.bind_some, Flags.caseless_skip, hpeek]
  dsimp only at h
  generalize f.skip left = skipped at h hleft
  split at h
  · cases h
  · rename_i after
    split at h
    · rename_i hmark
      rw [if_pos hmark]
      obtain ⟨s', hs', heq⟩ := Option.bind_eq_some_iff.mp h
      obtain ⟨rfl, rfl⟩ := Prod.mk.inj (Option.some.inj heq)
      obtain ⟨t, ht, hst⟩ := hxy.atomSet? hs'
      exact ⟨t, by rw [ht]; rfl, hst⟩
    · rename_i hmark
      rw [if_neg hmark]
      obtain ⟨⟨x', left'⟩, hx', h⟩ := Option.bind_eq_some_iff.mp h
      obtain ⟨first, hfirst, h⟩ := Option.bind_eq_some_iff.mp h
      obtain ⟨last, hlast, h⟩ := Option.bind_eq_some_iff.mp h
      obtain ⟨y', hy', hxy'⟩ :=
        setAtom?_caseless hf (hleft.tail.of_suffix (f.skip_suffix after)) hx'
      -- a range is given by two characters, which both readings read alike
      refine ⟨s, ?_, Subset.refl s⟩
      simpa only [hy', hxy.setChar?_eq, hxy'.setChar?_eq, hfirst, hlast, Option.bind_some] using h
  · obtain ⟨s', hs', heq⟩ := Option.bind_eq_some_iff.mp h
    obtain ⟨rfl, rfl⟩ := Prod.mk.inj (Option.some.inj heq)
    obtain ⟨t, ht, hst⟩ := hxy.atomSet? hs'
    exact ⟨t, by simp [ht], hst⟩

/-- Two sets that were read, the second one larger. -/
structure ReadSet.Within (s t : ReadSet) : Prop where
  set : s.set ⊆ t.set
  depth : t.depth = s.depth

/-- Items side by side, the second ones larger. -/
structure Items.Within (is js : Items) : Prop where
  set : is.set ⊆ js.set
  count : js.count = is.count
  depth : js.depth = is.depth

/-- Nothing, or two intersections of which the left sides have been read. -/
inductive Pending.Within : Pending → Pending → Prop where
  | none : Within none none
  | inter {s t : ReadSet} (h : s.Within t) : Within (some (.inter, s)) (some (.inter, t))

theorem Items.Within.refl (is : Items) : is.Within is := ⟨Subset.refl _, rfl, rfl⟩

theorem Items.Within.add {is js : Items} (h : is.Within js) {s t : CodePoints} (hst : s ⊆ t)
    (depth : ℕ) : (is.add s depth).Within (js.add t depth) where
  set := union_subset_union h.set hst
  count := congrArg (· + 1) h.count
  depth := congrArg (max · depth) h.depth

theorem Items.Within.read {is js : Items} (h : is.Within js) : is.read.Within js.read where
  set := h.set
  depth := by simp only [Items.read, h.count, h.depth]

theorem Pending.Within.closeOp (hf : f.ignoreCase = false) {p q : Pending} (h : p.Within q)
    {is js : Items} (his : is.Within js) :
    (Regex.closeOp f p is).Within (Regex.closeOp f.caseless q js) := by
  cases h with
  | none => exact his.read
  | inter hst =>
    refine ⟨?_, by simp only [Regex.closeOp, hst.depth, his.read.depth]⟩
    simp only [Regex.closeOp, SetOp.apply, Flags.fold_eq hf]
    exact inter_subset_inter (Subset.trans hst.set (f.caseless.subset_fold _))
      (Subset.trans his.read.set (f.caseless.subset_fold _))

theorem caret_fst {inner : List Char} (h : ∀ rest, inner ≠ '^' :: rest) :
    (caret inner).1 = false := by
  unfold caret
  split
  · exact absurd rfl (h _)
  · rfl

theorem Plain.opening_fst (h : Plain ('[' :: cs)) (f : Flags) : (opening f cs).1 = false := by
  have hcaret := caret_fst (h.skip_ne_caret f)
  unfold opening
  dsimp only
  split
  · split <;> exact hcaret
  · exact hcaret

theorem Plain.colonClass? (h : Plain ('[' :: cs)) {s : CodePoints} {negated : Bool}
    (hclass : colonClass? cs = some (s, negated, rest)) : negated = false := by
  unfold Regex.colonClass? at hclass
  split at hclass
  · rename_i inner
    split at hclass
    · obtain ⟨s', -, heq⟩ := Option.map_eq_some_iff.mp hclass
      obtain ⟨-, heq⟩ := Prod.mk.inj heq
      obtain ⟨rfl, -⟩ := Prod.mk.inj heq
      refine caret_fst ?_
      rintro _ rfl
      cases h.not_ahead
    · cases hclass
  · cases hclass

theorem Plain.setOp? (h : Plain cs) {op : SetOp} (hop : setOp? cs = some (op, rest)) :
    op = .inter := by
  unfold Regex.setOp? at hop
  split at hop
  · exact (Prod.mk.inj (Option.some.inj hop)).1.symm
  · cases h.not_ahead
  · cases h.not_ahead
  · cases hop

theorem sets_caseless (hf : f.ignoreCase = false) (fuel : ℕ) :
    (∀ {cs rest s}, Plain ('[' :: cs) → bracket? f fuel cs = some (s, rest) →
        ∃ t, bracket? f.caseless fuel cs = some (t, rest) ∧ s.Within t) ∧
      ∀ {p q is js cs rest s}, Plain cs → Pending.Within p q → Items.Within is js →
        items? f fuel false p is cs = some (s, rest) →
          ∃ t, items? f.caseless fuel false q js cs = some (t, rest) ∧ s.Within t := by
  -- brackets and items call each other, always with less fuel
  induction fuel with
  | zero => simp [bracket?, items?]
  | succ fuel ih =>
    constructor
    · intro cs rest s hcs h
      simp only [bracket?, opening_caseless, hcs.opening_fst f] at h ⊢
      exact ih.2 (hcs.tail.of_suffix (opening_suffix f cs)) .none (.refl _) h
    · intro p q is js cs rest s hcs hpq his h
      have hskip : Plain (f.skip cs) := hcs.of_suffix (f.skip_suffix cs)
      simp only [items?, Flags.caseless_skip] at h ⊢
      generalize f.skip cs = skipped at h hskip
      split at h
      · cases h
      · obtain ⟨s', hs', heq⟩ := Option.map_eq_some_iff.mp h
        obtain ⟨rfl, rfl⟩ := Prod.mk.inj heq
        have hclose := hpq.closeOp hf his
        obtain rfl := Option.some.inj hs'
        -- the closing bracket folds the whole set once more
        refine ⟨_, rfl, ?_, congrArg (· + 1) hclose.depth⟩
        rw [Flags.fold_eq hf]
        exact Subset.trans hclose.set (f.caseless.subset_fold _)
      · rename_i inner
        split at h
        · rename_i s' negated left hclass
          obtain rfl := hskip.colonClass? hclass
          obtain ⟨s'', hs'', h⟩ := Option.bind_eq_some_iff.mp h
          obtain rfl := Option.some.inj hs''
          rw [Flags.fold_eq hf] at h
          exact ih.2 (hskip.tail.of_suffix (colonClass?_suffix hclass)) hpq
            (his.add (f.caseless.subset_fold s') 0) h
        · obtain ⟨⟨set, left⟩, hset, h⟩ := Option.bind_eq_some_iff.mp h
          obtain ⟨t, ht, hst⟩ := ih.1 hskip hset
          rw [ht]
          have hadd := his.add hst.set set.depth
          rw [← hst.depth] at hadd h
          exact ih.2 (hskip.tail.of_suffix (bracket?_suffix hset)) hpq hadd h
      · split at h
        · rename_i op left hop
          obtain rfl := hskip.setOp? hop
          exact ih.2 (hskip.of_suffix (setOp?_suffix hop)) (.inter (hpq.closeOp hf his)) (.refl _) h
        · obtain ⟨⟨s', left⟩, hitem, h⟩ := Option.bind_eq_some_iff.mp h
          obtain ⟨t, ht, hst⟩ := item?_caseless hf hskip hitem
          rw [ht]
          exact ih.2 (hskip.of_suffix (item?_suffix hitem)) hpq (his.add hst 0) h

end Regex

end Switchboard
