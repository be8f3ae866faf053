import Switchboard.Proofs.Caseless
import Switchboard.Proofs.Items

/-!
# Patterns that are read without regard to case

The two readings of a pattern, with and without regard to case, run side by side:
`Reading.Within` says how they are related between two items. The flags in force are those that the
pattern has set, so they may be the same in both readings by then (`Flags.Within`). Every step of
the reader has a lemma that the two are related again after it.

Main statement: `parse?_within`. A pattern that asks for no complement has the same shape in both
readings, and larger sets in the second one.
-/

namespace Switchboard

namespace Regex

open CodePoints

variable {a : Regex} {f : Flags} {cs rest : List Char}

/-! ### Flags in force -/

/-- Flags of two readings, the second of which may be without regard to case where the first one is
not. -/
inductive Flags.Within : Flags → Flags → Prop where
  | same (f : Flags) : Within f f
  | caseless {f : Flags} (hf : f.ignoreCase = false) : Within f f.caseless

theorem Flags.Within.skip_eq {g : Flags} (h : f.Within g) : g.skip = f.skip := by
  cases h <;> rfl

theorem Flags.Within.startLook_eq {g : Flags} (h : f.Within g) : startLook g = startLook f := by
  cases h <;> rfl

theorem Flags.Within.endLook_eq {g : Flags} (h : f.Within g) : endLook g = endLook f := by
  cases h <;> rfl

/-- A letter for another flag leaves it as it is whether case counts. -/
theorem Flags.switch?_caseless {c : Char} (hc : c ≠ 'i') (on : Bool) :
    f.caseless.switch? on c = (f.switch? on c).map Flags.caseless ∧
      ∀ f', f.switch? on c = some f' → f'.ignoreCase = f.ignoreCase := by
  unfold Flags.switch?
  rw [if_neg hc, if_neg hc]
  split_ifs <;> exact ⟨rfl, by rintro _ ⟨⟩ <;> rfl⟩

theorem Flags.Within.switch? {g f' : Flags} (h : f.Within g) {on : Bool} {c : Char}
    (hf : Flags.switch? f on c = some f') :
    ∃ g', Flags.switch? g on c = some g' ∧ f'.Within g' := by
  cases h with
  | same => exact ⟨f', hf, .same f'⟩
  | caseless hcase =>
    by_cases hc : c = 'i'
    · subst hc
      obtain rfl := Option.some.inj hf
      -- the pattern has said itself whether case counts: from here on the flags are the same
      exact ⟨_, rfl, .same _⟩
    · obtain ⟨hmap, hkeep⟩ := Flags.switch?_caseless (f := f) hc on
      exact ⟨f'.caseless, by rw [hmap, hf]; rfl, .caseless ((hkeep f' hf).trans hcase)⟩

theorem flags?_within {g f' : Flags} {seen : List Char} {negated dangling : Bool}
    (hfg : f.Within g) (h : flags? f seen negated dangling cs = some (f', rest)) :
    ∃ g', flags? g seen negated dangling cs = some (g', rest) ∧ f'.Within g' := by
  induction cs generalizing f g seen negated dangling with
  | nil => cases h
  | cons c cs ih =>
    simp only [flags?] at h ⊢
    split
    · rename_i hc
      rw [if_pos hc] at h
      split at h
      · cases h
      · rename_i hdangling
        obtain ⟨rfl, rfl⟩ := Prod.mk.inj (Option.some.inj h)
        exact ⟨g, if_neg hdangling, hfg⟩
    rename_i hc
    rw [if_neg hc] at h
    split
    · rename_i hc
      rw [if_pos hc] at h
      split at h
      · cases h
      · rename_i hnegated
        rw [if_neg hnegated]
        exact ih hfg h
    rename_i hc
    rw [if_neg hc] at h
    split
    · rename_i hseen
      rw [if_pos hseen] at h
      cases h
    rename_i hseen
    rw [if_neg hseen] at h
    split at h
    · rename_i f₁ hf₁
      obtain ⟨g₁, hg₁, hfg₁⟩ := hfg.switch? hf₁
      rw [hg₁]
      exact ih hfg₁ h
    · cases h

/-! ### Leaves -/

theorem Within.refl (h : a.Bounded) : a.Within a := by
  induction a with
  | empty => exact .empty
  | set s => exact .set (Subset.refl s)
  | look l => exact .look l
  | group a ih => exact .group (ih h)
  | cat a b iha ihb => exact .cat (iha h.1) (ihb h.2)
  | alt a b iha ihb => exact .alt (iha h.1) (ihb h.2)
  | rep a least greatest ih => exact .rep (ih h.1) h.2

theorem escape?_within {g : Flags} (hfg : f.Within g) (hcs : Plain ('\\' :: cs)) {x : Atom}
    (h : escape? f cs = some (x, rest)) :
    ∃ y, escape? g cs = some (y, rest) ∧ x.Within y := by
  cases hfg with
  | same => exact ⟨x, h, .refl x⟩
  | caseless hf => exact escape?_caseless hf hcs h

theorem bracket?_within {g : Flags} (hfg : f.Within g) (hcs : Plain ('[' :: cs)) {fuel : ℕ}
    {s : ReadSet} (h : bracket? f fuel cs = some (s, rest)) :
    ∃ t, bracket? g fuel cs = some (t, rest) ∧ s.Within t := by
  cases hfg with
  | same => exact ⟨s, h, Subset.refl _, rfl⟩
  | caseless hf => exact (sets_caseless hf fuel).1 hcs h

theorem literal?_caseless (hf : f.ignoreCase = false) {c : Char} {byte : Bool} {x : Regex}
    (h : literal? f c byte = some x) :
    ∃ t, literal? f.caseless c byte = some (.set t) ∧ x = char c ∧ single c.toNat ⊆ t := by
  have hfolded : single c.toNat ⊆ f.caseless.fold (single c.toNat) := f.caseless.subset_fold _
  have hunicode : f.caseless.unicode = f.unicode := rfl
  simp only [literal?, hf, hunicode, Flags.fold_eq hf, Bool.false_and, Bool.false_eq_true,
    if_false] at h ⊢
  split at h
  · rename_i hu
    rw [if_pos hu]
    obtain rfl := Option.some.inj h
    split
    · exact ⟨_, rfl, rfl, hfolded⟩
    · exact ⟨_, rfl, rfl, Subset.refl _⟩
  rename_i hu
  rw [if_neg hu]
  split at h
  · cases h
  rename_i hbyte
  rw [if_neg hbyte]
  split at h
  · rename_i hascii
    obtain rfl := Option.some.inj h
    rw [if_pos hascii]
    exact ⟨_, rfl, rfl, hfolded⟩
  · rename_i hascii
    obtain rfl := Option.some.inj h
    rw [if_neg hascii]
    exact ⟨_, rfl, rfl, Subset.refl _⟩

theorem literal?_within {g : Flags} (hfg : f.Within g) {c : Char} {byte : Bool} {x : Regex}
    (h : literal? f c byte = some x) : ∃ y, literal? g c byte = some y ∧ x.Within y := by
  cases hfg with
  | same => exact ⟨x, h, .refl (literal?_bounded h)⟩
  | caseless hf =>
    obtain ⟨t, ht, rfl, hst⟩ := literal?_caseless hf h
    exact ⟨_, ht, .set hst⟩

theorem atom?_within {g : Flags} (hfg : f.Within g) {x y : Atom} (hxy : x.Within y) {r : Regex}
    (h : atom? f x = some r) : ∃ r', atom? g y = some r' ∧ r.Within r' := by
  cases hxy with
  | char c byte => exact literal?_within hfg h
  | set hst =>
    obtain rfl := Option.some.inj h
    exact ⟨_, rfl, .set hst⟩
  | look l =>
    obtain rfl := Option.some.inj h
    exact ⟨_, rfl, .look l⟩

theorem dot?_within {g : Flags} (hfg : f.Within g) {x : Regex} (h : dot? f = some x) :
    ∃ y, dot? g = some y ∧ x.Within y := by
  have hsame : dot? g = dot? f := by cases hfg <;> rfl
  refine ⟨x, hsame.trans h, .refl ?_⟩
  unfold dot? at h
  dsimp only at h
  split_ifs at h <;> obtain rfl := Option.some.inj h <;> trivial

/-! ### Parts and groups -/

/-- Two parts of one shape. -/
structure Part.Within (p q : Part) : Prop where
  regex : p.regex.Within q.regex
  depth : q.depth = p.depth
  repeatable : q.repeatable = p.repeatable

/-- Two groups of the same shape that are still open. -/
structure Branches.Within (b b' : Branches) : Prop where
  done : List.Forall₂ Part.Within b.done b'.done
  items : List.Forall₂ Part.Within b.items b'.items

/-- Two groups of the same shape around the present ones. -/
structure Frame.Within (x y : Frame) : Prop where
  outer : x.outer.Within y.outer
  flags : x.flags.Within y.flags
  remembers : y.remembers = x.remembers

/-- Two readings that are at the same point. -/
structure Reading.Within (r r' : Reading) : Prop where
  flags : r.flags.Within r'.flags
  branches : r.branches.Within r'.branches
  frames : List.Forall₂ Frame.Within r.frames r'.frames
  names : r'.names = r.names

theorem maxDepth_eq {ps qs : List Part} (h : List.Forall₂ Part.Within ps qs) :
    maxDepth qs = maxDepth ps := by
  unfold maxDepth
  -- for any start of the fold, as the induction needs it
  generalize 0 = d
  induction h generalizing d with
  | nil => rfl
  | cons hpq _ ih => rw [List.foldl_cons, List.foldl_cons, hpq.depth, ih]

theorem regexes_within {ps qs : List Part} (h : List.Forall₂ Part.Within ps qs) :
    List.Forall₂ Within (ps.map (·.regex)) (qs.map (·.regex)) :=
  List.forall₂_map_left_iff.mpr (List.forall₂_map_right_iff.mpr (h.imp fun _ _ => (·.regex)))

theorem joinItems_within {ps qs : List Part} (h : List.Forall₂ Part.Within ps qs) :
    (joinItems ps).Within (joinItems qs) := by
  have hrev := List.rel_reverse h
  unfold joinItems
  generalize ps.reverse = ps' at hrev
  generalize qs.reverse = qs' at hrev
  have hdepth := maxDepth_eq hrev
  have hcats := Within.cats (regexes_within hrev)
  cases hrev with
  | nil => exact ⟨.empty, rfl, rfl⟩
  | cons hpq hrest =>
    cases hrest with
    | nil => exact hpq
    | cons => exact ⟨hcats, congrArg (· + 1) hdepth, rfl⟩

theorem Branches.Within.join {b b' : Branches} (h : b.Within b') :
    (joinBranches b).Within (joinBranches b') := by
  have hrev := List.rel_reverse (List.Forall₂.cons (joinItems_within h.items) h.done)
  unfold joinBranches
  generalize (joinItems b.items :: b.done).reverse = ps at hrev
  generalize (joinItems b'.items :: b'.done).reverse = qs at hrev
  have hdepth := maxDepth_eq hrev
  have halts := Within.alts (regexes_within hrev)
  cases hrev with
  | nil => exact ⟨.empty, rfl, rfl⟩
  | cons hpq hrest =>
    cases hrest with
    | nil => exact hpq
    | cons => exact ⟨halts, congrArg (· + 1) hdepth, rfl⟩

namespace Reading.Within

variable {r r' q : Reading}

theorem push (h : r.Within r') {x y : Part} (hxy : x.Within y) :
    (r.push x).Within (r'.push y) where
  flags := h.flags
  branches := ⟨h.branches.done, .cons hxy h.branches.items⟩
  frames := h.frames
  names := h.names

theorem pushLeaf (h : r.Within r') {x y : Regex} (hxy : x.Within y) :
    (r.pushLeaf x).Within (r'.pushLeaf y) :=
  h.push ⟨hxy, rfl, rfl⟩

theorem bar (h : r.Within r') : r.bar.Within r'.bar where
  flags := h.flags
  branches := ⟨.cons (joinItems_within h.branches.items) h.branches.done, .nil⟩
  frames := h.frames
  names := h.names

theorem open_ (h : r.Within r') {f g : Flags} (hfg : f.Within g) (remembers : Bool) :
    (r.open_ f remembers).Within (r'.open_ g remembers) where
  flags := hfg
  branches := ⟨.nil, .nil⟩
  frames := .cons ⟨h.branches, h.flags, rfl⟩ h.frames
  names := h.names

theorem close? (h : r.Within r') (hq : r.close? = some q) :
    ∃ q', r'.close? = some q' ∧ q.Within q' := by
  have hinner := h.branches.join
  have hframes := h.frames
  unfold Reading.close? at hq ⊢
  generalize r.frames = fs at hq hframes
  generalize r'.frames = fs' at hframes
  cases hframes with
  | nil => cases hq
  | cons hframe hframes =>
    obtain rfl := Option.some.inj hq
    refine ⟨_, rfl, hframe.flags, ⟨hframe.outer.done, .cons ⟨?_, congrArg (· + 1) hinner.depth, rfl⟩
      hframe.outer.items⟩, hframes, h.names⟩
    dsimp only
    rw [hframe.remembers]
    split
    · exact .group hinner.regex
    · exact hinner.regex

theorem repeat_? (h : r.Within r') {least : ℕ} {greatest : Option ℕ}
    (bounds : ∀ m, greatest = some m → least ≤ m) (hq : r.repeat_? least greatest = some q) :
    ∃ q', r'.repeat_? least greatest = some q' ∧ q.Within q' := by
  have hitems := h.branches.items
  unfold Reading.repeat_? at hq ⊢
  generalize r.branches.items = ps at hq hitems
  generalize r'.branches.items = ps' at hitems
  cases hitems with
  | nil => cases hq
  | cons hp hps =>
    dsimp only at hq ⊢
    rw [hp.repeatable]
    split at hq
    · rename_i hrepeatable
      rw [if_pos hrepeatable]
      obtain rfl := Option.some.inj hq
      exact ⟨_, rfl, h.flags, ⟨h.branches.done, .cons
        ⟨.rep hp.regex bounds, congrArg (· + 1) hp.depth, rfl⟩ hps⟩, h.frames, h.names⟩
    · cases hq

theorem namedGroup? (h : r.Within r') (hq : Regex.namedGroup? r cs = some (q, rest)) :
    ∃ q', Regex.namedGroup? r' cs = some (q', rest) ∧ q.Within q' := by
  unfold Regex.namedGroup? at hq ⊢
  rw [h.names]
  split at hq
  · rename_i name _ _
    have hnamed : Reading.Within { r with names := name :: r.names }
        { r' with names := name :: r.names } := ⟨h.flags, h.branches, h.frames, rfl⟩
    split at hq
    · cases hq
    · rename_i hname
      obtain ⟨rfl, rfl⟩ := Prod.mk.inj (Option.some.inj hq)
      exact ⟨_, if_neg hname, hnamed.open_ h.flags true⟩
  · cases hq

theorem flagGroup? (h : r.Within r') (hq : Regex.flagGroup? r cs = some (q, rest)) :
    ∃ q', Regex.flagGroup? r' cs = some (q', rest) ∧ q.Within q' := by
  unfold Regex.flagGroup? at hq ⊢
  split at hq
  · rename_i hflags
    obtain ⟨rfl, rfl⟩ := Prod.mk.inj (Option.some.inj hq)
    obtain ⟨g, hg, hfg⟩ := flags?_within h.flags hflags
    rw [hg]
    exact ⟨_, rfl, h.open_ hfg false⟩
  · rename_i hflags
    obtain ⟨g, hg, hfg⟩ := flags?_within h.flags hflags
    rw [hg]
    split at hq
    · cases hq
    · rename_i hhead
      obtain ⟨rfl, rfl⟩ := Prod.mk.inj (Option.some.inj hq)
      refine ⟨_, if_neg hhead, ?_⟩
      have hpush := h.push (x := { regex := .empty, repeatable := false })
        (y := { regex := .empty, repeatable := false }) ⟨.empty, rfl, rfl⟩
      exact ⟨hfg, hpush.branches, hpush.frames, hpush.names⟩
  · cases hq

theorem group? (h : r.Within r') (hq : Regex.group? r cs = some (q, rest)) :
    ∃ q', Regex.group? r' cs = some (q', rest) ∧ q.Within q' := by
  unfold Regex.group? at hq ⊢
  rw [h.flags.skip_eq]
  split at hq
  · cases hq
  · cases hq
  · cases hq
  · cases hq
  · exact h.namedGroup? hq
  · exact h.namedGroup? hq
  · exact h.flagGroup? hq
  · obtain ⟨rfl, rfl⟩ := Prod.mk.inj (Option.some.inj hq)
    exact ⟨_, rfl, h.open_ h.flags true⟩

/-- The last item is repeated, and a mark of a lazy repetition is dropped. -/
theorem again (h : r.Within r') {least : ℕ} {greatest : Option ℕ}
    (bounds : ∀ m, greatest = some m → least ≤ m)
    (hq : (r.repeat_? least greatest).map (fun r => (r, dropLazy cs)) = some (q, rest)) :
    rest <:+ cs ∧ ∃ q', (r'.repeat_? least greatest).map (fun r => (r, dropLazy cs)) =
      some (q', rest) ∧ q.Within q' := by
  obtain ⟨q₁, hrepeat, heq⟩ := Option.map_eq_some_iff.mp hq
  obtain ⟨rfl, rfl⟩ := Prod.mk.inj heq
  obtain ⟨q', hq', hwithin⟩ := h.repeat_? bounds hrepeat
  exact ⟨dropLazy_suffix cs, q', by rw [hq']; rfl, hwithin⟩

/-- An item that is a character, a set or a condition. -/
theorem leaf (h : r.Within r') {x y : Regex} (hxy : x.Within y)
    (hq : some (r.pushLeaf x, cs) = some (q, rest)) :
    rest = cs ∧ ∃ q', some (r'.pushLeaf y, cs) = some (q', rest) ∧ q.Within q' := by
  obtain ⟨rfl, rfl⟩ := Prod.mk.inj (Option.some.inj hq)
  exact ⟨rfl, _, rfl, h.pushLeaf hxy⟩

end Reading.Within

/-! ### Patterns -/

theorem counts?_within {g : Flags} (hfg : f.Within g) (cs : List Char) :
    counts? g cs = counts? f cs := by
  cases hfg with
  | same => rfl
  | caseless => exact counts?_caseless f cs

/-- After an item both readings are at the same point again. -/
theorem read?_within {r r' q : Reading} (hr : r.Within r') {c : Char} (hcs : Plain (c :: cs))
    (h : read? r c cs = some (q, rest)) :
    rest <:+ cs ∧ ∃ q', read? r' c cs = some (q', rest) ∧ q.Within q' := by
  have hflags := hr.flags
  have once {x y : Regex} (hxy : x.Within y) (h : some (r.pushLeaf x, cs) = some (q, rest)) :
      rest <:+ cs ∧ ∃ q', some (r'.pushLeaf y, cs) = some (q', rest) ∧ q.Within q' := by
    obtain ⟨rfl, hq⟩ := hr.leaf hxy h
    exact ⟨List.suffix_rfl, hq⟩
  have found {x : Option Regex} {y : Option Regex}
      (hxy : ∀ z, x = some z → ∃ z', y = some z' ∧ z.Within z')
      (h : x.map (fun z => (r.pushLeaf z, cs)) = some (q, rest)) :
      rest <:+ cs ∧ ∃ q', y.map (fun z => (r'.pushLeaf z, cs)) = some (q', rest) ∧ q.Within q' := by
    obtain ⟨z, hx, heq⟩ := Option.map_eq_some_iff.mp h
    obtain ⟨z', rfl, hz⟩ := hxy z hx
    exact once hz (congrArg some heq)
  unfold read? at h ⊢
  dsimp only at h ⊢
  -- in the order in which the reader asks for the first character
  by_cases hc : c = '('
  · rw [if_pos hc] at h ⊢
    exact ⟨group?_suffix h, hr.group? h⟩
  rw [if_neg hc] at h ⊢
  by_cases hc : c = ')'
  · rw [if_pos hc] at h ⊢
    obtain ⟨q₁, hclose, heq⟩ := Option.map_eq_some_iff.mp h
    obtain ⟨rfl, rfl⟩ := Prod.mk.inj heq
    obtain ⟨q', hq', hwithin⟩ := hr.close? hclose
    exact ⟨List.suffix_rfl, q', by rw [hq']; rfl, hwithin⟩
  rw [if_neg hc] at h ⊢
  by_cases hc : c = '|'
  · rw [if_pos hc] at h ⊢
    obtain ⟨rfl, rfl⟩ := Prod.mk.inj (Option.some.inj h)
    exact ⟨List.suffix_rfl, _, rfl, hr.bar⟩
  rw [if_neg hc] at h ⊢
  by_cases hc : c = '['
  · rw [if_pos hc] at h ⊢
    subst hc
    obtain ⟨⟨s, left⟩, hset, heq⟩ := Option.map_eq_some_iff.mp h
    obtain ⟨rfl, rfl⟩ := Prod.mk.inj heq
    obtain ⟨t, ht, hst⟩ := bracket?_within hflags hcs hset
    exact ⟨bracket?_suffix hset, r'.push { regex := .set t.set, depth := t.depth },
      by rw [ht]; rfl, hr.push ⟨.set hst.set, hst.depth, rfl⟩⟩
  rw [if_neg hc] at h ⊢
  by_cases hc : c = '?'
  · rw [if_pos hc] at h ⊢
    exact hr.again (by rintro _ ⟨⟩; exact Nat.zero_le 1) h
  rw [if_neg hc] at h ⊢
  by_cases hc : c = '*'
  · rw [if_pos hc] at h ⊢
    exact hr.again nofun h
  rw [if_neg hc] at h ⊢
  by_cases hc : c = '+'
  · rw [if_pos hc] at h ⊢
    exact hr.again nofun h
  rw [if_neg hc] at h ⊢
  by_cases hc : c = '\x7b'
  · rw [if_pos hc] at h ⊢
    obtain ⟨⟨least, greatest, left⟩, hcounts, h⟩ := Option.bind_eq_some_iff.mp h
    rw [counts?_within hflags, hcounts, hflags.skip_eq]
    obtain ⟨hrest, hq⟩ := hr.again (counts?_bounds hcounts) h
    exact ⟨hrest.trans ((r.flags.skip_suffix left).trans (counts?_suffix hcounts)), hq⟩
  rw [if_neg hc] at h ⊢
  by_cases hc : c = '\\'
  · rw [if_pos hc] at h ⊢
    subst hc
    obtain ⟨⟨x, left⟩, hescape, h⟩ := Option.bind_eq_some_iff.mp h
    obtain ⟨z, hz, heq⟩ := Option.bind_eq_some_iff.mp h
    obtain ⟨y, hy, hxy⟩ := escape?_within hflags hcs hescape
    obtain ⟨z', hz', hzz⟩ := atom?_within hflags hxy hz
    obtain ⟨rfl, hq⟩ := hr.leaf hzz heq
    exact ⟨escape?_suffix hescape, by simpa [hy, hz'] using hq⟩
  rw [if_neg hc] at h ⊢
  by_cases hc : c = '.'
  · rw [if_pos hc] at h ⊢
    exact found (fun _ => dot?_within hflags) h
  rw [if_neg hc] at h ⊢
  by_cases hc : c = '^'
  · rw [if_pos hc] at h ⊢
    rw [hflags.startLook_eq]
    exact once (.look _) h
  rw [if_neg hc] at h ⊢
  by_cases hc : c = '$'
  · rw [if_pos hc] at h ⊢
    rw [hflags.endLook_eq]
    exact once (.look _) h
  rw [if_neg hc] at h ⊢
  exact found (fun _ => literal?_within hflags) h

theorem readAll?_within {fuel : ℕ} {r r' q : Reading} (hr : r.Within r') (hcs : Plain cs)
    (h : readAll? fuel r cs = some q) : ∃ q', readAll? fuel r' cs = some q' ∧ q.Within q' := by
  induction fuel generalizing r r' cs with
  | zero =>
    unfold readAll? at h ⊢
    rw [hr.flags.skip_eq]
    generalize r.flags.skip cs = skipped at h
    cases skipped with
    | nil =>
      obtain rfl := Option.some.inj h
      exact ⟨r', rfl, hr⟩
    | cons => cases h
  | succ fuel ih =>
    have hskip : Plain (r.flags.skip cs) := hcs.of_suffix (r.flags.skip_suffix cs)
    unfold readAll? at h ⊢
    rw [hr.flags.skip_eq]
    generalize r.flags.skip cs = skipped at h hskip
    cases skipped with
    | nil =>
      obtain rfl := Option.some.inj h
      exact ⟨r', rfl, hr⟩
    | cons c skipped =>
      obtain ⟨⟨r₁, left⟩, hread, h⟩ := Option.bind_eq_some_iff.mp h
      obtain ⟨hleft, r₁', hread', hr₁⟩ := read?_within hr hskip hread
      obtain ⟨q', hq', hq⟩ := ih hr₁ (hskip.tail.of_suffix hleft) h
      exact ⟨q', by simp [hread', hq'], hq⟩

/-- A pattern that asks for no complement and can be read can be read without regard to case, and
has larger sets then. -/
theorem parse?_within {pattern : String} (hp : Plain pattern.toList)
    (h : parse? false pattern = some a) : ∃ a', parse? true pattern = some a' ∧ a.Within a' := by
  have hinit : Reading.Within { flags := { ignoreCase := false } }
      { flags := { ignoreCase := true } } := ⟨.caseless rfl, ⟨.nil, .nil⟩, .nil, rfl⟩
  unfold parse? at h ⊢
  dsimp only at h ⊢
  split at h
  · rename_i r hr
    obtain ⟨r', hr', hwithin⟩ := readAll?_within hinit hp hr
    have hwhole := hwithin.branches.join
    have hframes : r'.frames.isEmpty = r.frames.isEmpty := by
      rw [Bool.eq_iff_iff, List.isEmpty_iff_length_eq_zero, List.isEmpty_iff_length_eq_zero,
        hwithin.frames.length_eq]
    rw [hr']
    dsimp only
    split at h
    · rename_i hclosed
      obtain rfl := Option.some.inj h
      rw [hframes, hwhole.depth, if_pos hclosed]
      exact ⟨_, rfl, hwhole.regex⟩
    · cases h
  · cases h

end Regex

end Switchboard
