import Mathlib.Tactic
import Switchboard.Regex.Reader

/-!
# What readers leave

Everything that reads a part of a pattern leaves the end of the text that it was given, untouched.
There is one lemma for each reader, in the order of their definitions; the flags do not matter.
-/

namespace Switchboard

namespace Regex

variable {f : Flags} {cs rest : List Char}

theorem suffix_cons {c : Char} (h : rest <:+ cs) : rest <:+ c :: cs :=
  h.trans (List.suffix_cons c cs)

theorem suffix_of_cons {c : Char} (h : c :: rest <:+ cs) : rest <:+ cs :=
  (List.suffix_cons c rest).trans h

/-! ### Blanks -/

theorem Flags.dropBlanks_suffix (comment : Bool) (cs : List Char) :
    dropBlanks comment cs <:+ cs := by
  induction cs generalizing comment with
  | nil => exact List.suffix_rfl
  | cons c rest ih =>
    simp only [dropBlanks]
    split
    · exact suffix_cons (ih _)
    · split
      · exact suffix_cons (ih _)
      · split
        · exact suffix_cons (ih _)
        · exact List.suffix_rfl

theorem Flags.skip_suffix (f : Flags) (cs : List Char) : f.skip cs <:+ cs := by
  unfold skip
  split
  · exact dropBlanks_suffix false cs
  · exact List.suffix_rfl

theorem suffix_of_skip_eq {c : Char} (h : f.skip cs = c :: rest) : rest <:+ cs :=
  suffix_of_cons (h ▸ f.skip_suffix cs)

/-! ### Escapes -/

theorem hexDigits?_suffix {k n m : ℕ} (h : hexDigits? f k n cs = some (m, rest)) :
    rest <:+ cs := by
  induction k generalizing n cs with
  | zero =>
    obtain ⟨-, rfl⟩ := Prod.mk.inj (Option.some.inj h)
    exact List.suffix_rfl
  | succ k ih =>
    cases cs with
    | nil => cases h
    | cons c cs =>
      simp only [hexDigits?] at h
      split at h
      · exact suffix_cons ((ih h).trans (f.skip_suffix cs))
      · cases h

theorem braced?_suffix {k : ℕ} {name : List Char} (h : braced? f k cs = some (name, rest)) :
    rest <:+ cs := by
  induction k generalizing cs name with
  | zero => cases h
  | succ k ih =>
    simp only [braced?] at h
    split at h
    · cases h
    · rename_i hskip
      obtain ⟨-, rfl⟩ := Prod.mk.inj (Option.some.inj h)
      exact suffix_of_skip_eq hskip
    · rename_i hskip
      obtain ⟨⟨name', rest'⟩, hbraced, heq⟩ := Option.map_eq_some_iff.mp h
      obtain ⟨-, rfl⟩ := Prod.mk.inj heq
      exact (ih hbraced).trans (suffix_of_skip_eq hskip)

theorem hex?_suffix {width : ℕ} {a : Atom} (h : hex? f width cs = some (a, rest)) :
    rest <:+ cs := by
  unfold hex? at h
  split at h
  · rename_i hskip
    simp only [Option.bind_eq_bind, Option.bind_eq_some_iff] at h
    obtain ⟨⟨ds, rest'⟩, hbraced, n, -, c, -, heq⟩ := h
    obtain ⟨-, rfl⟩ := Prod.mk.inj (Option.some.inj heq)
    exact (f.skip_suffix rest').trans ((braced?_suffix hbraced).trans (suffix_of_skip_eq hskip))
  · simp only [Option.bind_eq_bind, Option.bind_eq_some_iff] at h
    obtain ⟨⟨n, rest'⟩, hdigits, c, -, heq⟩ := h
    obtain ⟨-, rfl⟩ := Prod.mk.inj (Option.some.inj heq)
    exact (hexDigits?_suffix hdigits).trans (f.skip_suffix cs)

theorem property?_suffix {negated : Bool} {a : Atom}
    (h : property? f negated cs = some (a, rest)) : rest <:+ cs := by
  unfold property? at h
  split at h
  · cases h
  · rename_i hskip
    simp only [Option.bind_eq_bind, Option.bind_eq_some_iff] at h
    obtain ⟨⟨name, rest'⟩, hbraced, s, -, heq⟩ := h
    obtain ⟨-, rfl⟩ := Prod.mk.inj (Option.some.inj heq)
    exact (braced?_suffix hbraced).trans (suffix_of_skip_eq hskip)
  · cases h
  · rename_i hskip
    simp only [Option.bind_eq_bind, Option.bind_eq_some_iff] at h
    obtain ⟨s, -, heq⟩ := h
    obtain ⟨-, rfl⟩ := Prod.mk.inj (Option.some.inj heq)
    exact (f.skip_suffix _).trans (suffix_of_skip_eq hskip)

/-- The characters of a kind at the beginning of a text, those that do not count left out: what
names of word boundaries and numbers have in common. -/
def scan (p : Char → Bool) (f : Flags) : ℕ → List Char → List Char × List Char
  | 0, cs => ([], cs)
  | _ + 1, [] => ([], [])
  | k + 1, c :: rest =>
    if p c then (c :: (scan p f k (f.skip rest)).1, (scan p f k (f.skip rest)).2)
    else ([], c :: rest)

theorem scan_suffix (p : Char → Bool) (k : ℕ) (cs : List Char) : (scan p f k cs).2 <:+ cs := by
  induction k generalizing cs with
  | zero => exact List.suffix_rfl
  | succ k ih =>
    cases cs with
    | nil => exact List.suffix_rfl
    | cons c cs =>
      simp only [scan]
      split
      · exact suffix_cons ((ih _).trans (f.skip_suffix cs))
      · exact List.suffix_rfl

theorem boundaryName_eq (k : ℕ) (cs : List Char) :
    boundaryName f k cs = scan isBoundaryChar f k cs := by
  induction k generalizing cs with
  | zero => rfl
  | succ k ih =>
    cases cs with
    | nil => rfl
    | cons c cs => simp only [boundaryName, scan, ih]

theorem boundaryName_suffix (k : ℕ) (cs : List Char) : (boundaryName f k cs).2 <:+ cs := by
  rw [boundaryName_eq]
  exact scan_suffix _ k cs

theorem boundary?_suffix {a : Atom} (h : boundary? f cs = some (a, rest)) : rest <:+ cs := by
  have none_left {l : Look} (h : some (Atom.look l, cs) = some (a, rest)) : rest <:+ cs := by
    obtain ⟨-, rfl⟩ := Prod.mk.inj (Option.some.inj h)
    exact List.suffix_rfl
  unfold boundary? at h
  split at h
  · split at h
    · cases h
    · rename_i c inner hskip
      split at h
      · split at h
        · rename_i name left hname
          obtain ⟨l, -, heq⟩ := Option.map_eq_some_iff.mp h
          obtain ⟨-, rfl⟩ := Prod.mk.inj heq
          have hleft := boundaryName_suffix (f := f) (inner.length + 1) (c :: inner)
          rw [hname] at hleft
          exact suffix_cons ((suffix_of_cons hleft).trans (hskip ▸ f.skip_suffix _))
        · cases h
      · exact none_left h
  · exact none_left h

theorem escape?_suffix {a : Atom} (h : escape? f cs = some (a, rest)) : rest <:+ cs := by
  cases cs with
  | nil => cases h
  | cons c cs =>
    have mapped {α : Type} {x : Option α} {g : α → Atom}
        (h : x.map (fun y => (g y, cs)) = some (a, rest)) : rest <:+ c :: cs := by
      obtain ⟨y, -, heq⟩ := Option.map_eq_some_iff.mp h
      obtain ⟨-, rfl⟩ := Prod.mk.inj heq
      exact List.suffix_cons c cs
    simp only [escape?] at h
    split at h
    · exact suffix_cons (hex?_suffix h)
    split at h
    · exact suffix_cons (hex?_suffix h)
    split at h
    · exact suffix_cons (hex?_suffix h)
    split at h
    · exact suffix_cons (property?_suffix h)
    split at h
    · exact suffix_cons (boundary?_suffix h)
    split at h
    · exact mapped h
    split at h
    · obtain ⟨-, rfl⟩ := Prod.mk.inj (Option.some.inj h)
      exact List.suffix_cons c cs
    · exact mapped h

/-! ### Sets between brackets -/

theorem cut?_suffix {mark before : List Char} (h : cut? mark cs = some (before, rest)) :
    rest <:+ cs := by
  induction cs generalizing before with
  | nil => cases h
  | cons c cs ih =>
    simp only [cut?] at h
    split at h
    · obtain ⟨-, rfl⟩ := Prod.mk.inj (Option.some.inj h)
      exact List.drop_suffix _ _
    · obtain ⟨⟨before', rest'⟩, hcut, heq⟩ := Option.map_eq_some_iff.mp h
      obtain ⟨-, rfl⟩ := Prod.mk.inj heq
      exact suffix_cons (ih hcut)

theorem setOp?_suffix {op : SetOp} (h : setOp? cs = some (op, rest)) : rest <:+ cs := by
  unfold setOp? at h
  split at h
  · obtain ⟨-, rfl⟩ := Prod.mk.inj (Option.some.inj h)
    exact suffix_cons (List.suffix_cons _ _)
  · obtain ⟨-, rfl⟩ := Prod.mk.inj (Option.some.inj h)
    exact suffix_cons (List.suffix_cons _ _)
  · obtain ⟨-, rfl⟩ := Prod.mk.inj (Option.some.inj h)
    exact suffix_cons (List.suffix_cons _ _)
  · cases h

theorem caret_suffix (cs : List Char) : (caret cs).2 <:+ cs := by
  unfold caret
  split
  · exact List.suffix_cons _ _
  · exact List.suffix_rfl

theorem colonClass?_suffix {s : CodePoints} {negated : Bool}
    (h : colonClass? cs = some (s, negated, rest)) : rest <:+ cs := by
  unfold colonClass? at h
  split at h
  · split at h
    · rename_i inner _ name left hcut
      obtain ⟨s', -, heq⟩ := Option.map_eq_some_iff.mp h
      obtain ⟨-, heq⟩ := Prod.mk.inj heq
      obtain ⟨-, rfl⟩ := Prod.mk.inj heq
      have hleft := (cut?_suffix hcut).trans (caret_suffix inner)
      exact suffix_cons (suffix_of_cons hleft)
    · cases h
  · cases h

theorem setAtom?_suffix {a : Atom} (h : setAtom? f cs = some (a, rest)) : rest <:+ cs := by
  unfold setAtom? at h
  split at h
  · cases h
  · exact suffix_cons (escape?_suffix h)
  · obtain ⟨-, rfl⟩ := Prod.mk.inj (Option.some.inj h)
    exact List.suffix_cons _ _

theorem item?_suffix {s : CodePoints} (h : item? f cs = some (s, rest)) : rest <:+ cs := by
  simp only [item?, Option.bind_eq_bind, Option.bind_eq_some_iff] at h
  obtain ⟨⟨a, left⟩, hatom, h⟩ := h
  have hleft : f.skip left <:+ cs := (f.skip_suffix left).trans (setAtom?_suffix hatom)
  split at h
  · cases h
  · rename_i after hskip
    have hafter : '-' :: after <:+ cs := hskip ▸ hleft
    split at h
    · obtain ⟨s', -, heq⟩ := Option.bind_eq_some_iff.mp h
      obtain ⟨-, rfl⟩ := Prod.mk.inj (Option.some.inj heq)
      exact hafter
    · obtain ⟨⟨b, left'⟩, hatom', h⟩ := Option.bind_eq_some_iff.mp h
      obtain ⟨first, -, h⟩ := Option.bind_eq_some_iff.mp h
      obtain ⟨last, -, h⟩ := Option.bind_eq_some_iff.mp h
      split at h
      · obtain ⟨-, rfl⟩ := Prod.mk.inj (Option.some.inj h)
        exact (setAtom?_suffix hatom').trans ((f.skip_suffix after).trans (suffix_of_cons hafter))
      · cases h
  · obtain ⟨s', -, heq⟩ := Option.bind_eq_some_iff.mp h
    obtain ⟨-, rfl⟩ := Prod.mk.inj (Option.some.inj heq)
    exact hleft

theorem hyphens_suffix (f : Flags) (is : Items) (k : ℕ) (cs : List Char) :
    (hyphens f is k cs).2 <:+ cs := by
  induction k generalizing is cs with
  | zero => exact List.suffix_rfl
  | succ k ih =>
    unfold hyphens
    split
    · rename_i h
      cases h
    · rename_i rest h
      obtain rfl := Nat.succ.inj h
      exact suffix_cons ((ih _ _).trans (f.skip_suffix _))
    · exact List.suffix_rfl

theorem opening_suffix (f : Flags) (cs : List Char) : (opening f cs).2.2 <:+ cs := by
  have hinner : f.skip (caret (f.skip cs)).2 <:+ cs :=
    (f.skip_suffix _).trans ((caret_suffix _).trans (f.skip_suffix cs))
  have hleft := (hyphens_suffix f {} (f.skip (caret (f.skip cs)).2).length _).trans hinner
  unfold opening
  dsimp only
  split
  · rename_i hhyphens
    rw [hhyphens] at hleft
    split
    · exact (f.skip_suffix _).trans (suffix_of_cons hleft)
    · exact hleft
  · rename_i hhyphens
    rw [hhyphens] at hleft
    exact hleft

/-- A set and its items, by the number of steps that both may take. Both end with a bracket. -/
theorem sets_suffix (f : Flags) (fuel : ℕ) :
    (∀ {cs rest s}, bracket? f fuel cs = some (s, rest) → ']' :: rest <:+ cs) ∧
      ∀ {negated pending is cs rest s}, items? f fuel negated pending is cs = some (s, rest) →
        ']' :: rest <:+ cs := by
  -- brackets and items call each other, always with less fuel
  induction fuel with
  | zero => simp [bracket?, items?]
  | succ fuel ih =>
    constructor
    · intro cs rest s h
      simp only [bracket?] at h
      exact (ih.2 h).trans (opening_suffix f cs)
    · intro negated pending is cs rest s h
      simp only [items?] at h
      have hskip := f.skip_suffix cs
      split at h
      · cases h
      · rename_i heq
        obtain ⟨s', -, heq'⟩ := Option.map_eq_some_iff.mp h
        obtain ⟨-, rfl⟩ := Prod.mk.inj heq'
        exact heq ▸ hskip
      · rename_i heq
        split at h
        · rename_i hcolon
          obtain ⟨s', -, h⟩ := Option.bind_eq_some_iff.mp h
          exact (ih.2 h).trans ((colonClass?_suffix hcolon).trans (suffix_of_skip_eq heq))
        · obtain ⟨⟨inner, left⟩, hinner, h⟩ := Option.bind_eq_some_iff.mp h
          exact (ih.2 h).trans
            ((suffix_of_cons (ih.1 hinner)).trans (suffix_of_skip_eq heq))
      · split at h
        · rename_i hop
          exact (ih.2 h).trans ((setOp?_suffix hop).trans hskip)
        · obtain ⟨⟨s', left⟩, hitem, h⟩ := Option.bind_eq_some_iff.mp h
          exact (ih.2 h).trans ((item?_suffix hitem).trans hskip)

theorem bracket?_suffix {fuel : ℕ} {s : ReadSet} (h : bracket? f fuel cs = some (s, rest)) :
    rest <:+ cs :=
  suffix_of_cons ((sets_suffix f fuel).1 h)

/-! ### Groups and repetitions -/

theorem flags?_suffix {g : Flags} {seen : List Char} {negated dangling : Bool}
    (h : flags? f seen negated dangling cs = some (g, rest)) : rest <:+ cs := by
  induction cs generalizing f seen negated dangling with
  | nil => cases h
  | cons c cs ih =>
    simp only [flags?] at h
    split at h
    · split at h
      · cases h
      · obtain ⟨-, rfl⟩ := Prod.mk.inj (Option.some.inj h)
        exact List.suffix_rfl
    split at h
    · split at h
      · cases h
      · exact suffix_cons (ih h)
    split at h
    · cases h
    split at h
    · exact suffix_cons (ih h)
    · cases h

theorem groupName?_suffix {name : String} (h : groupName? cs = some (name, rest)) :
    rest <:+ cs := by
  unfold groupName? at h
  split at h
  · rename_i c name' rest' hcut
    split at h
    · obtain ⟨-, rfl⟩ := Prod.mk.inj (Option.some.inj h)
      exact cut?_suffix hcut
    · cases h
  · cases h

theorem dropLazy_suffix (cs : List Char) : dropLazy cs <:+ cs := by
  unfold dropLazy
  split
  · exact List.suffix_cons _ _
  · exact List.suffix_rfl

theorem countDigits_eq (k : ℕ) (cs : List Char) :
    countDigits f k cs = scan Char.isDigit f k cs := by
  induction k generalizing cs with
  | zero => rfl
  | succ k ih =>
    cases cs with
    | nil => rfl
    | cons c cs => simp only [countDigits, scan, ih]

theorem countDigits_suffix (k : ℕ) (cs : List Char) : (countDigits f k cs).2 <:+ cs := by
  rw [countDigits_eq]
  exact scan_suffix _ k cs

theorem count?_suffix {n : ℕ} (h : count? f cs = some (n, rest)) : rest <:+ cs := by
  simp only [count?] at h
  split at h
  · cases h
  · obtain ⟨-, rfl⟩ := Prod.mk.inj (Option.some.inj h)
    exact (f.skip_suffix _).trans ((List.dropWhile_suffix _).trans
      ((countDigits_suffix _ _).trans (List.dropWhile_suffix _)))

theorem counts?_suffix {least : ℕ} {greatest : Option ℕ}
    (h : counts? f cs = some (least, greatest, rest)) : rest <:+ cs := by
  simp only [counts?, Option.bind_eq_bind, Option.bind_eq_some_iff] at h
  obtain ⟨⟨n, left⟩, hcount, h⟩ := h
  have hleft : left <:+ cs := (count?_suffix hcount).trans (f.skip_suffix cs)
  dsimp only at h
  split at h
  · obtain ⟨-, h⟩ := Prod.mk.inj (Option.some.inj h)
    obtain ⟨-, rfl⟩ := Prod.mk.inj h
    exact suffix_of_cons hleft
  · rename_i after
    have hafter : f.skip after <:+ cs := (f.skip_suffix after).trans (suffix_of_cons hleft)
    split at h
    · rename_i hskip
      obtain ⟨-, h⟩ := Prod.mk.inj (Option.some.inj h)
      obtain ⟨-, rfl⟩ := Prod.mk.inj h
      exact suffix_of_cons (hskip ▸ hafter)
    · obtain ⟨⟨m, left'⟩, hcount', h⟩ := Option.bind_eq_some_iff.mp h
      have hleft' : left' <:+ cs := (count?_suffix hcount').trans hafter
      dsimp only at h
      split at h
      · split at h
        · obtain ⟨-, h⟩ := Prod.mk.inj (Option.some.inj h)
          obtain ⟨-, rfl⟩ := Prod.mk.inj h
          exact suffix_of_cons hleft'
        · cases h
      · cases h
  · cases h

theorem namedGroup?_suffix {r r' : Reading} (h : namedGroup? r cs = some (r', rest)) :
    rest <:+ cs := by
  unfold namedGroup? at h
  split at h
  · rename_i hname
    split at h
    · cases h
    · obtain ⟨-, rfl⟩ := Prod.mk.inj (Option.some.inj h)
      exact groupName?_suffix hname
  · cases h

theorem flagGroup?_suffix {r r' : Reading} (h : flagGroup? r cs = some (r', rest)) :
    rest <:+ cs := by
  unfold flagGroup? at h
  split at h
  · rename_i hflags
    obtain ⟨-, rfl⟩ := Prod.mk.inj (Option.some.inj h)
    exact suffix_of_cons (flags?_suffix hflags)
  · rename_i hflags
    split at h
    · cases h
    · obtain ⟨-, rfl⟩ := Prod.mk.inj (Option.some.inj h)
      exact suffix_of_cons (flags?_suffix hflags)
  · cases h

theorem group?_suffix {r r' : Reading} (h : group? r cs = some (r', rest)) : rest <:+ cs := by
  have hskip := r.flags.skip_suffix cs
  unfold group? at h
  split at h
  · cases h
  · cases h
  · cases h
  · cases h
  · rename_i heq
    rw [heq] at hskip
    exact (namedGroup?_suffix h).trans (suffix_of_cons (suffix_of_cons (suffix_of_cons hskip)))
  · rename_i heq
    rw [heq] at hskip
    exact (namedGroup?_suffix h).trans (suffix_of_cons (suffix_of_cons hskip))
  · rename_i heq
    rw [heq] at hskip
    exact (flagGroup?_suffix h).trans (suffix_of_cons hskip)
  · obtain ⟨-, rfl⟩ := Prod.mk.inj (Option.some.inj h)
    exact hskip

end Regex

end Switchboard
