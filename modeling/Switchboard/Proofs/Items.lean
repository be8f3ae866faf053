import Switchboard.Proofs.Leftover
import Switchboard.Proofs.Matching

/-!
# Reading one item

What the reader can do in one step, said once (`Reads`), and from that what holds of every step:

* it leaves the end of the text (`read?_suffix`);
* it does not look at the groups around the last one (`exists_of_read?_inside`);
* it keeps the bounds of repetitions in order (`read?_bounded`), so that the matcher is right about
  every pattern that is read (`parse?_bounded`).
-/

namespace Switchboard

namespace Regex

variable {f : Flags} {cs rest left : List Char} {c : Char} {r q : Reading} {least : ℕ}
  {greatest : Option ℕ}

/-! ### Steps of the reader -/

/-- The expression of a character that stands for itself, for any character or for a condition. -/
def leaf? (f : Flags) (c : Char) : Option Regex :=
  if c = '.' then dot? f
  else if c = '^' then some (.look (startLook f))
  else if c = '$' then some (.look (endLook f))
  else literal? f c false

/-- The marks of repetitions, with their bounds. -/
def repetitions : List (Char × ℕ × Option ℕ) :=
  [('?', 0, some 1), ('*', 0, none), ('+', 1, none)]

/-- The characters that are read neither as themselves nor as a leaf. -/
def marks : List Char := ['(', ')', '|', '[', '?', '*', '+', '\x7b', '\\']

/-- What reading an item that starts with a character can do. -/
inductive Reads (r : Reading) : Char → List Char → Reading → List Char → Prop where
  | group {rest left : List Char} {q : Reading} (h : group? r rest = some (q, left)) :
      Reads r '(' rest q left
  | close {rest : List Char} {q : Reading} (h : r.close? = some q) : Reads r ')' rest q rest
  | bar {rest : List Char} : Reads r '|' rest r.bar rest
  | set {rest left : List Char} {s : ReadSet}
      (h : bracket? r.flags (2 * rest.length + 2) rest = some (s, left)) :
      Reads r '[' rest (r.push { regex := .set s.set, depth := s.depth }) left
  | again {c : Char} {rest : List Char} {q : Reading} {least : ℕ} {greatest : Option ℕ}
      (hc : (c, least, greatest) ∈ repetitions) (h : r.repeat_? least greatest = some q) :
      Reads r c rest q (dropLazy rest)
  | counted {rest left : List Char} {q : Reading} {least : ℕ} {greatest : Option ℕ}
      (hcounts : counts? r.flags rest = some (least, greatest, left))
      (h : r.repeat_? least greatest = some q) :
      Reads r '\x7b' rest q (dropLazy (r.flags.skip left))
  | escape {rest left : List Char} {a : Atom} {x : Regex}
      (h : escape? r.flags rest = some (a, left)) (hx : atom? r.flags a = some x) :
      Reads r '\\' rest (r.pushLeaf x) left
  | leaf {c : Char} {rest : List Char} {x : Regex} (hc : c ∉ marks)
      (h : leaf? r.flags c = some x) : Reads r c rest (r.pushLeaf x) rest

theorem read?_leaf (hc : c ∉ marks) :
    read? r c rest = (leaf? r.flags c).map fun x => (r.pushLeaf x, rest) := by
  simp only [marks, List.mem_cons, List.not_mem_nil, or_false, not_or] at hc
  unfold leaf?
  simp only [read?, hc, if_false]
  split_ifs <;> rfl

/-- Reading an item does one of these. -/
theorem reads_of_read? (h : read? r c rest = some (q, left)) : Reads r c rest q left := by
  have again {least : ℕ} {greatest : Option ℕ} (hc : (c, least, greatest) ∈ repetitions)
      (h : (r.repeat_? least greatest).map (fun r => (r, dropLazy rest)) = some (q, left)) :
      Reads r c rest q left := by
    obtain ⟨q', hq, heq⟩ := Option.map_eq_some_iff.mp h
    obtain ⟨rfl, rfl⟩ := Prod.mk.inj heq
    exact .again hc hq
  by_cases hc : c ∈ marks
  · simp only [marks, List.mem_cons, List.not_mem_nil, or_false] at hc
    obtain rfl | rfl | rfl | rfl | rfl | rfl | rfl | rfl | rfl := hc
    · exact .group h
    · obtain ⟨q', hq, heq⟩ := Option.map_eq_some_iff.mp h
      obtain ⟨rfl, rfl⟩ := Prod.mk.inj heq
      exact .close hq
    · obtain ⟨rfl, rfl⟩ := Prod.mk.inj (Option.some.inj h)
      exact .bar
    · obtain ⟨⟨s, left'⟩, hs, heq⟩ := Option.map_eq_some_iff.mp h
      obtain ⟨rfl, rfl⟩ := Prod.mk.inj heq
      exact .set hs
    · exact again (.head _) h
    · exact again (.tail _ (.head _)) h
    · exact again (.tail _ (.tail _ (.head _))) h
    · obtain ⟨⟨least, greatest, left'⟩, hcounts, h⟩ := Option.bind_eq_some_iff.mp h
      obtain ⟨q', hq, heq⟩ := Option.map_eq_some_iff.mp h
      obtain ⟨rfl, rfl⟩ := Prod.mk.inj heq
      exact .counted hcounts hq
    · obtain ⟨⟨a, left'⟩, ha, h⟩ := Option.bind_eq_some_iff.mp h
      obtain ⟨x, hx, heq⟩ := Option.bind_eq_some_iff.mp h
      obtain ⟨rfl, rfl⟩ := Prod.mk.inj (Option.some.inj heq)
      exact .escape ha hx
  · rw [read?_leaf hc] at h
    obtain ⟨x, hx, heq⟩ := Option.map_eq_some_iff.mp h
    obtain ⟨rfl, rfl⟩ := Prod.mk.inj heq
    exact .leaf hc hx

/-- And each of them is what reading an item does. -/
theorem Reads.read? (h : Reads r c rest q left) : Regex.read? r c rest = some (q, left) := by
  cases h with
  | group h => exact h
  | close h => simp [Regex.read?, h]
  | bar => rfl
  | set h => simp [Regex.read?, h]
  | again hc h =>
    simp only [repetitions, List.mem_cons, Prod.mk.injEq, List.not_mem_nil, or_false] at hc
    obtain ⟨rfl, rfl, rfl⟩ | ⟨rfl, rfl, rfl⟩ | ⟨rfl, rfl, rfl⟩ := hc <;> simp [Regex.read?, h]
  | counted hcounts h => simp [Regex.read?, hcounts, h]
  | escape h hx => simp [Regex.read?, h, hx]
  | leaf hc h => rw [read?_leaf hc, h, Option.map_some]

/-! ### Steps to the end -/

variable {fuel : ℕ}

theorem readAll?_zero_eq_some_iff :
    readAll? 0 r cs = some q ↔ r.flags.skip cs = [] ∧ r = q := by
  unfold readAll?
  cases r.flags.skip cs with
  | nil => simp
  | cons => simp

/-- The reader is at the end, or takes a step and goes on. -/
theorem readAll?_succ_eq_some_iff : readAll? (fuel + 1) r cs = some q ↔
    (r.flags.skip cs = [] ∧ r = q) ∨ ∃ c rest r' left, r.flags.skip cs = c :: rest ∧
      read? r c rest = some (r', left) ∧ readAll? fuel r' left = some q := by
  conv_lhs => unfold readAll?
  generalize r.flags.skip cs = skipped
  cases skipped with
  | nil => simp
  | cons c rest => simp [Option.bind_eq_some_iff]

/-- The same, whatever the number of steps to be taken. -/
theorem readAll?_cases (h : readAll? fuel r cs = some q) :
    (r.flags.skip cs = [] ∧ r = q) ∨ ∃ k c rest r' left, r.flags.skip cs = c :: rest ∧
      read? r c rest = some (r', left) ∧ readAll? k r' left = some q := by
  cases fuel with
  | zero => exact .inl (readAll?_zero_eq_some_iff.mp h)
  | succ k => exact (readAll?_succ_eq_some_iff.mp h).imp_right fun hstep => ⟨k, hstep⟩

/-- A pattern is read if its items are and all its groups are closed. -/
theorem parse?_eq_some_iff {ignoreCase : Bool} {pattern : String} {x : Regex} :
    parse? ignoreCase pattern = some x ↔
      ∃ r, readAll? pattern.toList.length { flags := { ignoreCase } } pattern.toList = some r ∧
        r.frames = [] ∧ (joinBranches r.branches).depth ≤ nestLimit ∧
          (joinBranches r.branches).regex = x := by
  unfold parse?
  dsimp only
  cases readAll? pattern.toList.length { flags := { ignoreCase } } pattern.toList with
  | none => simp
  | some r => simp [and_assoc]

/-! ### The text that is left -/

theorem read?_suffix (hread : read? r c rest = some (q, left)) : left <:+ rest := by
  cases reads_of_read? hread with
  | group h => exact group?_suffix h
  | close | bar | leaf => exact List.suffix_rfl
  | set h => exact bracket?_suffix h
  | again => exact dropLazy_suffix rest
  | counted hcounts =>
    exact (dropLazy_suffix _).trans ((r.flags.skip_suffix _).trans (counts?_suffix hcounts))
  | escape h => exact escape?_suffix h

/-! ### Groups beneath -/

/-- A reading inside one more group, which was opened before all others. -/
def Reading.inside (r : Reading) (frame : Frame) : Reading :=
  { r with frames := r.frames ++ [frame] }

namespace Reading

variable {frame : Frame}

@[simp] theorem flags_inside : (r.inside frame).flags = r.flags := rfl

@[simp] theorem branches_inside : (r.inside frame).branches = r.branches := rfl

@[simp] theorem frames_inside : (r.inside frame).frames = r.frames ++ [frame] := rfl

@[simp] theorem names_inside : (r.inside frame).names = r.names := rfl

theorem close?_inside (h : r.frames ≠ []) :
    (r.inside frame).close? = r.close?.map (inside · frame) := by
  obtain ⟨flags, branches, _ | ⟨top, frames⟩, names⟩ := r
  · exact absurd rfl h
  · rfl

theorem repeat_?_inside :
    (r.inside frame).repeat_? least greatest =
      (r.repeat_? least greatest).map (inside · frame) := by
  unfold repeat_?
  rw [branches_inside]
  cases r.branches.items with
  | nil => rfl
  | cons p items =>
    dsimp only
    split <;> rfl

theorem namedGroup?_inside : Regex.namedGroup? (r.inside frame) cs =
    (Regex.namedGroup? r cs).map (Prod.map (inside · frame) id) := by
  unfold Regex.namedGroup?
  rw [names_inside]
  split
  · split <;> rfl
  · rfl

theorem flagGroup?_inside : Regex.flagGroup? (r.inside frame) cs =
    (Regex.flagGroup? r cs).map (Prod.map (inside · frame) id) := by
  unfold Regex.flagGroup?
  rw [flags_inside]
  split
  · rfl
  · split <;> rfl
  · rfl

theorem group?_inside : Regex.group? (r.inside frame) cs =
    (Regex.group? r cs).map (Prod.map (inside · frame) id) := by
  unfold Regex.group?
  rw [flags_inside]
  split
  · rfl
  · rfl
  · rfl
  · rfl
  · exact namedGroup?_inside
  · exact namedGroup?_inside
  · exact flagGroup?_inside
  · rfl

/-- A step inside one more group is the same step, unless it closes that group. -/
theorem exists_of_read?_inside (hc : c = ')' → r.frames ≠ [])
    (hread : Regex.read? (r.inside frame) c rest = some (q, left)) :
    ∃ q', q = q'.inside frame ∧ Regex.read? r c rest = some (q', left) := by
  cases reads_of_read? hread with
  | group h =>
    rw [group?_inside] at h
    obtain ⟨⟨q', left'⟩, hq, heq⟩ := Option.map_eq_some_iff.mp h
    obtain ⟨rfl, rfl⟩ := Prod.mk.inj heq
    exact ⟨q', rfl, hq⟩
  | close h =>
    rw [close?_inside (hc rfl)] at h
    obtain ⟨q', hq, rfl⟩ := Option.map_eq_some_iff.mp h
    exact ⟨q', rfl, (Reads.close hq).read?⟩
  | bar => exact ⟨r.bar, rfl, rfl⟩
  | set h => exact ⟨r.push _, rfl, (Reads.set (r := r) h).read?⟩
  | again hc h =>
    rw [repeat_?_inside] at h
    obtain ⟨q', hq, rfl⟩ := Option.map_eq_some_iff.mp h
    exact ⟨q', rfl, (Reads.again hc hq).read?⟩
  | counted hcounts h =>
    rw [repeat_?_inside] at h
    obtain ⟨q', hq, rfl⟩ := Option.map_eq_some_iff.mp h
    exact ⟨q', rfl, (Reads.counted (r := r) hcounts hq).read?⟩
  | escape h hx => exact ⟨r.pushLeaf _, rfl, (Reads.escape (r := r) h hx).read?⟩
  | leaf hc h => exact ⟨r.pushLeaf _, rfl, (Reads.leaf (r := r) hc h).read?⟩

end Reading

/-! ### Bounds of repetitions -/

theorem counts?_bounds {least : ℕ} {greatest : Option ℕ}
    (h : counts? f cs = some (least, greatest, rest)) : ∀ m, greatest = some m → least ≤ m := by
  simp only [counts?, Option.bind_eq_bind, Option.bind_eq_some_iff] at h
  obtain ⟨⟨n, left⟩, -, h⟩ := h
  dsimp only at h
  split at h
  · obtain ⟨rfl, heq⟩ := Prod.mk.inj (Option.some.inj h)
    obtain ⟨rfl, -⟩ := Prod.mk.inj heq
    rintro _ ⟨⟩
    exact le_rfl
  · split at h
    · obtain ⟨rfl, heq⟩ := Prod.mk.inj (Option.some.inj h)
      obtain ⟨rfl, -⟩ := Prod.mk.inj heq
      rintro _ ⟨⟩
    · obtain ⟨⟨m, left'⟩, -, h⟩ := Option.bind_eq_some_iff.mp h
      dsimp only at h
      split at h
      · split at h
        · rename_i hle
          obtain ⟨rfl, heq⟩ := Prod.mk.inj (Option.some.inj h)
          obtain ⟨rfl, -⟩ := Prod.mk.inj heq
          rintro _ ⟨⟩
          exact hle
        · cases h
      · cases h
  · cases h

/-- A group of which all parts have their bounds in order. -/
structure Branches.Bounded (b : Branches) : Prop where
  done : ∀ p ∈ b.done, p.regex.Bounded
  items : ∀ p ∈ b.items, p.regex.Bounded

/-- A reading of which all parts have their bounds in order. -/
structure Reading.Bounded (r : Reading) : Prop where
  branches : r.branches.Bounded
  frames : ∀ frame ∈ r.frames, frame.outer.Bounded

theorem cats_bounded {rs : List Regex} (h : ∀ r ∈ rs, r.Bounded) : (cats rs).Bounded := by
  fun_induction cats rs with
  | case1 => trivial
  | case2 r => exact h r (List.mem_singleton_self r)
  | case3 r rs _ ih =>
    exact ⟨h r List.mem_cons_self, ih fun x hx => h x (List.mem_cons_of_mem _ hx)⟩

theorem alts_bounded {rs : List Regex} (h : ∀ r ∈ rs, r.Bounded) : (alts rs).Bounded := by
  fun_induction alts rs with
  | case1 => trivial
  | case2 r => exact h r (List.mem_singleton_self r)
  | case3 r rs _ ih =>
    exact ⟨h r List.mem_cons_self, ih fun x hx => h x (List.mem_cons_of_mem _ hx)⟩

theorem joinItems_bounded {ps : List Part} (h : ∀ p ∈ ps, p.regex.Bounded) :
    (joinItems ps).regex.Bounded := by
  have hrev : ∀ p ∈ ps.reverse, p.regex.Bounded := fun p hp => h p (List.mem_reverse.mp hp)
  unfold joinItems
  split
  · trivial
  · rename_i p hp
    exact hrev p (hp ▸ List.mem_singleton_self p)
  · exact cats_bounded (List.forall_mem_map.mpr hrev)

theorem Branches.Bounded.join {b : Branches} (h : b.Bounded) : (joinBranches b).regex.Bounded := by
  have hcons : ∀ p ∈ joinItems b.items :: b.done, p.regex.Bounded :=
    List.forall_mem_cons.mpr ⟨joinItems_bounded h.items, h.done⟩
  have hall : ∀ p ∈ (joinItems b.items :: b.done).reverse, p.regex.Bounded := fun p hp =>
    hcons p (List.mem_reverse.mp hp)
  unfold joinBranches
  split
  · rename_i p hp
    exact hall p (hp ▸ List.mem_singleton_self p)
  · exact alts_bounded (List.forall_mem_map.mpr hall)

namespace Reading.Bounded

theorem push (h : r.Bounded) {p : Part} (hp : p.regex.Bounded) : (r.push p).Bounded :=
  ⟨⟨h.branches.done, List.forall_mem_cons.mpr ⟨hp, h.branches.items⟩⟩, h.frames⟩

theorem bar (h : r.Bounded) : r.bar.Bounded :=
  ⟨⟨List.forall_mem_cons.mpr ⟨joinItems_bounded h.branches.items, h.branches.done⟩, nofun⟩,
    h.frames⟩

theorem open_ (h : r.Bounded) (f : Flags) (remembers : Bool) : (r.open_ f remembers).Bounded :=
  ⟨⟨nofun, nofun⟩, List.forall_mem_cons.mpr ⟨h.branches, h.frames⟩⟩

theorem close? (h : r.Bounded) (hq : r.close? = some q) : q.Bounded := by
  unfold Reading.close? at hq
  split at hq
  · cases hq
  · rename_i frame frames hframes
    obtain rfl := Option.some.inj hq
    have hframe := h.frames
    rw [hframes] at hframe
    obtain ⟨houter, hrest⟩ := List.forall_mem_cons.mp hframe
    refine ⟨⟨houter.done, List.forall_mem_cons.mpr ⟨?_, houter.items⟩⟩, hrest⟩
    dsimp only
    split
    · exact h.branches.join
    · exact h.branches.join

theorem repeat_? (h : r.Bounded) (hbounds : ∀ m, greatest = some m → least ≤ m)
    (hq : r.repeat_? least greatest = some q) : q.Bounded := by
  have hitems := h.branches.items
  unfold Reading.repeat_? at hq
  split at hq
  · cases hq
  · rename_i p items hp
    rw [hp] at hitems
    obtain ⟨hlast, hitems⟩ := List.forall_mem_cons.mp hitems
    split at hq
    · obtain rfl := Option.some.inj hq
      exact ⟨⟨h.branches.done, List.forall_mem_cons.mpr ⟨⟨hlast, hbounds⟩, hitems⟩⟩, h.frames⟩
    · cases hq

theorem group? (h : r.Bounded) (hq : Regex.group? r cs = some (q, rest)) : q.Bounded := by
  have hnamed {cs : List Char} (hq : Regex.namedGroup? r cs = some (q, rest)) : q.Bounded := by
    unfold Regex.namedGroup? at hq
    split at hq
    · split at hq
      · cases hq
      · rename_i name _ _ _
        obtain ⟨rfl, -⟩ := Prod.mk.inj (Option.some.inj hq)
        have hnames : Reading.Bounded { r with names := name :: r.names } := ⟨h.branches, h.frames⟩
        exact hnames.open_ _ _
    · cases hq
  have hflags {cs : List Char} (hq : Regex.flagGroup? r cs = some (q, rest)) : q.Bounded := by
    unfold Regex.flagGroup? at hq
    split at hq
    · obtain ⟨rfl, -⟩ := Prod.mk.inj (Option.some.inj hq)
      exact h.open_ _ _
    · split at hq
      · cases hq
      · obtain ⟨rfl, -⟩ := Prod.mk.inj (Option.some.inj hq)
        have hempty := h.push (p := { regex := .empty, repeatable := false }) trivial
        exact ⟨hempty.branches, hempty.frames⟩
    · cases hq
  unfold Regex.group? at hq
  split at hq
  · cases hq
  · cases hq
  · cases hq
  · cases hq
  · exact hnamed hq
  · exact hnamed hq
  · exact hflags hq
  · obtain ⟨rfl, -⟩ := Prod.mk.inj (Option.some.inj hq)
    exact h.open_ _ _

end Reading.Bounded

theorem literal?_bounded {c : Char} {byte : Bool} {x : Regex} (h : literal? f c byte = some x) :
    x.Bounded := by
  unfold literal? at h
  split_ifs at h <;> obtain rfl := Option.some.inj h <;> trivial

theorem leaf?_bounded {x : Regex} (h : leaf? f c = some x) : x.Bounded := by
  unfold leaf? at h
  split_ifs at h
  · unfold dot? at h
    dsimp only at h
    split_ifs at h <;> obtain rfl := Option.some.inj h <;> trivial
  · obtain rfl := Option.some.inj h
    trivial
  · obtain rfl := Option.some.inj h
    trivial
  · exact literal?_bounded h

theorem atom?_bounded {a : Atom} {x : Regex} (h : atom? f a = some x) : x.Bounded := by
  cases a with
  | char c byte => exact literal?_bounded h
  | set | look =>
    obtain rfl := Option.some.inj h
    trivial

/-- A step keeps the bounds of repetitions in order. -/
theorem read?_bounded (hr : r.Bounded) (hread : read? r c rest = some (q, left)) : q.Bounded := by
  cases reads_of_read? hread with
  | group h => exact hr.group? h
  | close h => exact hr.close? h
  | bar => exact hr.bar
  | set h => exact hr.push trivial
  | again hc h =>
    refine hr.repeat_? (fun m hm => ?_) h
    simp only [repetitions, List.mem_cons, Prod.mk.injEq, List.not_mem_nil, or_false] at hc
    obtain ⟨-, rfl, rfl⟩ | ⟨-, rfl, rfl⟩ | ⟨-, rfl, rfl⟩ := hc
    · exact Nat.zero_le m
    · cases hm
    · cases hm
  | counted hcounts h => exact hr.repeat_? (counts?_bounds hcounts) h
  | escape h hx => exact hr.push (atom?_bounded hx)
  | leaf hc h => exact hr.push (leaf?_bounded h)

theorem readAll?_bounded (hr : r.Bounded) (h : readAll? fuel r cs = some q) :
    q.Bounded := by
  induction fuel generalizing r cs with
  | zero =>
    obtain ⟨-, rfl⟩ := readAll?_zero_eq_some_iff.mp h
    exact hr
  | succ fuel ih =>
    obtain ⟨-, rfl⟩ | ⟨c, rest, r', left, -, hread, h⟩ := readAll?_succ_eq_some_iff.mp h
    · exact hr
    · exact ih (read?_bounded hr hread) h

/-- So do whole patterns. -/
theorem parse?_bounded {ignoreCase : Bool} {pattern : String} {x : Regex}
    (h : parse? ignoreCase pattern = some x) : x.Bounded := by
  obtain ⟨r, hread, -, -, rfl⟩ := parse?_eq_some_iff.mp h
  have hinit : Reading.Bounded { flags := { ignoreCase } } := ⟨⟨nofun, nofun⟩, nofun⟩
  exact (readAll?_bounded hinit hread).branches.join

end Regex

end Switchboard
