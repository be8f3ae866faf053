import Switchboard.Proofs.Registration

/-!
# What the memo of routes saves

A path that is not registered itself is looked for among its ancestors once, and then recalled for
as long as the memo has room. `RouteMemo.Resolves` says everything that resolving a path can do, and
the rest is read off it:

* `RouteMemo.InOrder` is the invariant: every path is remembered once, at most as many as the bound
  allows, and as long as nothing was registered since, with the command derived for it;
* `RouteMemo.Behind` says which paths are in front of a remembered one. Resolving puts a path in
  front only if a command is derived for it, so a path is crowded out by as many others as the
  bound at the earliest.

Main statement: `Routing.scans_and_recalls`.
-/

namespace Switchboard

namespace Route

/-- The command **derived** for a path that is not registered itself: its longest registered
ancestor. -/
def derived? (registered : String → Bool) (path : String) : Option String :=
  if registered path then none else (ancestors path).find? registered

theorem unregistered_of_derived {registered : String → Bool} {path command : String}
    (h : derived? registered path = some command) : registered path = false := by
  unfold derived? at h
  split at h
  · cases h
  · exact Bool.eq_false_iff.mpr ‹_›

end Route

namespace RouteMemo

variable {m : RouteMemo} {r : Roster} {path command : String} {e : String × String}
  {others : Finset String}

/-! ### Resolving, case by case -/

/-- A memo **knows** a path for a generation if it is of this generation and remembers an answer. -/
def Knows (m : RouteMemo) (generation : ℕ) (path : String) : Prop :=
  m.generation = generation ∧ path ∈ m.entries.map Prod.fst

instance (generation : ℕ) (path : String) : Decidable (m.Knows generation path) :=
  inferInstanceAs (Decidable (_ ∧ _))

theorem refresh_of_eq (h : m.generation = r.generation) : m.refresh r.generation = m := if_pos h

theorem knows_iff_mem_refresh {generation : ℕ} :
    m.Knows generation path ↔ path ∈ (m.refresh generation).entries.map Prod.fst := by
  unfold Knows refresh
  split <;> simp [*]

/-- What becomes of a memo that is asked for a path, and what it answers. -/
inductive Resolves (m : RouteMemo) (r : Roster) (path : String) :
    RouteMemo × Option String → Prop where
  /-- A registered path is not looked up. -/
  | exact (registered : r.contains path = true) : Resolves m r path (m, some path)
  /-- A path that the memo knows comes to the front. -/
  | known {command : String} (unregistered : r.contains path = false)
      (current : m.generation = r.generation) (mem : (path, command) ∈ m.entries) :
      Resolves m r path
        ({ m with entries := (path, command) :: m.entries.filter fun d => d.1 != path },
          some command)
  /-- A command that is found by a scan comes to the front, and what has no room is forgotten. -/
  | derive {command : String} (unknown : ¬ m.Knows r.generation path)
      (derived : Route.derived? r.contains path = some command) :
      Resolves m r path
        ({ m.refresh r.generation with
            scans := m.scans + 1
            entries := ((path, command) :: (m.refresh r.generation).entries).take m.bound },
          some command)
  /-- A scan may find nothing. -/
  | nothing (unregistered : r.contains path = false) (unknown : ¬ m.Knows r.generation path)
      (underived : Route.derived? r.contains path = none) :
      Resolves m r path ({ m.refresh r.generation with scans := m.scans + 1 }, none)

theorem resolves (m : RouteMemo) (r : Roster) (path : String) :
    Resolves m r path (m.resolve r path) := by
  unfold resolve
  cases hpath : r.contains path with
  | true => exact .exact hpath
  | false =>
    rw [if_neg (by simp), lookUp_eq]
    cases hfind : (m.refresh r.generation).entries.find? fun e => e.1 == path with
    | some e =>
      obtain ⟨hcurrent, hmem⟩ := mem_entries_refresh (List.mem_of_find?_eq_some hfind)
      obtain rfl : e.1 = path := by simpa using List.find?_some hfind
      dsimp only
      rw [refresh_of_eq hcurrent]
      exact .known hpath hcurrent hmem
    | none =>
      have hunknown : path ∉ (m.refresh r.generation).entries.map Prod.fst := by
        intro hmem
        obtain ⟨e, he, rfl⟩ := List.mem_map.mp hmem
        simpa using List.find?_eq_none.mp hfind e he
      have hderived : Route.derived? r.contains path =
          (Route.ancestors path).find? r.contains := by
        rw [Route.derived?, if_neg (by simp [hpath])]
      have hcount : (m.refresh r.generation).countScan =
          { m.refresh r.generation with scans := m.scans + 1 } := by
        rw [countScan, scans_refresh]
      dsimp only
      rw [hcount]
      cases hsearch : (Route.ancestors path).find? r.contains with
      | none => exact .nothing hpath (mt knows_iff_mem_refresh.mp hunknown) (hderived.trans hsearch)
      | some command =>
        have hnone : ((m.refresh r.generation).entries.filter fun d => d.1 != path) =
            (m.refresh r.generation).entries := by
          refine List.filter_eq_self.mpr fun d hd => ?_
          have hne : d.1 ≠ path := fun h => hunknown (h ▸ List.mem_map_of_mem hd)
          simpa using hne
        have hderive := Resolves.derive (mt knows_iff_mem_refresh.mp hunknown)
          (hderived.trans hsearch)
        rw [← bound_refresh m r.generation] at hderive
        dsimp only
        rwa [remember, if_pos (generation_refresh m _), hnone]

/-- One scan is made for a path that is neither registered nor known, and none for any other. -/
theorem scans_resolve (m : RouteMemo) (r : Roster) (path : String) :
    (m.resolve r path).1.scans =
      m.scans + if r.contains path ∨ m.Knows r.generation path then 0 else 1 := by
  have h := resolves m r path
  generalize m.resolve r path = out at h ⊢
  cases h with
  | exact registered => rw [if_pos (.inl registered), add_zero]
  | known unregistered current mem =>
    rw [if_pos (.inr ⟨current, List.mem_map_of_mem mem⟩), add_zero]
  | derive unknown derived =>
    have hpath := Route.unregistered_of_derived derived
    rw [if_neg (by simp [hpath, unknown])]
  | nothing unregistered unknown underived => rw [if_neg (by simp [unregistered, unknown])]

/-- Nothing is remembered anew but the path itself, if a command is derived for it. -/
theorem mem_entries_resolve (h : e ∈ (m.resolve r path).1.entries) :
    e ∈ m.entries ∨ e.1 = path ∧ Route.derived? r.contains path = some e.2 := by
  have hout := resolves m r path
  generalize m.resolve r path = out at h hout
  cases hout with
  | exact => exact .inl h
  | known unregistered current mem =>
    rcases List.mem_cons.mp h with rfl | h
    · exact .inl mem
    · exact .inl (List.mem_of_mem_filter h)
  | derive unknown derived =>
    rcases List.mem_cons.mp (List.mem_of_mem_take h) with rfl | h
    · exact .inr ⟨rfl, derived⟩
    · exact .inl (mem_entries_refresh h).2
  | nothing => exact .inl (mem_entries_refresh h).2

theorem bound_resolve (m : RouteMemo) (r : Roster) (path : String) :
    (m.resolve r path).1.bound = m.bound := by
  have h := resolves m r path
  generalize m.resolve r path = out at h ⊢
  cases h with
  | exact | known => rfl
  | derive | nothing => exact m.bound_refresh _

/-- Once it was looked up for a path, a memo is of the generation of the roster. -/
theorem generation_resolve (unregistered : r.contains path = false) :
    (m.resolve r path).1.generation = r.generation := by
  have h := resolves m r path
  generalize m.resolve r path = out at h ⊢
  cases h with
  | exact registered => simp [unregistered] at registered
  | known unregistered current mem => exact current
  | derive | nothing => exact m.generation_refresh _

/-! ### What is remembered -/

/-- A memo is **in order** for a roster: it is not ahead of it, it remembers every path once and no
more of them than its bound allows, and as long as it is not behind either, it remembers the command
derived for each. -/
structure InOrder (m : RouteMemo) (r : Roster) : Prop where
  generation_le : m.generation ≤ r.generation
  derived : m.generation = r.generation →
    ∀ e ∈ m.entries, Route.derived? r.contains e.1 = some e.2
  nodup : (m.entries.map Prod.fst).Nodup
  length_le : m.entries.length ≤ m.bound

theorem inOrder_ofCapacity (capacity : ℕ) (r : Roster) : (ofCapacity capacity).InOrder r where
  generation_le := Nat.zero_le _
  derived := by simp [ofCapacity]
  nodup := List.nodup_nil
  length_le := Nat.zero_le _

theorem InOrder.register (h : m.InOrder r) (command : String) (t : Template) :
    m.InOrder (r.register command t) where
  generation_le := h.generation_le.trans (Nat.le_succ _)
  derived hcurrent := by
    have hle := h.generation_le
    rw [Roster.generation_register] at hcurrent
    omega
  nodup := h.nodup
  length_le := h.length_le

theorem InOrder.refresh (h : m.InOrder r) : (m.refresh r.generation).InOrder r := by
  unfold RouteMemo.refresh
  split
  · exact h
  · exact ⟨le_rfl, fun _ e he => (nomatch he), List.nodup_nil, Nat.zero_le _⟩

theorem InOrder.resolve (h : m.InOrder r) (path : String) : (m.resolve r path).1.InOrder r := by
  have hout := resolves m r path
  generalize m.resolve r path = out at hout ⊢
  cases hout with
  | exact => exact h
  | known unregistered current mem =>
    refine ⟨h.generation_le, fun _ e he => ?_, ?_, ?_⟩
    · rcases List.mem_cons.mp he with rfl | he
      · exact h.derived current _ mem
      · exact h.derived current e (List.mem_of_mem_filter he)
    · rw [List.map_cons, List.nodup_cons]
      exact ⟨by simp, h.nodup.sublist (List.filter_sublist.map _)⟩
    · have hshorter : (m.entries.filter fun d => d.1 != path).length < m.entries.length :=
        List.length_filter_lt_length_iff_exists.mpr ⟨_, mem, by simp⟩
      exact hshorter.trans_le h.length_le
  | @derive command unknown derived =>
    have hfresh := h.refresh
    refine ⟨hfresh.generation_le, fun hcurrent e he => ?_, ?_, ?_⟩
    · rcases List.mem_cons.mp (List.mem_of_mem_take he) with rfl | he
      · exact derived
      · exact hfresh.derived hcurrent e he
    · have hnodup : (((path, command) :: (m.refresh r.generation).entries).map Prod.fst).Nodup :=
        List.nodup_cons.mpr ⟨mt knows_iff_mem_refresh.mpr unknown, hfresh.nodup⟩
      exact hnodup.sublist ((List.take_sublist ..).map _)
    · exact (List.length_take_le _ _).trans (m.bound_refresh _).ge
  | nothing => exact ⟨h.refresh.generation_le, h.refresh.derived, h.refresh.nodup,
      h.refresh.length_le⟩

/-! ### What is not crowded out -/

/-- A path is remembered, **behind** some of these others and no further paths. -/
def Behind (m : RouteMemo) (path : String) (others : Finset String) : Prop :=
  ∃ front command back, m.entries = front ++ (path, command) :: back ∧ ∀ e ∈ front, e.1 ∈ others

theorem Behind.mem (h : m.Behind path others) : path ∈ m.entries.map Prod.fst := by
  obtain ⟨front, command, back, hentries, -⟩ := h
  simp [hentries]

/-- A path for which a command is derived comes to the front. -/
theorem behind_resolve (positive : 0 < m.bound)
    (derived : Route.derived? r.contains path = some command) (others : Finset String) :
    (m.resolve r path).1.Behind path others := by
  have hpath := Route.unregistered_of_derived derived
  have hout := resolves m r path
  generalize m.resolve r path = out at hout ⊢
  cases hout with
  | exact registered => simp [hpath] at registered
  | known unregistered current mem => exact ⟨[], _, _, rfl, by simp⟩
  | @derive command unknown derived =>
    obtain ⟨n, hn⟩ := Nat.exists_eq_succ_of_ne_zero positive.ne'
    refine ⟨[], command, (m.refresh r.generation).entries.take n, ?_, by simp⟩
    dsimp only
    rw [hn, List.take_succ_cons, List.nil_append]
  | nothing unregistered unknown underived => simp [derived] at underived

/-- Cutting a list behind a place leaves what is in front of it. -/
theorem take_append_cons {α : Type} (front back : List α) (x : α) {n : ℕ} (h : front.length < n) :
    ∃ rest, (front ++ x :: back).take n = front ++ x :: rest := by
  obtain ⟨k, hk⟩ := Nat.exists_eq_succ_of_ne_zero (Nat.sub_pos_of_lt h).ne'
  exact ⟨back.take k, by
    rw [List.take_append, List.take_of_length_le h.le, hk, List.take_succ_cons]⟩

/-- Resolving another path brings at most this path in front, so it crowds nothing out that is
behind fewer paths than the bound. -/
theorem Behind.resolve (hm : m.InOrder r) (current : m.generation = r.generation)
    (h : m.Behind path others) (room : others.card < m.bound) {other : String}
    (hother : other ≠ path → (Route.derived? r.contains other).isSome → other ∈ others) :
    (m.resolve r other).1.Behind path others := by
  obtain ⟨front, command, back, hentries, hfront⟩ := h
  have hout := resolves m r other
  generalize m.resolve r other = out at hout ⊢
  cases hout with
  | exact => exact ⟨front, command, back, hentries, hfront⟩
  | @known found unregistered _ mem =>
    by_cases hsame : other = path
    · subst hsame
      exact ⟨[], _, _, rfl, by simp⟩
    · have hmem := hother hsame (by rw [hm.derived current _ mem]; rfl)
      refine ⟨(other, found) :: front.filter fun d => d.1 != other, command,
        back.filter fun d => d.1 != other, ?_, ?_⟩
      · dsimp only
        rw [hentries, List.filter_append, List.filter_cons_of_pos (by simpa using Ne.symm hsame),
          List.cons_append]
      · exact List.forall_mem_cons.mpr ⟨hmem, fun e he => hfront e (List.mem_of_mem_filter he)⟩
  | @derive found unknown derived =>
    rw [refresh_of_eq current]
    have hnew : other ∉ m.entries.map Prod.fst := fun hmem => unknown ⟨current, hmem⟩
    have hne : other ≠ path := by
      rintro rfl
      exact hnew (by simp [hentries])
    have hall : ∀ e ∈ (other, found) :: front, e.1 ∈ others :=
      List.forall_mem_cons.mpr ⟨hother hne (by rw [derived]; rfl), hfront⟩
    have hnodup : (((other, found) :: front).map Prod.fst).Nodup := by
      have hwhole := hm.nodup
      rw [hentries, List.map_append] at hwhole hnew
      exact List.nodup_cons.mpr ⟨fun h => hnew (List.mem_append_left _ h),
        (List.nodup_append.mp hwhole).1⟩
    -- the paths in front are distinct, so they are fewer than the bound
    have hlength : ((other, found) :: front).length < m.bound := by
      have hsub : (((other, found) :: front).map Prod.fst).toFinset ⊆ others := by
        intro p hp
        obtain ⟨e, he, rfl⟩ := List.mem_map.mp (List.mem_toFinset.mp hp)
        exact hall e he
      have hcard := Finset.card_le_card hsub
      rw [List.toFinset_card_of_nodup hnodup, List.length_map] at hcard
      exact hcard.trans_lt room
    obtain ⟨rest, hrest⟩ := take_append_cons _ back (path, command) hlength
    refine ⟨(other, found) :: front, command, rest, ?_, hall⟩
    dsimp only
    rw [hentries, ← List.cons_append, hrest]
  | nothing =>
    rw [refresh_of_eq current]
    exact ⟨front, command, back, hentries, hfront⟩

end RouteMemo

/-! ### Histories -/

namespace Routing

variable {r : Routing} {path : String} {others : Finset String}

/-- The paths that are resolved in a history and that a command is derived for. -/
def derivedIn (registered : String → Bool) (acts : List Act) : Finset String :=
  (acts.filterMap fun
    | .resolve path => if (Route.derived? registered path).isSome then some path else none
    | .register _ _ => none).toFinset

theorem mem_derivedIn {registered : String → Bool} {acts : List Act} :
    path ∈ derivedIn registered acts ↔
      .resolve path ∈ acts ∧ (Route.derived? registered path).isSome := by
  unfold derivedIn
  rw [List.mem_toFinset, List.mem_filterMap]
  constructor
  · rintro ⟨act, hact, h⟩
    cases act with
    | register command t => cases h
    | resolve p =>
      dsimp only at h
      split at h
      · obtain rfl := Option.some.inj h
        exact ⟨hact, ‹_›⟩
      · cases h
  · rintro ⟨hact, h⟩
    exact ⟨_, hact, if_pos h⟩

theorem inOrder_after (low high capacity : ℕ) (acts : List Act) :
    (((blank low high capacity).after acts).memo.InOrder
      ((blank low high capacity).after acts).roster) ∧
      ((blank low high capacity).after acts).memo.bound = max capacity 1 := by
  induction acts using List.reverseRecOn with
  | nil => exact ⟨RouteMemo.inOrder_ofCapacity _ _, rfl⟩
  | append_singleton acts act ih =>
    rw [after, List.foldl_append]
    cases act with
    | register command t => exact ⟨ih.1.register command t, ih.2⟩
    | resolve path => exact ⟨ih.1.resolve path, (RouteMemo.bound_resolve ..).trans ih.2⟩

/-- While nothing is registered and commands are derived for fewer other paths than the bound, a
remembered path is not crowded out. -/
theorem behind_after (hm : r.memo.InOrder r.roster)
    (current : r.memo.generation = r.roster.generation) (h : r.memo.Behind path others)
    (room : others.card < r.memo.bound) (acts : List Act)
    (resolves : ∀ act ∈ acts, ∃ p, act = .resolve p)
    (hothers : (derivedIn r.roster.contains acts).erase path ⊆ others) :
    (r.after acts).memo.Knows (r.after acts).roster.generation path := by
  induction acts generalizing r with
  | nil => exact ⟨current, h.mem⟩
  | cons act acts ih =>
    obtain ⟨⟨p, rfl⟩, hrest⟩ := List.forall_mem_cons.mp resolves
    refine ih (r := r.perform (.resolve p)) (hm.resolve p) ?_ (h.resolve hm current room ?_) ?_
      hrest ?_
    · cases hp : r.roster.contains p with
      | true => simpa [perform, RouteMemo.resolve, hp] using current
      | false => exact RouteMemo.generation_resolve hp
    · intro hne hp
      exact hothers (Finset.mem_erase.mpr ⟨hne, mem_derivedIn.mpr ⟨List.mem_cons_self, hp⟩⟩)
    · exact room.trans_eq (RouteMemo.bound_resolve ..).symm
    · intro q hq
      obtain ⟨hne, hq⟩ := Finset.mem_erase.mp hq
      obtain ⟨hact, hq⟩ := mem_derivedIn.mp hq
      exact hothers (Finset.mem_erase.mpr
        ⟨hne, mem_derivedIn.mpr ⟨List.mem_cons_of_mem _ hact, hq⟩⟩)

/-- **What the memo saves.** After any history of registering and resolving, with a memo of any
capacity:

* it remembers no more paths than its bound;
* resolving a path makes one scan if the path is neither registered nor known for the present
  commands, and none otherwise; registering makes none;
* a path that is registered, or that no command is derived for, is not known, and resolving it puts
  nothing into the memo: nothing is remembered anew but a path for which a command was derived;
* a path for which a command was derived is resolved without a scan from then on, for as long as
  nothing is registered and commands are derived for fewer other paths than the bound. -/
theorem scans_and_recalls (low high capacity : ℕ) (acts : List Act) :
    let r := (blank low high capacity).after acts
    r.memo.entries.length ≤ max 1 capacity ∧
    (∀ path, (r.perform (.resolve path)).memo.scans = r.memo.scans +
      if r.roster.contains path ∨ r.memo.Knows r.roster.generation path then 0 else 1) ∧
    (∀ command t, (r.perform (.register command t)).memo = r.memo) ∧
    (∀ path, r.memo.Knows r.roster.generation path →
      (Route.derived? r.roster.contains path).isSome) ∧
    (∀ path, ∀ e ∈ (r.perform (.resolve path)).memo.entries,
      e ∈ r.memo.entries ∨ e.1 = path ∧ Route.derived? r.roster.contains path = some e.2) ∧
    ∀ path between, (Route.derived? r.roster.contains path).isSome →
      (∀ act ∈ between, ∃ p, act = .resolve p) →
      ((derivedIn r.roster.contains between).erase path).card < max 1 capacity →
        ((r.after (.resolve path :: between)).perform (.resolve path)).memo.scans =
          (r.after (.resolve path :: between)).memo.scans := by
  intro r
  obtain ⟨hm, hbound⟩ : r.memo.InOrder r.roster ∧ r.memo.bound = max capacity 1 :=
    inOrder_after low high capacity acts
  rw [max_comm] at hbound
  refine ⟨hbound ▸ hm.length_le, fun path => RouteMemo.scans_resolve .., fun _ _ => rfl,
    fun path ⟨hcurrent, hmem⟩ => ?_, fun path e he => RouteMemo.mem_entries_resolve he,
    fun path between hderived hresolves hfewer => ?_⟩
  · obtain ⟨e, he, rfl⟩ := List.mem_map.mp hmem
    rw [hm.derived hcurrent e he]
    rfl
  · obtain ⟨command, hcommand⟩ := Option.isSome_iff_exists.mp hderived
    have hpath := Route.unregistered_of_derived hcommand
    have hknows : (r.after (.resolve path :: between)).memo.Knows
        (r.after (.resolve path :: between)).roster.generation path :=
      behind_after (r := r.perform (.resolve path)) (hm.resolve path)
        (RouteMemo.generation_resolve hpath)
        (RouteMemo.behind_resolve (by omega) hcommand _)
        (hfewer.trans_eq (hbound.symm.trans (RouteMemo.bound_resolve ..).symm)) between hresolves
        (Finset.Subset.refl _)
    rw [perform, RouteMemo.scans_resolve, if_pos (.inr hknows), add_zero]

/-- A handler is registered. -/
def recallActs : List Act := [.register "/a" (.ofFunction fun _ => .answered {})]

/-- Paths are resolved, of which a command is derived for one other than `/a/b`. -/
def recallBetween : List Act :=
  [.resolve "/a/c", .resolve "/a", .resolve "/a/b", .resolve "/x", .resolve "/a/c"]

/-- A path is recalled by a memo that has room for two, after commands were derived for it and for
one other path. -/
theorem scans_and_recalls_sample :
    (Route.derived? ((blank 0 0 2).after recallActs).roster.contains "/a/b").isSome ∧
      ((derivedIn ((blank 0 0 2).after recallActs).roster.contains recallBetween).erase
        "/a/b").card < max 1 2 ∧
      ((((blank 0 0 2).after recallActs).after (.resolve "/a/b" :: recallBetween)).perform
        (.resolve "/a/b")).memo.scans = 3 := by
  have hderived : (Route.derived? ((blank 0 0 2).after recallActs).roster.contains
      "/a/b").isSome := by decide
  have hfewer : ((derivedIn ((blank 0 0 2).after recallActs).roster.contains recallBetween).erase
      "/a/b").card < max 1 2 := by decide
  have hresolves : ∀ act ∈ recallBetween, ∃ p, act = .resolve p := by simp [recallBetween]
  have hscans : (((blank 0 0 2).after recallActs).after
      (.resolve "/a/b" :: recallBetween)).memo.scans = 3 := by decide
  obtain ⟨-, -, -, -, -, hrecalls⟩ := scans_and_recalls 0 0 2 recallActs
  exact ⟨hderived, hfewer, (hrecalls "/a/b" recallBetween hderived hresolves hfewer).trans hscans⟩

end Routing

end Switchboard
