import Switchboard.Proofs.Roster
import Switchboard.Proofs.Route

/-!
# One memo for several rosters

A memo is handed the roster with every path, and it may be handed a different one each time. What it
remembers is void as soon as it is asked for another generation, but a generation is only a number:
two rosters in which as many handlers were registered have the same one, and then the memo answers
for one roster what it derived from another.

* `Sharing.recent` is what a memo without a bound would remember of the paths that it was asked for,
  and `Sharing.Remembers` says that the memo has the front of it;
* `Sharing.mem_recent_take_iff` says in terms of the askings what this front is: an answer is still
  there if no other generation was asked for since, and answers for fewer other paths than the
  bound;
* `Sharing.exists_origin` traces every answer back to the roster that it was derived from.

Main statement: `Sharing.answered_from_another_iff`. It says exactly when a path is answered by a
command that is not registered in the roster it is asked for. The command is then registered in
another roster of the same generation. `Sharing.answered_from_another` is such a history.
-/

namespace Switchboard

/-- Rosters, by number, and the one memo of their routes. -/
structure Sharing where
  rosters : ℕ → Roster
  memo : RouteMemo

/-- A path for which the memo was asked: the generation of the roster it was asked for, and what was
answered. -/
structure Asking where
  generation : ℕ
  path : String
  answer : Option String
  deriving DecidableEq, Repr

namespace Sharing

/-! ### Histories -/

/-- What happens to the rosters and the memo. -/
inductive Act where
  | register (k : ℕ) (command : String) (t : Template)
  | resolve (k : ℕ) (path : String)

/-- Rosters without handlers and a memo without answers. -/
def blank (low high : ℕ → ℕ) (capacity : ℕ) : Sharing where
  rosters k := .empty (low k) (high k)
  memo := .ofCapacity capacity

/-- The answer for a path and a roster at present. -/
def answer (s : Sharing) (k : ℕ) (path : String) : Option String :=
  (s.memo.resolve (s.rosters k) path).2

/-- What one act leaves behind. -/
def perform (s : Sharing) : Act → Sharing
  | .register k command t =>
    { s with rosters := Function.update s.rosters k ((s.rosters k).register command t) }
  | .resolve k path => { s with memo := (s.memo.resolve (s.rosters k) path).1 }

/-- What a history of acts leaves behind. -/
def after (s : Sharing) (acts : List Act) : Sharing := acts.foldl perform s

/-- The commands that a history registers in a roster. -/
def registeredIn (k : ℕ) (acts : List Act) : List String :=
  acts.filterMap fun
    | .register j command _ => if j = k then some command else none
    | .resolve _ _ => none

/-- The memo is asked unless the path itself is registered. -/
def asked (s : Sharing) : Act → List Asking
  | .register _ _ _ => []
  | .resolve k path =>
    if (s.rosters k).contains path then []
    else [⟨(s.rosters k).generation, path, s.answer k path⟩]

/-- What the memo is asked for in the course of a history, the latest first. -/
def askings (s : Sharing) : List Act → List Asking
  | [] => []
  | act :: acts => askings (s.perform act) acts ++ s.asked act

variable {s : Sharing} {k : ℕ} {path command : String} {acts : List Act}

theorem after_snoc (s : Sharing) (acts : List Act) (act : Act) :
    s.after (acts ++ [act]) = (s.after acts).perform act := by
  simp [after]

theorem askings_snoc (s : Sharing) (acts : List Act) (act : Act) :
    s.askings (acts ++ [act]) = (s.after acts).asked act ++ s.askings acts := by
  induction acts generalizing s with
  | nil => simp [askings, after]
  | cons first acts ih =>
    rw [List.cons_append, askings, ih, askings, List.append_assoc]
    rfl

theorem registeredIn_append (k : ℕ) (acts more : List Act) :
    registeredIn k (acts ++ more) = registeredIn k acts ++ registeredIn k more :=
  List.filterMap_append

/-- After a history a roster has the commands that were registered in it, and its generation is
their number. -/
theorem rosters_after (low high : ℕ → ℕ) (capacity k : ℕ) (acts : List Act) :
    (((blank low high capacity).after acts).rosters k).contains = (registeredIn k acts).contains ∧
    (((blank low high capacity).after acts).rosters k).generation =
      (registeredIn k acts).length := by
  suffices h : (∀ command, (((blank low high capacity).after acts).rosters k).contains command =
      true ↔ command ∈ registeredIn k acts) ∧
      (((blank low high capacity).after acts).rosters k).generation =
        (registeredIn k acts).length by
    refine ⟨funext fun command => Bool.eq_iff_iff.mpr ?_, h.2⟩
    rw [h.1, List.contains_iff_mem]
  induction acts using List.reverseRecOn with
  | nil => exact ⟨fun command => by simp [after, blank, registeredIn], rfl⟩
  | append_singleton acts act ih =>
    rw [after_snoc, registeredIn_append]
    cases act with
    | register j command t =>
      by_cases hj : j = k
      · subst hj
        refine ⟨fun key => ?_, ?_⟩
        · have hlast : registeredIn j [.register j command t] = [command] := by simp [registeredIn]
          rw [hlast, List.mem_append, ← ih.1 key, List.mem_singleton, or_comm]
          simp [perform, Roster.contains_register]
        · simp [perform, registeredIn, ih.2]
      · have hk : k ≠ j := Ne.symm hj
        simpa [perform, registeredIn, hj, hk] using ih
    | resolve j path => simpa [perform, registeredIn] using ih

/-! ### Recent answers -/

/-- The paths that were given an answer. -/
def answered (askings : List Asking) : List String :=
  askings.filterMap fun a => a.answer.map fun _ => a.path

/-- What a memo without a bound remembers for a generation after these askings, the most recently
used answer first. -/
def recent (g : ℕ) : List Asking → List (String × String)
  | [] => []
  | a :: earlier =>
    if a.generation = g then
      match a.answer with
      | some command => (a.path, command) :: (recent g earlier).filter fun e => e.1 != a.path
      | none => recent g earlier
    else []

/-- An answer is **recalled** for a generation: since it was given, no other generation was asked
for, and there were answers for fewer other paths than the bound. -/
def Recalled (bound g : ℕ) (path command : String) (askings : List Asking) : Prop :=
  ∃ later earlier, askings = later ++ ⟨g, path, some command⟩ :: earlier ∧
    (∀ a ∈ later, a.generation = g) ∧ path ∉ answered later ∧
    (answered later).toFinset.card < bound

variable {g bound : ℕ} {askings later earlier : List Asking} {a : Asking} {e : String × String}

theorem recent_cons_some (ha : a.generation = g) (hanswer : a.answer = some command) :
    recent g (a :: earlier) =
      (a.path, command) :: (recent g earlier).filter fun e => e.1 != a.path := by
  rw [recent, if_pos ha, hanswer]

theorem recent_cons_none (ha : a.generation = g) (hanswer : a.answer = none) :
    recent g (a :: earlier) = recent g earlier := by
  rw [recent, if_pos ha, hanswer]

theorem recent_cons_other (ha : a.generation ≠ g) : recent g (a :: earlier) = [] := by
  rw [recent, if_neg ha]

theorem answered_cons_some (hanswer : a.answer = some command) :
    answered (a :: later) = a.path :: answered later := by
  simp [answered, hanswer]

theorem answered_cons_none (hanswer : a.answer = none) :
    answered (a :: later) = answered later := by
  simp [answered, hanswer]

/-- Every path is remembered once. -/
theorem nodup_recent (g : ℕ) (askings : List Asking) :
    ((recent g askings).map Prod.fst).Nodup := by
  induction askings with
  | nil => exact List.nodup_nil
  | cons a earlier ih =>
    by_cases ha : a.generation = g
    · cases hanswer : a.answer with
      | none => rwa [recent_cons_none ha hanswer]
      | some command =>
        rw [recent_cons_some ha hanswer, List.map_cons, List.nodup_cons]
        exact ⟨by simp, ih.sublist (List.filter_sublist.map _)⟩
    · rw [recent_cons_other ha]
      exact List.nodup_nil

/-- What is remembered was an answer, and since then no other generation was asked for and the path
was given no answer. -/
theorem exists_asking_of_mem (h : (path, command) ∈ recent g askings) :
    ∃ later earlier, askings = later ++ ⟨g, path, some command⟩ :: earlier ∧
      (∀ a ∈ later, a.generation = g) ∧ path ∉ answered later := by
  induction askings with
  | nil => cases h
  | cons a earlier ih =>
    by_cases ha : a.generation = g
    · cases hanswer : a.answer with
      | none =>
        rw [recent_cons_none ha hanswer] at h
        obtain ⟨later, earlier, rfl, hlater, hpath⟩ := ih h
        refine ⟨a :: later, earlier, rfl, List.forall_mem_cons.mpr ⟨ha, hlater⟩, ?_⟩
        rwa [answered_cons_none hanswer]
      | some found =>
        rw [recent_cons_some ha hanswer, List.mem_cons, List.mem_filter] at h
        rcases h with h | ⟨h, hne⟩
        · obtain ⟨rfl, rfl⟩ := Prod.mk.inj h
          refine ⟨[], earlier, ?_, by simp, by simp [answered]⟩
          rw [← ha, ← hanswer, List.nil_append]
        · obtain ⟨later, earlier, rfl, hlater, hpath⟩ := ih h
          refine ⟨a :: later, earlier, rfl, List.forall_mem_cons.mpr ⟨ha, hlater⟩, ?_⟩
          rw [answered_cons_some hanswer]
          simpa [hpath] using hne
    · rw [recent_cons_other ha] at h
      cases h

/-- In front of an answer are the paths that were given an answer since. -/
theorem recent_eq_append (command : String) (earlier : List Asking)
    (hlater : ∀ a ∈ later, a.generation = g) (hpath : path ∉ answered later) :
    ∃ front back, recent g (later ++ ⟨g, path, some command⟩ :: earlier) =
      front ++ (path, command) :: back ∧
        (front.map Prod.fst).toFinset = (answered later).toFinset := by
  induction later with
  | nil => exact ⟨[], _, recent_cons_some rfl rfl, rfl⟩
  | cons a later ih =>
    obtain ⟨ha, hlater⟩ := List.forall_mem_cons.mp hlater
    cases hanswer : a.answer with
    | none =>
      rw [answered_cons_none hanswer] at hpath ⊢
      rw [List.cons_append, recent_cons_none ha hanswer]
      exact ih hlater hpath
    | some found =>
      rw [answered_cons_some hanswer, List.mem_cons, not_or] at hpath
      obtain ⟨front, back, hrecent, hfront⟩ := ih hlater hpath.2
      rw [List.cons_append, recent_cons_some ha hanswer, hrecent, List.filter_append,
        List.filter_cons_of_pos (by simpa using hpath.1)]
      refine ⟨(a.path, found) :: front.filter fun e => e.1 != a.path, _, rfl, ?_⟩
      rw [answered_cons_some hanswer, List.map_cons, List.toFinset_cons, List.toFinset_cons,
        ← hfront]
      ext other
      by_cases hother : other = a.path <;> simp [hother]

/-- **What is still remembered.** The front of the recent answers, as far as the bound goes. -/
theorem mem_recent_take_iff : (path, command) ∈ (recent g askings).take bound ↔
    Recalled bound g path command askings := by
  have hcard : ∀ {front back : List (String × String)}, recent g askings =
      front ++ (path, command) :: back → (front.map Prod.fst).toFinset.card = front.length ∧
        (path, command) ∉ front := by
    intro front back h
    have hnodup := nodup_recent g askings
    rw [h, List.map_append, List.nodup_append] at hnodup
    refine ⟨by rw [List.toFinset_card_of_nodup hnodup.1, List.length_map], fun hmem => ?_⟩
    exact hnodup.2.2 path (List.mem_map_of_mem hmem) path (by simp) rfl
  constructor
  · intro h
    obtain ⟨later, earlier, rfl, hlater, hpath⟩ := exists_asking_of_mem (List.mem_of_mem_take h)
    obtain ⟨front, back, hrecent, hfront⟩ := recent_eq_append command earlier hlater hpath
    obtain ⟨hlength, hmem⟩ := hcard hrecent
    refine ⟨later, earlier, rfl, hlater, hpath, ?_⟩
    rw [← hfront, hlength]
    by_contra hle
    rw [hrecent, List.take_append_of_le_length (not_lt.mp hle)] at h
    exact hmem (List.mem_of_mem_take h)
  · rintro ⟨later, earlier, rfl, hlater, hpath, hlt⟩
    obtain ⟨front, back, hrecent, hfront⟩ := recent_eq_append command earlier hlater hpath
    rw [← hfront, (hcard hrecent).1] at hlt
    rw [hrecent, List.take_append, List.take_of_length_le hlt.le, List.mem_append]
    obtain ⟨n, hn⟩ := Nat.exists_eq_succ_of_ne_zero (Nat.sub_pos_of_lt hlt).ne'
    rw [hn]
    exact .inr List.mem_cons_self

theorem Recalled.mem (h : Recalled bound g path command askings) :
    ⟨g, path, some command⟩ ∈ askings := by
  obtain ⟨later, earlier, rfl, -⟩ := h
  exact List.mem_append_right _ List.mem_cons_self

/-- One answer is recalled for a path. -/
theorem Recalled.unique {other : String} (h : Recalled bound g path command askings)
    (h' : Recalled bound g path other askings) : command = other := by
  have hmem := List.mem_of_mem_take (mem_recent_take_iff.mpr h)
  have hmem' := List.mem_of_mem_take (mem_recent_take_iff.mpr h')
  exact (Prod.mk.inj (List.inj_on_of_nodup_map (nodup_recent g askings) hmem hmem' rfl)).2

/-! ### What the memo remembers -/

/-- A memo **remembers** the front of the recent answers, whatever generation it is asked for. -/
structure Remembers (bound : ℕ) (askings : List Asking) (m : RouteMemo) : Prop where
  bound_eq : m.bound = bound
  entries : ∀ g, (m.refresh g).entries = (recent g askings).take bound

/-- Cutting a list before something is taken out of it makes no difference to its front. -/
theorem take_filter_take {l : List (String × String)} (h : (l.map Prod.fst).Nodup) (path : String)
    (n : ℕ) : ((l.take (n + 1)).filter fun e => e.1 != path).take n =
      (l.filter fun e => e.1 != path).take n := by
  induction l generalizing n with
  | nil => simp
  | cons e l ih =>
    rw [List.map_cons, List.nodup_cons] at h
    rw [List.take_succ_cons]
    by_cases he : e.1 = path
    · subst he
      have hall : ∀ l' : List (String × String), l' ⊆ l → l'.filter (fun d => d.1 != e.1) = l' := by
        intro l' hl'
        refine List.filter_eq_self.mpr fun d hd => ?_
        have hne : d.1 ≠ e.1 := fun hd' => h.1 (hd' ▸ List.mem_map_of_mem (hl' hd))
        simpa using hne
      rw [List.filter_cons_of_neg (by simp), List.filter_cons_of_neg (by simp),
        hall _ (List.take_subset n l), hall l (List.Subset.refl l), List.take_take, min_self]
    · rw [List.filter_cons_of_pos (by simpa using he), List.filter_cons_of_pos (by simpa using he)]
      cases n with
      | zero => rfl
      | succ n => rw [List.take_succ_cons, List.take_succ_cons, ih h.2 n]

/-- An answer comes to the front of what is remembered. -/
theorem take_recent_cons {n : ℕ} (g : ℕ) (askings : List Asking) (path command : String) :
    (recent g (⟨g, path, some command⟩ :: askings)).take (n + 1) =
      ((path, command) :: ((recent g askings).take (n + 1)).filter fun e => e.1 != path).take
        (n + 1) := by
  rw [recent_cons_some (a := ⟨g, path, some command⟩) rfl rfl, List.take_succ_cons,
    List.take_succ_cons, take_filter_take (nodup_recent g askings)]

variable {m m' : RouteMemo} {r : Roster}

/-- A memo that was just asked is of the generation that it was asked for. -/
theorem remembers_cons (hbound : m.bound = bound) (hgeneration : m.generation = a.generation)
    (hentries : m.entries = (recent a.generation (a :: askings)).take bound) :
    Remembers bound (a :: askings) m where
  bound_eq := hbound
  entries g := by
    unfold RouteMemo.refresh
    by_cases hg : a.generation = g
    · rw [if_pos (hgeneration.trans hg), hentries, hg]
    · rw [if_neg fun h => hg (hgeneration.symm.trans h), recent_cons_other hg, List.take_nil]

/-- A path that is not registered is answered by what the memo remembers for the generation, or
else by a search. -/
theorem Remembers.resolve (h : Remembers bound askings m) (positive : 0 < bound)
    (hpath : r.contains path = false) :
    Remembers bound (⟨r.generation, path, (m.resolve r path).2⟩ :: askings) (m.resolve r path).1 ∧
      ((∃ command, (m.resolve r path).2 = some command ∧
          (path, command) ∈ (recent r.generation askings).take bound) ∨
        (∀ command, (path, command) ∉ (recent r.generation askings).take bound) ∧
          (m.resolve r path).2 = (Route.ancestors path).find? r.contains) := by
  obtain ⟨n, rfl⟩ := Nat.exists_eq_succ_of_ne_zero positive.ne'
  have hentries := h.entries r.generation
  have hbound : (m.refresh r.generation).bound = n + 1 := (m.bound_refresh _).trans h.bound_eq
  have hgeneration := RouteMemo.generation_refresh m r.generation
  have hunknown := m.lookUp_eq r.generation path
  generalize m.refresh r.generation = fresh at hentries hbound hgeneration hunknown
  cases hfind : fresh.entries.find? fun e => e.1 == path with
  | some e =>
    rw [hfind] at hunknown
    obtain rfl : e.1 = path := by simpa using List.find?_some hfind
    have hmem := List.mem_of_find?_eq_some hfind
    have hresolve : m.resolve r e.1 =
        ({ fresh with entries := e :: fresh.entries.filter fun d => d.1 != e.1 }, some e.2) := by
      simp [RouteMemo.resolve, hpath, hunknown]
    rw [hresolve]
    refine ⟨remembers_cons hbound hgeneration ?_, .inl ⟨e.2, rfl, hentries ▸ hmem⟩⟩
    rw [take_recent_cons, ← hentries, List.take_of_length_le]
    have hshorter : (fresh.entries.filter fun d => d.1 != e.1).length < fresh.entries.length :=
      List.length_filter_lt_length_iff_exists.mpr ⟨e, hmem, by simp⟩
    exact hshorter.trans_le (hentries ▸ List.length_take_le _ _)
  | none =>
    rw [hfind] at hunknown
    have hnone : ∀ command, (path, command) ∉ (recent r.generation askings).take (n + 1) := by
      rw [← hentries]
      intro command hmem
      simpa using List.find?_eq_none.mp hfind _ hmem
    cases hsearch : (Route.ancestors path).find? r.contains with
    | none =>
      have hresolve : m.resolve r path = (fresh.countScan, none) := by
        simp [RouteMemo.resolve, hpath, hunknown, hsearch]
      rw [hresolve]
      refine ⟨remembers_cons hbound hgeneration ?_, .inr ⟨hnone, rfl⟩⟩
      rw [recent_cons_none rfl rfl]
      exact hentries
    | some command =>
      have hresolve : m.resolve r path =
          (fresh.countScan.remember r.generation path command, some command) := by
        simp [RouteMemo.resolve, hpath, hunknown, hsearch]
      have hremember : fresh.countScan.remember r.generation path command =
          { fresh.countScan with entries :=
              ((path, command) :: fresh.entries.filter fun d => d.1 != path).take (n + 1) } := by
        rw [← hbound]
        exact if_pos hgeneration
      rw [hresolve, hremember]
      refine ⟨remembers_cons hbound hgeneration ?_, .inr ⟨hnone, rfl⟩⟩
      rw [take_recent_cons, ← hentries]

/-! ### Where an answer comes from -/

variable {low high : ℕ → ℕ} {capacity : ℕ}

/-- After a history the memo remembers the recent answers. -/
theorem remembers_after (low high : ℕ → ℕ) (capacity : ℕ) (acts : List Act) :
    Remembers (max capacity 1) ((blank low high capacity).askings acts)
      ((blank low high capacity).after acts).memo := by
  induction acts using List.reverseRecOn with
  | nil =>
    refine ⟨rfl, fun g => ?_⟩
    unfold RouteMemo.refresh
    split <;> exact List.take_nil.symm
  | append_singleton acts act ih =>
    rw [after_snoc, askings_snoc]
    cases act with
    | register k command t => exact ih
    | resolve k path =>
      cases hpath : (((blank low high capacity).after acts).rosters k).contains path with
      | true => simpa [perform, asked, RouteMemo.resolve, hpath] using ih
      | false =>
        have hresolve := (ih.resolve (le_max_right capacity 1) hpath).1
        simpa [perform, asked, hpath, answer] using hresolve

/-- A path that is not registered in a roster is answered by what is recalled, or else by a search
of this roster. -/
theorem answer_after (low high : ℕ → ℕ) (capacity : ℕ) (hpath : path ∉ registeredIn k acts) :
    (∃ command, ((blank low high capacity).after acts).answer k path = some command ∧
      Recalled (max capacity 1) (registeredIn k acts).length path command
        ((blank low high capacity).askings acts)) ∨
    (∀ command, ¬ Recalled (max capacity 1) (registeredIn k acts).length path command
        ((blank low high capacity).askings acts)) ∧
      ((blank low high capacity).after acts).answer k path =
        (Route.ancestors path).find? (registeredIn k acts).contains := by
  obtain ⟨hcontains, hgeneration⟩ := rosters_after low high capacity k acts
  have hpath' : (((blank low high capacity).after acts).rosters k).contains path = false := by
    rw [hcontains]
    simpa using hpath
  have hresolve :=
    ((remembers_after low high capacity acts).resolve (le_max_right capacity 1) hpath').2
  rw [hcontains, hgeneration] at hresolve
  simpa only [mem_recent_take_iff, answer] using hresolve

/-- Every answer of the memo goes back to an act that resolved the path for some roster of the same
generation, and is what the rule gives for this roster at that time. -/
theorem exists_origin (low high : ℕ → ℕ) (capacity : ℕ) (acts : List Act) :
    ∀ a ∈ (blank low high capacity).askings acts, ∀ command, a.answer = some command →
      ∃ j before after, acts = before ++ .resolve j a.path :: after ∧
        (registeredIn j before).length = a.generation ∧
          Route.Serves (registeredIn j before).contains a.path (some command) := by
  induction acts using List.reverseRecOn with
  | nil => simp [askings]
  | append_singleton acts act ih =>
    have hearlier : ∀ a ∈ (blank low high capacity).askings acts, ∀ command,
        a.answer = some command → ∃ j before after, acts ++ [act] =
          before ++ .resolve j a.path :: after ∧ (registeredIn j before).length = a.generation ∧
            Route.Serves (registeredIn j before).contains a.path (some command) := by
      intro a ha command hanswer
      obtain ⟨j, before, after, hacts, horigin⟩ := ih a ha command hanswer
      exact ⟨j, before, after ++ [act], by rw [hacts, List.append_assoc, List.cons_append], horigin⟩
    intro a ha command hanswer
    rw [askings_snoc, List.mem_append] at ha
    rcases ha with ha | ha
    · cases act with
      | register => cases ha
      | resolve k path =>
        obtain ⟨hcontains, hgeneration⟩ := rosters_after low high capacity k acts
        rw [asked, hcontains] at ha
        split at ha
        · cases ha
        · rename_i hpath
          obtain rfl := List.mem_singleton.mp ha
          dsimp only at hanswer ⊢
          rw [List.contains_iff_mem] at hpath
          rcases answer_after low high capacity hpath with ⟨found, hfound, hrecalled⟩ | ⟨-, hsearch⟩
          · obtain rfl := Option.some.inj (hanswer.symm.trans hfound)
            rw [hgeneration]
            exact hearlier _ hrecalled.mem command rfl
          · refine ⟨k, acts, [], rfl, hgeneration.symm, Route.lookup_eq_iff.mp ?_⟩
            rw [Route.lookup, if_neg (by simpa using hpath), ← hsearch, hanswer]
    · exact hearlier a ha command hanswer

/-- What the rule answers is registered. -/
theorem registered_of_serves {registered : List String}
    (h : Route.Serves registered.contains path (some command)) : command ∈ registered := by
  cases h with
  | exact h => exact List.contains_iff_mem.mp h
  | ancestor _ _ _ served => exact List.contains_iff_mem.mp served

/-- A command that is not registered in the roster can only be recalled. -/
theorem recalled_of_answer
    (hanswer : ((blank low high capacity).after acts).answer k path = some command)
    (hcommand : command ∉ registeredIn k acts) : path ∉ registeredIn k acts ∧
      Recalled (max capacity 1) (registeredIn k acts).length path command
        ((blank low high capacity).askings acts) := by
  have hpath : path ∉ registeredIn k acts := by
    intro hpath
    rw [answer, RouteMemo.resolve, (rosters_after low high capacity k acts).1,
      if_pos (List.contains_iff_mem.mpr hpath)] at hanswer
    exact hcommand (Option.some.inj hanswer ▸ hpath)
  refine ⟨hpath, ?_⟩
  rcases answer_after low high capacity hpath with ⟨found, hfound, hrecalled⟩ | ⟨-, hsearch⟩
  · rwa [Option.some.inj (hanswer.symm.trans hfound)]
  · have hfound := List.find?_some (hsearch.symm.trans hanswer)
    exact absurd (List.contains_iff_mem.mp hfound) hcommand

/-- **Answers from another roster.** After any history of registering in rosters and resolving paths
for them through one memo, a path is answered by a command that is not registered in the roster it
is asked for if and only if the path is not registered there either, and such an answer is recalled
for the number of registrations in this roster. It was then the right answer for another roster, in
which as many handlers had been registered when the path was resolved for it. -/
theorem answered_from_another_iff (low high : ℕ → ℕ) (capacity : ℕ) (acts : List Act) (k : ℕ)
    (path command : String) :
    (((blank low high capacity).after acts).answer k path = some command ∧
        (((blank low high capacity).after acts).rosters k).contains command = false ↔
      path ∉ registeredIn k acts ∧ command ∉ registeredIn k acts ∧
        Recalled (max capacity 1) (registeredIn k acts).length path command
          ((blank low high capacity).askings acts)) ∧
    (((blank low high capacity).after acts).answer k path = some command →
      (((blank low high capacity).after acts).rosters k).contains command = false →
        ∃ j before after, j ≠ k ∧ acts = before ++ .resolve j path :: after ∧
          (registeredIn j before).length = (registeredIn k acts).length ∧
            Route.Serves (registeredIn j before).contains path (some command)) := by
  have hunregistered : (((blank low high capacity).after acts).rosters k).contains command = false ↔
      command ∉ registeredIn k acts := by
    rw [(rosters_after low high capacity k acts).1]
    simp
  rw [hunregistered]
  refine ⟨⟨fun ⟨hanswer, hcommand⟩ => ?_, fun ⟨hpath, hcommand, h⟩ => ⟨?_, hcommand⟩⟩,
    fun hanswer hcommand => ?_⟩
  · obtain ⟨hpath, h⟩ := recalled_of_answer hanswer hcommand
    exact ⟨hpath, hcommand, h⟩
  · rcases answer_after low high capacity hpath with ⟨found, hfound, h'⟩ | ⟨hnone, -⟩
    · rw [hfound, h.unique h']
    · exact absurd h (hnone command)
  · obtain ⟨j, before, after, hacts, hlength, hserves⟩ := exists_origin low high capacity acts _
      (recalled_of_answer hanswer hcommand).2.mem command rfl
    refine ⟨j, before, after, ?_, hacts, hlength, hserves⟩
    -- what was registered in this roster when the path was resolved still is
    rintro rfl
    refine hcommand ?_
    rw [hacts, registeredIn_append]
    exact List.mem_append_left _ (registered_of_serves hserves)

/-- Two rosters with one handler each, and a path that both serve, by commands of their own. -/
def sampleActs : List Act :=
  [.register 0 "/a" (.ofFunction fun _ => .answered {}),
    .register 1 "/a/b" (.ofFunction fun _ => .answered {}), .resolve 0 "/a/b/c"]

/-- A memo answers for a roster with a command that is registered in another one only. -/
theorem answered_from_another :
    ((blank (fun _ => 0) (fun _ => 0) 16).after sampleActs).answer 1 "/a/b/c" = some "/a" ∧
      (((blank (fun _ => 0) (fun _ => 0) 16).after sampleActs).rosters 1).contains "/a" = false ∧
      Route.lookup (((blank (fun _ => 0) (fun _ => 0) 16).after sampleActs).rosters 1).contains
        "/a/b/c" = some "/a/b" := by
  decide

end Sharing

end Switchboard
