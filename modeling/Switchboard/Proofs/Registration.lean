import Switchboard.Proofs.Interleaving
import Switchboard.Proofs.Route
import Switchboard.Route.Thread

/-!
# Resolving while others register

Paths are resolved through one memo by many threads, while others register handlers, and the roster
may change between any two steps of one resolution. Who resolves reads the generation first and
searches afterwards, and who registers installs first and moves the generation on afterwards. So
whatever is searched for, remembered or answered for a generation takes account of every command
that was installed when the roster came to that generation (`Routing.Heeded`).

A slow thread may bring the memo back to an earlier generation. It forgets the answers then, so the
memo never has answers of another generation than its own, and an answer of an earlier generation
is of no use to those who came later (`Routing.Late`).

Main statement: `Routing.respects_registrations`. The answer for a path is registered and is the
path itself or an ancestor of it, and no longer command was registered before.
-/

namespace Switchboard

/-! ### Ancestors and the path itself -/

namespace Route

/-- A command **covers** a path if it is the path itself or one of its ancestors. -/
def Covers (command path : String) : Prop := command = path ∨ IsAncestor path command

/-- An ancestor is not longer than its path. -/
theorem length_le_of_isAncestor {path a : String} (h : IsAncestor path a) :
    a.length ≤ path.length := by
  obtain ⟨before, after, hpath, rfl⟩ := h
  have hlength : path.length = before.length + (after.length + 1) := by
    rw [← String.length_toList, hpath, List.length_append, List.length_cons]
  rw [length_upTo]
  omega

theorem Covers.length_le {command path : String} (h : Covers command path) :
    command.length ≤ path.length := by
  rcases h with rfl | h
  · exact le_rfl
  · exact length_le_of_isAncestor h

/-- No candidate is longer than those in front of it. -/
theorem length_le_of_suffix {path candidate a : String} {rest : List String}
    (h : candidate :: rest <:+ ancestors path) (ha : a ∈ candidate :: rest) :
    a.length ≤ candidate.length := by
  have hpair := (pairwise_ancestors path).sublist h.sublist
  rcases List.mem_cons.mp ha with rfl | ha
  · exact le_rfl
  · exact (List.pairwise_cons.mp hpair).1 a ha

end Route

/-! ### What a memo keeps -/

namespace RouteMemo

variable {m : RouteMemo} {generation : ℕ} {path command : String} {e : String × String}

theorem mem_entries_refresh (h : e ∈ (m.refresh generation).entries) :
    m.generation = generation ∧ e ∈ m.entries := by
  unfold refresh at h
  split at h
  · exact ⟨‹_›, h⟩
  · cases h

@[simp] theorem generation_lookUp (m : RouteMemo) (generation : ℕ) (path : String) :
    (m.lookUp generation path).1.generation = generation := by
  rw [lookUp_eq]
  split <;> exact generation_refresh m generation

/-- A memo that was asked has no answers but those it had for this generation. -/
theorem mem_entries_lookUp (h : e ∈ (m.lookUp generation path).1.entries) :
    m.generation = generation ∧ e ∈ m.entries := by
  rw [lookUp_eq] at h
  cases hf : (m.refresh generation).entries.find? fun e => e.1 == path with
  | none =>
    rw [hf] at h
    exact mem_entries_refresh h
  | some found =>
    rw [hf] at h
    rcases List.mem_cons.mp h with rfl | h
    · exact mem_entries_refresh (List.mem_of_find?_eq_some hf)
    · exact mem_entries_refresh (List.mem_of_mem_filter h)

/-- What a memo answers it had remembered for this generation. -/
theorem mem_entries_of_lookUp (h : (m.lookUp generation path).2 = some command) :
    m.generation = generation ∧ (path, command) ∈ m.entries := by
  rw [lookUp_eq] at h
  cases hf : (m.refresh generation).entries.find? fun e => e.1 == path with
  | none =>
    rw [hf] at h
    cases h
  | some found =>
    rw [hf] at h
    obtain rfl := Option.some.inj h
    obtain rfl : found.1 = path := by simpa using List.find?_some hf
    exact mem_entries_refresh (List.mem_of_find?_eq_some hf)

@[simp] theorem generation_remember (m : RouteMemo) (generation : ℕ) (path command : String) :
    (m.remember generation path command).generation = m.generation := by
  unfold remember
  split <;> rfl

/-- What is remembered anew is remembered for the generation of the memo. -/
theorem mem_entries_remember (h : e ∈ (m.remember generation path command).entries) :
    e ∈ m.entries ∨ m.generation = generation ∧ e = (path, command) := by
  unfold remember at h
  split at h
  · rcases List.mem_cons.mp (List.mem_of_mem_take h) with rfl | h
    · exact .inr ⟨‹_›, rfl⟩
    · exact .inl (List.mem_of_mem_filter h)
  · exact .inl h

end RouteMemo

namespace Routing

variable {r r' : Routing} {t t' : Thread} {c d : Crowd Routing Thread} {path a : String} {g k : ℕ}

/-! ### What a move can do -/

/-- A thread that has not done anything yet. -/
inductive Thread.Fresh : Thread → Prop where
  | registrar (command : String) (t : Template) : Fresh (.registrar (.installing command t))
  | resolver (path : String) : Fresh (.resolver path .checking)

/-- What a move does to the roster and the memo, and what becomes of the thread. -/
inductive Effect (r : Routing) : Thread → Routing → Thread → Prop where
  | install (command : String) (t : Template) :
    Effect r (.registrar (.installing command t)) { r with roster := r.roster.install command t }
      (.registrar (.announcing command r.roster.templates.length))
  | announce (command : String) (n : ℕ) :
    Effect r (.registrar (.announcing command n)) { r with roster := r.roster.announce }
      (.registrar (.registered command n))
  | exact (path : String) (h : r.roster.contains path = true) :
    Effect r (.resolver path .checking) r (.resolver path (.resolved (some path)))
  | unregistered (path : String) (h : r.roster.contains path = false) :
    Effect r (.resolver path .checking) r (.resolver path .reading)
  | read (path : String) :
    Effect r (.resolver path .reading) r (.resolver path (.lookingUp r.roster.generation))
  | remembered (path : String) (g : ℕ) (command : String)
    (h : (r.memo.lookUp g path).2 = some command) :
    Effect r (.resolver path (.lookingUp g)) { r with memo := (r.memo.lookUp g path).1 }
      (.resolver path (.resolved (some command)))
  | unknown (path : String) (g : ℕ) :
    Effect r (.resolver path (.lookingUp g)) { r with memo := (r.memo.lookUp g path).1 }
      (.resolver path (.counting g))
  | count (path : String) (g : ℕ) :
    Effect r (.resolver path (.counting g)) { r with memo := r.memo.countScan }
      (.resolver path (.probing g (Route.ancestors path)))
  | exhausted (path : String) (g : ℕ) :
    Effect r (.resolver path (.probing g [])) r (.resolver path (.resolved none))
  | found (path : String) (g : ℕ) (candidate : String) (rest : List String)
    (h : r.roster.contains candidate = true) :
    Effect r (.resolver path (.probing g (candidate :: rest))) r
      (.resolver path (.remembering g candidate))
  | passed (path : String) (g : ℕ) (candidate : String) (rest : List String)
    (h : r.roster.contains candidate = false) :
    Effect r (.resolver path (.probing g (candidate :: rest))) r
      (.resolver path (.probing g rest))
  | remember (path : String) (g : ℕ) (command : String) :
    Effect r (.resolver path (.remembering g command))
      { r with memo := r.memo.remember g path command }
      (.resolver path (.resolved (some command)))

theorem effect_of_move {i : Unit} {m : Move Routing Thread} (hm : move i r t = some m) :
    ∃ r' t', Effect r t r' t' ∧ m = ⟨r', some t', []⟩ := by
  cases t with
  | registrar registrar =>
    cases registrar with
    | installing command t => exact ⟨_, _, .install command t, (Option.some.inj hm).symm⟩
    | announcing command n => exact ⟨_, _, .announce command n, (Option.some.inj hm).symm⟩
    | registered command n => cases hm
  | resolver path s =>
    cases s with
    | checking =>
      obtain rfl := Option.some.inj hm
      cases h : r.roster.contains path with
      | true => exact ⟨_, _, .exact path h, by simp⟩
      | false => exact ⟨_, _, .unregistered path h, by simp⟩
    | reading => exact ⟨_, _, .read path, (Option.some.inj hm).symm⟩
    | lookingUp g =>
      rcases h : r.memo.lookUp g path with ⟨memo, _ | command⟩
      all_goals
        simp only [move, resolve, h] at hm
        obtain rfl := Option.some.inj hm
      · exact ⟨_, _, .unknown path g, by rw [h]⟩
      · exact ⟨_, _, .remembered path g command (by rw [h]), by rw [h]⟩
    | counting g => exact ⟨_, _, .count path g, (Option.some.inj hm).symm⟩
    | probing g candidates =>
      cases candidates with
      | nil => exact ⟨_, _, .exhausted path g, (Option.some.inj hm).symm⟩
      | cons candidate rest =>
        obtain rfl := Option.some.inj hm
        cases h : r.roster.contains candidate with
        | true => exact ⟨_, _, .found path g candidate rest h, by simp⟩
        | false => exact ⟨_, _, .passed path g candidate rest h, by simp⟩
    | remembering g command => exact ⟨_, _, .remember path g command, (Option.some.inj hm).symm⟩
    | resolved answer => cases hm

/-- A step as an effect on one thread at its place. -/
theorem effect_of_step (step : Crowd.Step move c d) :
    ∃ t r' t' before after, c.threads = before ++ t :: after ∧ Effect c.shared t r' t' ∧
      d = ⟨r', before ++ t' :: after⟩ := by
  obtain ⟨before, after, hm⟩ := step
  obtain ⟨r', t', heffect, rfl⟩ := effect_of_move hm
  exact ⟨_, r', t', before, after, rfl, heffect, by simp⟩

/-! ### What is registered stays so -/

/-- Registering goes on: more commands are registered, for a later generation. -/
structure Grows (r r' : Routing) : Prop where
  contains : ∀ command, r.roster.contains command = true → r'.roster.contains command = true
  generation : r.roster.generation ≤ r'.roster.generation

theorem Effect.grows (h : Effect r t r' t') : Grows r r' := by
  cases h with
  | install command t =>
    refine ⟨fun key hkey => ?_, le_rfl⟩
    have := Roster.contains_register r.roster command t key
    rw [hkey, Bool.or_true] at this
    exact this
  | announce command n => exact ⟨fun _ h => h, Nat.le_succ _⟩
  | _ => exact ⟨fun _ h => h, le_rfl⟩

/-! ### Answers come from somewhere -/

/-- What a thread has found out is right for the roster as it is now, though it may not be all that
there is. -/
def Thread.Grounded (r : Roster) : Thread → Prop
  | .registrar (.installing _ _) => True
  | .registrar (.announcing command _) => r.contains command = true
  | .registrar (.registered command _) => r.contains command = true
  | .resolver _ .checking => True
  | .resolver _ .reading => True
  | .resolver _ (.lookingUp g) => g ≤ r.generation
  | .resolver _ (.counting g) => g ≤ r.generation
  | .resolver path (.probing g candidates) =>
    g ≤ r.generation ∧ candidates <:+ Route.ancestors path
  | .resolver path (.remembering g command) =>
    g ≤ r.generation ∧ r.contains command = true ∧ Route.IsAncestor path command
  | .resolver path (.resolved answer) =>
    ∀ command, answer = some command → r.contains command = true ∧ Route.Covers command path

theorem Thread.Grounded.grows (h : t.Grounded r.roster) (hgrows : Grows r r') :
    t.Grounded r'.roster := by
  obtain ⟨hcontains, hgeneration⟩ := hgrows
  match t, h with
  | .registrar (.installing _ _), _ => trivial
  | .registrar (.announcing command _), h => exact hcontains command h
  | .registrar (.registered command _), h => exact hcontains command h
  | .resolver _ .checking, _ => trivial
  | .resolver _ .reading, _ => trivial
  | .resolver _ (.lookingUp _), h => exact le_trans h hgeneration
  | .resolver _ (.counting _), h => exact le_trans h hgeneration
  | .resolver _ (.probing _ _), h => exact ⟨h.1.trans hgeneration, h.2⟩
  | .resolver _ (.remembering _ command), h =>
    exact ⟨h.1.trans hgeneration, hcontains command h.2.1, h.2.2⟩
  | .resolver _ (.resolved _), h =>
    exact fun command hcommand => ⟨hcontains command (h command hcommand).1, (h command hcommand).2⟩

/-- Whatever is remembered is a registered ancestor, for a generation that the roster has come
to. -/
structure Grounded (r : Routing) : Prop where
  generation_le : r.memo.generation ≤ r.roster.generation
  entries : ∀ e ∈ r.memo.entries, r.roster.contains e.2 = true ∧ Route.IsAncestor e.1 e.2

theorem Effect.grounded (h : Effect r t r' t') (hr : Grounded r) (ht : t.Grounded r.roster) :
    Grounded r' ∧ t'.Grounded r'.roster := by
  have hgrows := h.grows
  cases h with
  | install command t =>
    refine ⟨⟨hr.generation_le, fun e he => ?_⟩, ?_⟩
    · exact ⟨hgrows.contains _ (hr.entries e he).1, (hr.entries e he).2⟩
    · have := Roster.contains_register r.roster command t command
      rw [decide_eq_true rfl, Bool.true_or] at this
      exact this
  | announce command n => exact ⟨⟨hr.generation_le.trans (Nat.le_succ _), hr.entries⟩, ht⟩
  | exact path h =>
    refine ⟨hr, fun command hcommand => ?_⟩
    obtain rfl := Option.some.inj hcommand
    exact ⟨h, .inl rfl⟩
  | unregistered path h => exact ⟨hr, trivial⟩
  | read path => exact ⟨hr, le_rfl⟩
  | remembered path g command h =>
    refine ⟨⟨(RouteMemo.generation_lookUp ..).trans_le ht, fun e he => ?_⟩, fun found hfound => ?_⟩
    · exact hr.entries e (RouteMemo.mem_entries_lookUp he).2
    · obtain rfl := Option.some.inj hfound
      obtain ⟨hcontains, hancestor⟩ := hr.entries _ (RouteMemo.mem_entries_of_lookUp h).2
      exact ⟨hcontains, .inr hancestor⟩
  | unknown path g =>
    refine ⟨⟨(RouteMemo.generation_lookUp ..).trans_le ht, fun e he => ?_⟩, ht⟩
    exact hr.entries e (RouteMemo.mem_entries_lookUp he).2
  | count path g => exact ⟨⟨hr.generation_le, hr.entries⟩, ht, List.suffix_refl _⟩
  | exhausted path g => exact ⟨hr, fun command hcommand => nomatch hcommand⟩
  | found path g candidate rest h =>
    refine ⟨hr, ht.1, h, Route.mem_ancestors.mp (ht.2.subset List.mem_cons_self)⟩
  | passed path g candidate rest h => exact ⟨hr, ht.1, (List.suffix_cons _ _).trans ht.2⟩
  | remember path g command =>
    refine ⟨⟨(RouteMemo.generation_remember ..).trans_le hr.generation_le, fun e he => ?_⟩,
      fun found hfound => ?_⟩
    · rcases RouteMemo.mem_entries_remember he with he | ⟨-, rfl⟩
      · exact hr.entries e he
      · exact ht.2
    · obtain rfl := Option.some.inj hfound
      exact ⟨ht.2.1, .inr ht.2.2⟩

/-! ### Commands that are heeded -/

/-- Whatever this thread comes to for this generation or a later one, it does not overlook the
command. -/
def Thread.Heeds (a : String) (g : ℕ) : Thread → Prop
  | .resolver path (.probing g' candidates) =>
    g ≤ g' → Route.IsAncestor path a → a ∈ candidates
  | .resolver path (.remembering g' command) =>
    g ≤ g' → Route.IsAncestor path a → a.length ≤ command.length
  | _ => True

/-- A registered command is **heeded** from a generation on that the roster has come to: no answer
that is remembered for this generation or a later one is shorter than the command where that is an
ancestor, too. -/
structure Heeded (a : String) (g : ℕ) (r : Routing) : Prop where
  contains : r.roster.contains a = true
  generation_le : g ≤ r.roster.generation
  entries : g ≤ r.memo.generation → ∀ e ∈ r.memo.entries,
    Route.IsAncestor e.1 a → a.length ≤ e.2.length

theorem Effect.heeds (h : Effect r t r' t') (hr : Heeded a g r) (hg : t.Grounded r.roster)
    (ht : t.Heeds a g) : Heeded a g r' ∧ t'.Heeds a g := by
  have hcontains := h.grows.contains a hr.contains
  have hgeneration := hr.generation_le.trans h.grows.generation
  cases h with
  | count path g' =>
    exact ⟨⟨hcontains, hgeneration, hr.entries⟩, fun _ ha => Route.mem_ancestors.mpr ha⟩
  | found path g' candidate rest h =>
    exact ⟨hr, fun hle ha => Route.length_le_of_suffix hg.2 (ht hle ha)⟩
  | passed path g' candidate rest h =>
    refine ⟨hr, fun hle ha => ?_⟩
    rcases List.mem_cons.mp (ht hle ha) with rfl | hrest
    · -- the command itself was probed, and it is registered
      rw [hr.contains] at h
      cases h
    · exact hrest
  | remembered | unknown =>
    refine ⟨⟨hcontains, hgeneration, fun hle e he ha => ?_⟩, trivial⟩
    obtain ⟨hsame, he⟩ := RouteMemo.mem_entries_lookUp he
    rw [RouteMemo.generation_lookUp, ← hsame] at hle
    exact hr.entries hle e he ha
  | remember path g' command =>
    refine ⟨⟨hcontains, hgeneration, fun hle e he ha => ?_⟩, trivial⟩
    rw [RouteMemo.generation_remember] at hle
    rcases RouteMemo.mem_entries_remember he with he | ⟨hsame, rfl⟩
    · exact hr.entries hle e he ha
    · exact ht (hsame ▸ hle) ha
  | install | announce => exact ⟨⟨hcontains, hgeneration, hr.entries⟩, trivial⟩
  | _ => exact ⟨hr, trivial⟩

/-- A command whose registration is announced is heeded from the new generation on, which nobody
else has come to. -/
theorem heeded_announce (hr : Grounded r) (hcontains : r.roster.contains a = true) :
    Heeded a (r.roster.generation + 1) { r with roster := r.roster.announce } where
  contains := hcontains
  generation_le := le_rfl
  entries hle := absurd (hle.trans hr.generation_le) (Nat.not_succ_le_self _)

theorem Thread.Grounded.heeds_next (h : t.Grounded r.roster) :
    t.Heeds a (r.roster.generation + 1) := by
  match t, h with
  | .registrar _, _ => trivial
  | .resolver _ .checking, _ => trivial
  | .resolver _ .reading, _ => trivial
  | .resolver _ (.lookingUp _), _ => trivial
  | .resolver _ (.counting _), _ => trivial
  | .resolver _ (.probing _ _), h => exact fun hle => absurd h.1 (by omega)
  | .resolver _ (.remembering _ _), h => exact fun hle => absurd h.1 (by omega)
  | .resolver _ (.resolved _), _ => trivial

/-! ### All threads at a time -/

/-- Memo and threads are grounded, and every command that was registered is heeded. -/
structure Heedful (c : Crowd Routing Thread) : Prop where
  grounded : Grounded c.shared
  threads : ∀ t ∈ c.threads, t.Grounded c.shared.roster
  heeded : ∀ command n, .registrar (.registered command n) ∈ c.threads →
    ∃ g, Heeded command g c.shared ∧ ∀ t ∈ c.threads, t.Heeds command g

/-- What is known of all threads before a step, and of the one that moves after it, is known of all
threads after the step. -/
theorem forall_mem_moved {P P' : Thread → Prop} {before after : List Thread}
    (h : ∀ u ∈ before ++ t :: after, P u) (others : ∀ u, P u → P' u) (self : P' t') :
    ∀ u ∈ before ++ t' :: after, P' u := by
  intro u hu
  rcases List.mem_append.mp hu with hu | hu
  · exact others u (h u (List.mem_append_left _ hu))
  · rcases List.mem_cons.mp hu with rfl | hu
    · exact self
    · exact others u (h u (List.mem_append_right _ (List.mem_cons_of_mem _ hu)))

/-- A command that is heeded goes on being heeded. -/
theorem Heedful.heeds_step (h : Heedful c) (step : Crowd.Step move c d) (hr : Heeded a g c.shared)
    (heeds : ∀ t ∈ c.threads, t.Heeds a g) :
    Heeded a g d.shared ∧ ∀ t ∈ d.threads, t.Heeds a g := by
  obtain ⟨t, r', t', before, after, hthreads, heffect, rfl⟩ := effect_of_step step
  have ht : t ∈ c.threads := by simp [hthreads]
  obtain ⟨hr', ht'⟩ := heffect.heeds hr (h.threads t ht) (heeds t ht)
  rw [hthreads] at heeds
  exact ⟨hr', forall_mem_moved heeds (fun _ hu => hu) ht'⟩

theorem Heedful.step (h : Heedful c) (step : Crowd.Step move c d) : Heedful d := by
  have hkeeps := fun {a g} => h.heeds_step (a := a) (g := g) step
  obtain ⟨t, r', t', before, after, hthreads, heffect, rfl⟩ := effect_of_step step
  have hall := h.threads
  rw [hthreads] at hall
  obtain ⟨hr', ht'⟩ := heffect.grounded h.grounded (hall t (by simp))
  refine ⟨hr', forall_mem_moved hall (fun _ hu => hu.grows heffect.grows) ht',
    fun command n hregistered => ?_⟩
  have hold (hmem : .registrar (.registered command n) ∈ c.threads) :=
    let ⟨g, hr, heeds⟩ := h.heeded command n hmem
    (⟨g, hkeeps hr heeds⟩ : ∃ g, Heeded command g r' ∧
      ∀ t ∈ before ++ t' :: after, t.Heeds command g)
  by_cases hself : t' = .registrar (.registered command n)
  · subst hself
    cases heffect with
    | announce =>
      have hcontains : c.shared.roster.contains command = true :=
        hall (.registrar (.announcing command n)) (by simp)
      refine ⟨_, heeded_announce h.grounded hcontains, ?_⟩
      exact forall_mem_moved hall (fun _ hu => hu.heeds_next) trivial
  · refine hold (hthreads ▸ ?_)
    have hne := Ne.symm hself
    simp only [List.mem_append, List.mem_cons, hne, false_or] at hregistered ⊢
    exact hregistered.imp_right .inr

theorem heedful_blank (low high capacity : ℕ) {threads : List Thread}
    (fresh : ∀ t ∈ threads, t.Fresh) : Heedful ⟨blank low high capacity, threads⟩ where
  grounded := ⟨le_rfl, fun e he => nomatch he⟩
  threads t ht := by cases fresh t ht <;> trivial
  heeded command n hmem := nomatch fresh _ hmem

/-! ### Who comes later -/

/-- Someone began to resolve a path when this command was heeded from this generation on: if the
command covers the path, it goes by no earlier generation and comes to no shorter answer. -/
def Resolver.Late (a : String) (g : ℕ) (path : String) : Resolver → Prop
  | .checking => True
  | .reading => a ≠ path
  | .lookingUp g' => g ≤ g' ∧ a ≠ path
  | .counting g' => g ≤ g' ∧ a ≠ path
  | .probing g' _ => g ≤ g' ∧ a ≠ path
  | .remembering g' _ => g ≤ g' ∧ a ≠ path
  | .resolved answer => ∃ found, answer = some found ∧ a.length ≤ found.length

/-- Who comes later than a command that covers the path has an answer that is at least as long. -/
theorem Effect.late {s : Resolver} (h : Effect r (.resolver path s) r' t')
    (covers : Route.Covers a path) (hr : Heeded a g r) (hs : s.Late a g path)
    (heeds : (Thread.resolver path s).Heeds a g) :
    ∃ s', t' = .resolver path s' ∧ s'.Late a g path := by
  have hancestor (hne : a ≠ path) : Route.IsAncestor path a := covers.resolve_left hne
  cases h with
  | exact _ h => exact ⟨_, rfl, path, rfl, covers.length_le⟩
  | unregistered _ h =>
    refine ⟨_, rfl, ?_⟩
    rintro rfl
    rw [hr.contains] at h
    cases h
  | read => exact ⟨_, rfl, hr.generation_le, hs⟩
  | remembered _ g' command h =>
    obtain ⟨hsame, he⟩ := RouteMemo.mem_entries_of_lookUp h
    exact ⟨_, rfl, command, rfl, hr.entries (hsame ▸ hs.1) _ he (hancestor hs.2)⟩
  | exhausted => cases heeds hs.1 (hancestor hs.2)
  | remember _ g' command => exact ⟨_, rfl, command, rfl, heeds hs.1 (hancestor hs.2)⟩
  | unknown | count | found | passed => exact ⟨_, rfl, hs⟩

/-- The thread at this place came later than a command that covers its path. -/
structure Follows (a : String) (g : ℕ) (path : String) (k : ℕ) (c : Crowd Routing Thread) :
    Prop where
  heeded : Heeded a g c.shared
  heeds : ∀ t ∈ c.threads, t.Heeds a g
  late : ∃ s, c.threads[k]? = some (.resolver path s) ∧ s.Late a g path

theorem Follows.step (h : Heedful c) (covers : Route.Covers a path) (hf : Follows a g path k c)
    (step : Crowd.Step move c d) : Follows a g path k d := by
  obtain ⟨hr, heeds⟩ := h.heeds_step step hf.heeded hf.heeds
  obtain ⟨t, r', t', before, after, hthreads, heffect, rfl⟩ := effect_of_step step
  refine ⟨hr, heeds, ?_⟩
  obtain ⟨s, hs, hlate⟩ := hf.late
  have hheeds := hf.heeds _ (List.mem_of_getElem? hs)
  rw [hthreads] at hs
  rcases Crowd.getElem?_of_moved t' [] hs with ⟨rfl, hs'⟩ | hs'
  · obtain ⟨s', rfl, hlate'⟩ := heffect.late covers hf.heeded hlate hheeds
    exact ⟨s', by simpa using hs', hlate'⟩
  · exact ⟨s, by simpa using hs', hlate⟩

/-! ### Registrations are respected -/

/-- **Registrations are respected.** However many threads resolve paths through one memo, of
whatever capacity, while others register handlers, and in whatever order they move: what a path is
answered by is registered, and is the path itself or an ancestor of it. If a command that covers the
path was registered before the resolving began, there is an answer, and it is at least as long. -/
theorem respects_registrations (low high capacity : ℕ) {threads : List Thread}
    (fresh : ∀ t ∈ threads, t.Fresh)
    (reach : Crowd.Reaches move ⟨blank low high capacity, threads⟩ c)
    (begins : c.threads[k]? = some (.resolver path .checking)) (reach' : Crowd.Reaches move c d)
    {answer : Option String} (ends : d.threads[k]? = some (.resolver path (.resolved answer))) :
    (∀ command, answer = some command →
      d.shared.roster.contains command = true ∧ Route.Covers command path) ∧
    ∀ (m : ℕ) command n, c.threads[m]? = some (.registrar (.registered command n)) →
      Route.Covers command path →
        ∃ found, answer = some found ∧ command.length ≤ found.length := by
  have hc : Heedful c :=
    reach.keeps (heedful_blank low high capacity fresh) fun step h => h.step step
  have hd : Heedful d := reach'.keeps hc fun step h => h.step step
  refine ⟨hd.threads _ (List.mem_of_getElem? ends), fun m command n hm covers => ?_⟩
  obtain ⟨g, hr, heeds⟩ := hc.heeded command n (List.mem_of_getElem? hm)
  obtain ⟨-, hfollows⟩ : Heedful d ∧ Follows command g path k d :=
    reach'.keeps (P := fun c => Heedful c ∧ Follows command g path k c)
      ⟨hc, hr, heeds, _, begins, trivial⟩
      fun step h => ⟨h.1.step step, h.2.step h.1 covers step⟩
  obtain ⟨s, hs, hlate⟩ := hfollows.late
  obtain ⟨-, rfl⟩ := Thread.resolver.inj (Option.some.inj (ends.symm.trans hs))
  exact hlate

/-- Two who register handlers, one for a longer command, and two who resolve the same path. -/
def sampleThreads : List Thread :=
  [.registrar (.installing "/a" (.ofFunction fun _ => .answered {})),
    .registrar (.installing "/a/b" (.ofFunction fun _ => .answered {})),
    .resolver "/a/b/c" .checking, .resolver "/a/b/c" .checking]

/-- Someone has read the generation before the longer command was registered. -/
def sampleRegistered : Crowd Routing Thread :=
  (Crowd.follow move () [0, 0, 2, 2, 1, 1] ⟨blank 0 0 1, sampleThreads⟩).2

/-- Who comes later has searched when the other one brings the memo back to the earlier
generation. -/
def sampleResolved : Crowd Routing Thread :=
  (Crowd.follow move () [3, 3, 3, 3, 3, 2, 3] sampleRegistered).2

/-- The longer command is the answer, though the memo is not of the present generation. -/
theorem respects_registrations_sample :
    (∀ t ∈ sampleThreads, t.Fresh) ∧
      sampleResolved.shared.memo.generation < sampleResolved.shared.roster.generation ∧
      sampleRegistered.threads[1]? = some (.registrar (.registered "/a/b" 1)) ∧
      sampleRegistered.threads[3]? = some (.resolver "/a/b/c" .checking) ∧
      sampleResolved.threads[3]? = some (.resolver "/a/b/c" (.resolved (some "/a/b"))) ∧
      sampleResolved.shared.roster.contains "/a/b" = true ∧
      ∃ found, some "/a/b" = some found ∧ "/a/b".length ≤ found.length := by
  have hfresh : ∀ t ∈ sampleThreads, t.Fresh := by
    simp only [sampleThreads, List.mem_cons, List.not_mem_nil, or_false]
    rintro t (rfl | rfl | rfl | rfl) <;> constructor
  have hbegins : sampleRegistered.threads[3]? = some (.resolver "/a/b/c" .checking) := rfl
  have hends : sampleResolved.threads[3]? = some (.resolver "/a/b/c" (.resolved (some "/a/b"))) :=
    rfl
  obtain ⟨hfound, hlonger⟩ := respects_registrations 0 0 1 hfresh
    (Crowd.reaches_iff_exists_run.mpr ⟨_, Crowd.run_follow ..⟩) hbegins
    (Crowd.reaches_iff_exists_run.mpr ⟨_, Crowd.run_follow ..⟩) hends
  have hcovers : Route.Covers "/a/b" "/a/b/c" := .inr ⟨"/a/b".toList, "c".toList, rfl, rfl⟩
  exact ⟨hfresh, by decide, rfl, hbegins, hends, (hfound _ rfl).1, hlonger 1 "/a/b" 1 rfl hcovers⟩

end Routing

end Switchboard
