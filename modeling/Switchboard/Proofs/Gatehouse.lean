import Switchboard.Proofs.Visitor

/-!
# The threads of a gate

Among the threads that use a gate, what counts is where the list comes from that a visitor is
decided on by. `Gatehouse.Sound` follows the kept list, the loads under way and one visitor through
a run; `Gatehouse.Moves` says what every move keeps.

Dropping the kept list does not need the lock. So it may fall into a load, after the source was read
and before the outcome is kept, and the list that is kept then is older than the drop.

Main statement: `Gatehouse.Opening.decided_by_later_reading`. Whoever starts after the kept list was
dropped is decided on by a list that was read after that, or by what comes of a load that was under
way then; there is at most one, and none if nobody had the lock. `Gatehouse.drop_lost` is a run in
which a drop has no effect since a load is under way.
-/

namespace Switchboard

/-- Gates that were built alike. -/
structure Gate.Alike (g g' : Gate) : Prop where
  canaries : g'.canaries = g.canaries
  timeToLive : g'.timeToLive = g.timeToLive
  hosts : g'.hosts = g.hosts

namespace Gate.Alike

variable {g g' g'' : Gate}

theorem refl (g : Gate) : Alike g g := ⟨rfl, rfl, rfl⟩

theorem trans (h : Alike g g') (h' : Alike g' g'') : Alike g g'' where
  canaries := h'.canaries.trans h.canaries
  timeToLive := h'.timeToLive.trans h.timeToLive
  hosts := h'.hosts.trans h.hosts

theorem vet_eq (h : Alike g g') (now : ℕ) (read : Except AccessError (List String)) :
    vet g'.canaries g'.timeToLive now read = vet g.canaries g.timeToLive now read := by
  rw [h.canaries, h.timeToLive]

theorem admits_eq (h : Alike g g') (list : AllowList) (source : String)
    (reverse sensitive : Bool) :
    g'.admits list source reverse sensitive = g.admits list source reverse sensitive := by
  unfold admits
  rw [h.hosts]

theorem check (g : Gate) (list : AllowList) (source : String) (reverse sensitive : Bool) :
    Alike g (g.check list source reverse sensitive).1 := by
  unfold Gate.check
  split
  · exact refl g
  · split <;> exact ⟨rfl, rfl, rfl⟩

end Gate.Alike

namespace Gatehouse

variable {h h' : Gatehouse} {v : Visit} {s s' : Visitor} {t t' : Thread}
  {threads before after : List Thread}

/-! ### Who has the lock, and who loads -/

/-- The load that a visitor has begun. -/
def Visitor.loader? : Visitor → Option Loader
  | .loading _ l => some l
  | _ => none

/-- The load that a thread has begun. -/
def Thread.loader? : Thread → Option Loader
  | .visitor _ s => s.loader?
  | .loader l => some l
  | _ => none

/-- The reading of a load that is under way: the source was read, and what comes of it is not kept
yet. -/
def Loader.underWay? : Loader → Option ℕ
  | .vetting _ r => some r
  | .keeping _ r => some r
  | _ => none

/-- The reading of the load that a thread has under way. -/
def Thread.underWay? (t : Thread) : Option ℕ := t.loader?.bind Loader.underWay?

/-- How often a load has the lock. -/
def Loader.locks : Loader → ℕ
  | .loaded _ _ => 0
  | _ => 1

/-- How often a visitor has the lock. -/
def Visitor.locks : Visitor → ℕ
  | .confirming => 1
  | .loading _ l => l.locks
  | _ => 0

/-- How often a thread has the lock. -/
def Thread.locks : Thread → ℕ
  | .visitor _ s => s.locks
  | .loader l => l.locks
  | _ => 0

theorem Thread.locks_of_underWay {r : ℕ} (ht : t.underWay? = some r) : t.locks = 1 := by
  obtain ⟨l, hl, hr⟩ := Option.bind_eq_some_iff.mp ht
  have hlocks : l.locks = 1 := by
    cases l with
    | vetting | keeping => rfl
    | counting | reading | loaded => cases hr
  cases t with
  | visitor v s =>
    cases s with
    | loading again l' =>
      cases hl
      exact hlocks
    | _ => cases hl
  | loader l' =>
    cases hl
    exact hlocks
  | _ => cases hl

/-! ### Where lists come from -/

variable {g : Gate} {good good' : AllowList → ℕ → Prop} {l l' : Loader}

/-- The kept list is good. -/
def Keeps (h : Gatehouse) (good : AllowList → ℕ → Prop) : Prop :=
  ∀ list, h.gate.current = some list → good list h.keptReading

/-- Only a good list comes of a load under way. -/
def Loader.Yields (g : Gate) (good : AllowList → ℕ → Prop) : Loader → Prop
  | .vetting read r =>
    ∀ now list, Gate.vet g.canaries g.timeToLive now read = .ok list → good list r
  | .keeping (.ok list) r => good list r
  | _ => True

/-- Only a good list comes of the load that a thread has under way. -/
def Thread.Yields (g : Gate) (good : AllowList → ℕ → Prop) (t : Thread) : Prop :=
  ∀ l, t.loader? = some l → l.Yields g good

/-- A visitor has to do with good lists only, and is let through only by one that admits it. -/
def Visitor.Served (g : Gate) (good : AllowList → ℕ → Prop) (v : Visit) : Visitor → Prop
  | .loading _ (.loaded (.ok list) r) => good list r
  | .checking _ list r => good list r
  | .refused list r => good list r ∧ g.admits list v.source v.reverse v.caseSensitive = false
  | .decided answer none => answer = false
  | .decided answer (some r) =>
    ∃ list, good list r ∧ answer = g.admits list v.source v.reverse v.caseSensitive
  | _ => True

/-- A thread that asks has to do with good lists only. -/
def Thread.Served (g : Gate) (good : AllowList → ℕ → Prop) : Thread → Prop
  | .visitor v s => s.Served g good v
  | _ => True

theorem Thread.Yields.mono (ht : t.Yields g good) (hgood : ∀ list r, good list r → good' list r) :
    t.Yields g good' := by
  intro l hl
  have hyields := ht l hl
  cases l with
  | vetting read r => exact fun now list hvet => hgood list r (hyields now list hvet)
  | keeping result r =>
    cases result with
    | error e => trivial
    | ok list => exact hgood list r hyields
  | counting | reading | loaded => trivial

theorem Thread.Served.mono (ht : t.Served g good) (hgood : ∀ list r, good list r → good' list r) :
    t.Served g good' := by
  cases t with
  | visitor v s =>
    cases s with
    | loading again l =>
      cases l with
      | loaded result r =>
        cases result with
        | error e => trivial
        | ok list => exact hgood list r ht
      | counting | reading | vetting | keeping => trivial
    | checking again list r => exact hgood list r ht
    | refused list r => exact ⟨hgood list r ht.1, ht.2⟩
    | decided answer reading =>
      cases reading with
      | none => exact ht
      | some r =>
        obtain ⟨list, hlist, hanswer⟩ := ht
        exact ⟨list, hgood list r hlist, hanswer⟩
    | fetching | queueing | confirming => trivial
  | reloader | loader | invalidator | invalidated | editor | edited => trivial

/-! ### One move -/

/-- A list that is fetched is the one that is kept. -/
theorem current_of_fresh? {list : AllowList} {r : ℕ} (hf : h.fresh? = some (list, r)) :
    h.gate.current = some list ∧ h.keptReading = r := by
  obtain ⟨l, hl, heq⟩ := Option.map_eq_some_iff.mp hf
  obtain ⟨rfl, rfl⟩ := Prod.mk.inj heq
  exact ⟨(Option.filter_eq_some_iff.mp hl).1, rfl⟩

/-- What a load keeps: the lock passes on with it, and if the source, when it is read, gives good
lists only, good lists are kept. -/
structure Loads (h h' : Gatehouse) (l l' : Loader) : Prop where
  alike : h.gate.Alike h'.gate
  locks : l.locks ≤ h.locked.toNat → l'.locks + h.locked.toNat = l.locks + h'.locked.toNat
  keeps : ∀ {g good}, g.Alike h.gate → h.Keeps good → l.Yields g good →
    (l = .reading → ∀ now list,
      Gate.vet g.canaries g.timeToLive now h.gate.source.contents = .ok list →
        good list h.readings) →
    h'.Keeps good ∧ l'.Yields g good ∧ ∀ list r, l' = .loaded (.ok list) r → good list r

theorem loads_of_load (hload : h.load l = some (h', l')) : Loads h h' l l' := by
  cases l with
  | counting =>
    obtain ⟨rfl, rfl⟩ := Prod.mk.inj (Option.some.inj hload)
    exact ⟨⟨rfl, rfl, rfl⟩, fun _ => rfl, fun _ hk _ _ => ⟨hk, trivial, nofun⟩⟩
  | reading =>
    obtain ⟨rfl, rfl⟩ := Prod.mk.inj (Option.some.inj hload)
    exact ⟨⟨rfl, rfl, rfl⟩, fun _ => rfl, fun _ hk _ hread => ⟨hk, hread rfl, nofun⟩⟩
  | vetting read r =>
    obtain ⟨rfl, rfl⟩ := Prod.mk.inj (Option.some.inj hload)
    refine ⟨.refl _, fun _ => rfl, fun halike hk hyields _ => ⟨hk, ?_, nofun⟩⟩
    rw [halike.vet_eq]
    cases hvet : Gate.vet _ _ h.now read with
    | error e => trivial
    | ok list => exact hyields _ list hvet
  | keeping result r =>
    obtain ⟨rfl, rfl⟩ := Prod.mk.inj (Option.some.inj hload)
    refine ⟨⟨rfl, rfl, rfl⟩, fun hlocks => ?_, fun _ _ hyields _ => ⟨?_, trivial, ?_⟩⟩
    · have hheld : h.locked.toNat = 1 := le_antisymm (Bool.toNat_le _) hlocks
      simp only [Loader.locks, hheld, Bool.toNat_false]
    · intro list hlist
      cases result with
      | error e => cases hlist
      | ok kept =>
        cases hlist
        exact hyields
    · rintro list _ ⟨⟩
      exact hyields
  | loaded result r => cases hload

/-- What a visitor does when it does not load: the kept list stays, and good lists are passed on. -/
structure Talks (h h' : Gatehouse) (v : Visit) (s s' : Visitor) : Prop where
  alike : h.gate.Alike h'.gate
  current : h'.gate.current = h.gate.current
  keptReading : h'.keptReading = h.keptReading
  locks : s.locks ≤ h.locked.toNat → s'.locks + h.locked.toNat = s.locks + h'.locked.toNat
  loader : ∀ l, s'.loader? = some l → l = .counting
  served : ∀ {g good}, g.Alike h.gate → h.Keeps good → s.Served g good v → s'.Served g good v

/-- Whoever does not load is not elsewhere in a load. -/
theorem loader_of_idle (hs : s'.loader? = none) : ∀ l, s'.loader? = some l → l = .counting := by
  intro l hl
  rw [hs] at hl
  cases hl

theorem talks_of_fresh? {list : AllowList} {r : ℕ} (hf : h.fresh? = some (list, r))
    (hlocks : s.locks ≤ h.locked.toNat → h.locked.toNat = s.locks + h'.locked.toNat)
    (hgate : h'.gate = h.gate) (hreading : h'.keptReading = h.keptReading) :
    Talks h h' v s (.checking false list r) where
  alike := hgate ▸ .refl _
  current := congrArg Gate.current hgate
  keptReading := hreading
  locks hle := (Nat.zero_add _).trans (hlocks hle)
  loader := nofun
  served := by
    intro g good _ hkeeps _
    obtain ⟨hcurrent, rfl⟩ := current_of_fresh? hf
    exact hkeeps list hcurrent

theorem talks_of_check (again : Bool) (list : AllowList) (r : ℕ)
    (hask : h.ask v (.checking again list r) = some (h', s')) :
    Talks h h' v (.checking again list r) s' := by
  have halike := Gate.Alike.check h.gate list v.source v.reverse v.caseSensitive
  have hcurrent := Gate.current_check h.gate list v.source v.reverse v.caseSensitive
  have hadmits := Gate.snd_check h.gate list v.source v.reverse v.caseSensitive
  simp only [ask] at hask
  revert hask halike hcurrent hadmits
  rcases h.gate.check list v.source v.reverse v.caseSensitive with ⟨gate, answer⟩
  intro hask halike hcurrent hadmits
  cases answer with
  | true =>
    obtain ⟨rfl, rfl⟩ := Prod.mk.inj (Option.some.inj hask)
    exact ⟨halike, hcurrent, rfl, fun _ => rfl, loader_of_idle rfl, fun hg _ hlist =>
      ⟨list, hlist, hadmits.trans (hg.admits_eq ..)⟩⟩
  | false =>
    obtain ⟨rfl, rfl⟩ := Prod.mk.inj (Option.some.inj hask)
    cases again with
    | true =>
      exact ⟨halike, hcurrent, rfl, fun _ => rfl, loader_of_idle rfl, fun hg _ hlist =>
        ⟨list, hlist, hadmits.trans (hg.admits_eq ..)⟩⟩
    | false =>
      exact ⟨halike, hcurrent, rfl, fun _ => rfl, loader_of_idle rfl, fun hg _ hlist =>
        ⟨hlist, (hadmits.trans (hg.admits_eq ..)).symm⟩⟩

/-- Someone who asks goes on with a load, or does something else. -/
theorem ask_cases (hask : h.ask v s = some (h', s')) :
    Talks h h' v s s' ∨
      ∃ again l l', s = .loading again l ∧ s' = .loading again l' ∧ h.load l = some (h', l') := by
  cases s with
  | fetching =>
    left
    simp only [ask] at hask
    split at hask
    · obtain ⟨rfl, rfl⟩ := Prod.mk.inj (Option.some.inj hask)
      exact ⟨.refl _, rfl, rfl, fun _ => rfl, loader_of_idle rfl, fun _ _ _ => rfl⟩
    · split at hask
      next list r hf =>
        obtain ⟨rfl, rfl⟩ := Prod.mk.inj (Option.some.inj hask)
        exact talks_of_fresh? hf (fun _ => (Nat.zero_add _).symm) rfl rfl
      next hf =>
        obtain ⟨rfl, rfl⟩ := Prod.mk.inj (Option.some.inj hask)
        exact ⟨.refl _, rfl, rfl, fun _ => rfl, loader_of_idle rfl, fun _ _ _ => trivial⟩
  | queueing again =>
    left
    simp only [ask] at hask
    split at hask
    next => cases hask
    next hfree =>
      obtain ⟨rfl, rfl⟩ := Prod.mk.inj (Option.some.inj hask)
      have hfree : h.locked = false := Bool.eq_false_iff.mpr hfree
      cases again with
      | true =>
        refine ⟨.refl _, rfl, rfl, fun _ => ?_, fun l hl => (Option.some.inj hl).symm,
          fun _ _ _ => trivial⟩
        simp [hfree, Visitor.locks, Loader.locks]
      | false =>
        refine ⟨.refl _, rfl, rfl, fun _ => ?_, loader_of_idle rfl, fun _ _ _ => trivial⟩
        simp [hfree, Visitor.locks]
  | confirming =>
    left
    simp only [ask] at hask
    split at hask
    next list r hf =>
      obtain ⟨rfl, rfl⟩ := Prod.mk.inj (Option.some.inj hask)
      exact talks_of_fresh? hf (fun hle => le_antisymm (Bool.toNat_le _) hle) rfl rfl
    next hf =>
      obtain ⟨rfl, rfl⟩ := Prod.mk.inj (Option.some.inj hask)
      exact ⟨.refl _, rfl, rfl, fun _ => rfl, fun l hl => (Option.some.inj hl).symm,
        fun _ _ _ => trivial⟩
  | loading again l =>
    cases l with
    | loaded result r =>
      left
      cases result with
      | ok list =>
        obtain ⟨rfl, rfl⟩ := Prod.mk.inj (Option.some.inj hask)
        exact ⟨.refl _, rfl, rfl, fun _ => rfl, loader_of_idle rfl, fun _ _ hlist => hlist⟩
      | error e =>
        obtain ⟨rfl, rfl⟩ := Prod.mk.inj (Option.some.inj hask)
        exact ⟨.refl _, rfl, rfl, fun _ => rfl, loader_of_idle rfl, fun _ _ _ => rfl⟩
    | counting | reading | vetting | keeping =>
      right
      simp only [ask, Option.map_eq_some_iff] at hask
      obtain ⟨⟨h₁, l₁⟩, hload, heq⟩ := hask
      obtain ⟨rfl, rfl⟩ := Prod.mk.inj heq
      exact ⟨again, _, l₁, rfl, rfl, hload⟩
  | checking again list r => exact .inl (talks_of_check again list r hask)
  | refused list r =>
    left
    obtain ⟨rfl, rfl⟩ := Prod.mk.inj (Option.some.inj hask)
    split
    · exact ⟨.refl _, rfl, rfl, fun _ => rfl, loader_of_idle rfl, fun _ _ _ => trivial⟩
    · exact ⟨.refl _, rfl, rfl, fun _ => rfl, loader_of_idle rfl, fun _ _ hlist =>
        ⟨list, hlist.1, hlist.2.symm⟩⟩
  | decided answer reading => cases hask

/-- What every move keeps. -/
structure Moves (h h' : Gatehouse) (t t' : Thread) : Prop where
  alike : h.gate.Alike h'.gate
  locks : t.locks ≤ h.locked.toNat → t'.locks + h.locked.toNat = t.locks + h'.locked.toNat
  keeps : ∀ {g good}, g.Alike h.gate → h.Keeps good → t.Yields g good →
    (t.loader? = some .reading → ∀ now list,
      Gate.vet g.canaries g.timeToLive now h.gate.source.contents = .ok list →
        good list h.readings) →
    h'.Keeps good ∧ t'.Yields g good ∧ (t.Served g good → t'.Served g good)

theorem moves_of_moveNow {m : Move Gatehouse Thread} (hm : h.moveNow t = some m) :
    m.started = [] ∧ ∃ t', m.self = some t' ∧ Moves h m.shared t t' := by
  cases t with
  | visitor v s =>
    obtain ⟨⟨h', s'⟩, hask, heq⟩ := Option.bind_eq_some_iff.mp hm
    obtain rfl := Option.some.inj heq
    refine ⟨rfl, _, rfl, ?_⟩
    rcases ask_cases hask with htalks | ⟨again, l, l', rfl, rfl, hload⟩
    · refine ⟨htalks.alike, htalks.locks, fun hg hk _ _ => ⟨?_, ?_, htalks.served hg hk⟩⟩
      · intro list hlist
        rw [htalks.keptReading]
        exact hk list (htalks.current ▸ hlist)
      · intro l hl
        obtain rfl := htalks.loader l hl
        trivial
    · have hloads := loads_of_load hload
      refine ⟨hloads.alike, hloads.locks, fun hg hk hyields hread => ?_⟩
      obtain ⟨hk', hyields', hloaded⟩ := hloads.keeps hg hk (hyields l rfl) fun hl =>
        hread (congrArg some hl)
      refine ⟨hk', fun l hl => Option.some.inj hl ▸ hyields', fun _ => ?_⟩
      cases l' with
      | loaded result r =>
        cases result with
        | error e => trivial
        | ok list => exact hloaded list r rfl
      | counting | reading | vetting | keeping => trivial
  | reloader =>
    simp only [moveNow] at hm
    split at hm
    next => cases hm
    next hfree =>
      obtain rfl := Option.some.inj hm
      have hfree : h.locked = false := Bool.eq_false_iff.mpr hfree
      refine ⟨rfl, _, rfl, .refl _, fun _ => ?_, fun _ hk _ _ => ⟨hk, ?_, fun _ => trivial⟩⟩
      · simp [hfree, Thread.locks, Loader.locks]
      · rintro l ⟨⟩
        trivial
  | loader l =>
    obtain ⟨⟨h', l'⟩, hload, heq⟩ := Option.bind_eq_some_iff.mp hm
    obtain rfl := Option.some.inj heq
    have hloads := loads_of_load hload
    refine ⟨rfl, _, rfl, hloads.alike, hloads.locks, fun hg hk hyields hread => ?_⟩
    obtain ⟨hk', hyields', -⟩ := hloads.keeps hg hk (hyields l rfl) fun hl =>
      hread (congrArg some hl)
    exact ⟨hk', fun l hl => Option.some.inj hl ▸ hyields', fun _ => trivial⟩
  | invalidator =>
    obtain rfl := Option.some.inj hm
    exact ⟨rfl, _, rfl, ⟨rfl, rfl, rfl⟩, fun _ => rfl, fun _ _ _ _ =>
      ⟨nofun, nofun, fun _ => trivial⟩⟩
  | editor contents =>
    obtain rfl := Option.some.inj hm
    exact ⟨rfl, _, rfl, ⟨rfl, rfl, rfl⟩, fun _ => rfl, fun _ hk _ _ =>
      ⟨hk, nofun, fun _ => trivial⟩⟩
  | invalidated => cases hm
  | edited => cases hm

/-! ### Runs -/

/-- A list came of a reading of the source during these moves: it was compiled from what the source
held at that moment, and it passed the self-test. -/
def Loaded (g : Gate) (turns : List (Turn ℕ Gatehouse Thread)) (list : AllowList) : Prop :=
  ∃ u ∈ turns, u.thread.loader? = some .reading ∧ ∃ patterns now,
    u.before.gate.source.contents = .ok patterns ∧
      AllowList.compile patterns g.timeToLive now = .ok list ∧ list.selfTest g.canaries = .ok ()

/-- A list came of a reading during these moves, or of a load that was under way before them. -/
def Recent (g : Gate) (threads : List Thread) (turns : List (Turn ℕ Gatehouse Thread))
    (list : AllowList) (r : ℕ) : Prop :=
  Loaded g turns list ∨ ∃ t ∈ threads, t.underWay? = some r

theorem Recent.snoc {turns : List (Turn ℕ Gatehouse Thread)} {list : AllowList} {r : ℕ}
    (hrecent : Recent g threads turns list r) (u : Turn ℕ Gatehouse Thread) :
    Recent g threads (turns ++ [u]) list r := by
  rcases hrecent with ⟨u', hu', hload⟩ | hspared
  · exact .inl ⟨u', List.mem_append_left _ hu', hload⟩
  · exact .inr hspared

/-- Since no list was kept: only recent lists are kept and come of the loads under way, and the
thread at this place has to do with recent lists only. -/
structure Sound (g : Gate) (good : AllowList → ℕ → Prop) (k : ℕ)
    (c : Crowd Gatehouse Thread) : Prop where
  alike : g.Alike c.shared.gate
  keeps : c.shared.Keeps good
  yields : ∀ t ∈ c.threads, t.Yields g good
  served : ∃ t, c.threads[k]? = some t ∧ t.Served g good

theorem sound_of_dropped {k : ℕ} (dropped : h.gate.current = none)
    (starts : threads[k]? = some (.visitor v .fetching)) :
    Sound h.gate (Recent h.gate threads []) k ⟨h, threads⟩ where
  alike := .refl _
  keeps := by
    intro list hlist
    cases dropped.symm.trans hlist
  yields := by
    intro t ht l hl
    have hspared : ∀ r, l.underWay? = some r → t.underWay? = some r := fun r hr =>
      Option.bind_eq_some_iff.mpr ⟨l, hl, hr⟩
    cases l with
    | vetting read r => exact fun _ _ _ => .inr ⟨t, ht, hspared r rfl⟩
    | keeping result r =>
      cases result with
      | error e => trivial
      | ok list => exact .inr ⟨t, ht, hspared r rfl⟩
    | counting | reading | loaded => trivial
  served := ⟨_, starts, trivial⟩

/-- What a move keeps, as long as it does not read something that is not good. -/
theorem Sound.moved {k i : ℕ} {m : Move Gatehouse Thread}
    (hsound : Sound g good k ⟨h, before ++ t :: after⟩) (hm : move i h t = some m)
    (hread : t.loader? = some .reading → ∀ now list,
      Gate.vet g.canaries g.timeToLive now h.gate.source.contents = .ok list →
        good list h.readings) :
    Sound g good k ⟨m.shared, before ++ m.self.toList ++ after ++ m.started⟩ := by
  obtain ⟨hstarted, t', hself, hmoves⟩ := moves_of_moveNow hm
  obtain ⟨hkeeps, hyields, hserved⟩ := hmoves.keeps hsound.alike hsound.keeps
    (hsound.yields t (by simp)) hread
  have hthreads : before ++ m.self.toList ++ after ++ m.started = before ++ t' :: after := by
    simp [hstarted, hself]
  rw [hthreads]
  refine ⟨hsound.alike.trans hmoves.alike, hkeeps, fun u hu => ?_, ?_⟩
  · simp only [List.mem_append, List.mem_cons] at hu
    rcases hu with hu | rfl | hu
    · exact hsound.yields u (by simp [hu])
    · exact hyields
    · exact hsound.yields u (by simp [hu])
  · obtain ⟨u, hu, hserves⟩ := hsound.served
    have hplace := Crowd.getElem?_of_moved t' [] hu
    rw [List.append_nil] at hplace
    rcases hplace with ⟨rfl, ht'⟩ | hu
    · exact ⟨t', ht', hserved hserves⟩
    · exact ⟨u, hu, hserves⟩

theorem Sound.mono {k : ℕ} {c : Crowd Gatehouse Thread} (hsound : Sound g good k c)
    (hgood : ∀ list r, good list r → good' list r) : Sound g good' k c where
  alike := hsound.alike
  keeps list hlist := hgood list _ (hsound.keeps list hlist)
  yields t ht := (hsound.yields t ht).mono hgood
  served := by
    obtain ⟨t, ht, hserves⟩ := hsound.served
    exact ⟨t, ht, hserves.mono hgood⟩

/-- Once the kept list was dropped, a run keeps recent lists only. -/
theorem sound_of_run {k : ℕ} {turns : List (Turn ℕ Gatehouse Thread)}
    {e : Crowd Gatehouse Thread} (dropped : h.gate.current = none)
    (starts : threads[k]? = some (.visitor v .fetching))
    (run : Crowd.Run move ⟨h, threads⟩ turns e) :
    Sound h.gate (Recent h.gate threads turns) k e := by
  refine run.keeps (P := fun turns c => Sound h.gate (Recent h.gate threads turns) k c)
    (sound_of_dropped dropped starts) fun {turns i s t m} before after hm hsound => ?_
  -- what is recent grows with the run, so a list that is read by this move is recent after it
  refine (hsound.mono fun list r hr => hr.snoc _).moved hm fun hreading now list hvet => .inl ?_
  obtain ⟨patterns, hpatterns, hcompile, htest⟩ := Gate.vet_eq_ok_iff.mp hvet
  exact ⟨⟨i, t, s, m.shared⟩, by simp, hreading, patterns, now, hpatterns, hcompile, htest⟩

/-! ### The lock -/

/-- The lock is had once if at all. -/
def LockedOnce (c : Crowd Gatehouse Thread) : Prop :=
  (c.threads.map Thread.locks).sum = c.shared.locked.toNat

theorem LockedOnce.moved {i : ℕ} {m : Move Gatehouse Thread}
    (honce : LockedOnce ⟨h, before ++ t :: after⟩) (hm : move i h t = some m) :
    LockedOnce ⟨m.shared, before ++ m.self.toList ++ after ++ m.started⟩ := by
  obtain ⟨hstarted, t', hself, hmoves⟩ := moves_of_moveNow hm
  unfold LockedOnce at honce ⊢
  rw [Crowd.sum_map_thread] at honce
  rw [Crowd.sum_map_moved _ _ _ hself, hstarted]
  -- who leaves the lock had it, since nobody has it when it is free
  have hlocks := hmoves.locks (le_of_add_le_left honce.le)
  change t'.locks + h.locked.toNat = t.locks + m.shared.locked.toNat at hlocks
  change _ = h.locked.toNat at honce
  simp only [List.map_nil, List.sum_nil, add_zero]
  omega

/-- Only one load is under way at a time, and none if nobody has the lock. -/
theorem LockedOnce.of_underWay {c : Crowd Gatehouse Thread} {r : ℕ} (honce : LockedOnce c)
    (ht : t ∈ c.threads) (hr : t.underWay? = some r) :
    c.shared.locked = true ∧ ∃ before after, c.threads = before ++ t :: after ∧
      ∀ t' ∈ before ++ after, t'.underWay? = none := by
  obtain ⟨before, after, hsplit⟩ := List.append_of_mem ht
  unfold LockedOnce at honce
  rw [hsplit, Crowd.sum_map_thread, Thread.locks_of_underWay hr] at honce
  have hle := Bool.toNat_le c.shared.locked
  refine ⟨Bool.toNat_eq_one.mp (by omega), before, after, hsplit, fun t' ht' => ?_⟩
  cases hr' : t'.underWay? with
  | none => rfl
  | some r' =>
    have hone : t'.locks ≤ ((before ++ after).map Thread.locks).sum :=
      List.single_le_sum (fun _ _ => Nat.zero_le _) _ (List.mem_map_of_mem ht')
    rw [Thread.locks_of_underWay hr'] at hone
    omega

/-- What a thread is before it begins. -/
def Thread.Begins : Thread → Prop
  | .visitor _ .fetching | .reloader | .invalidator | .editor _ => True
  | _ => False

/-- A gate nobody has begun to use. It may keep a list already. -/
structure Opening (c : Crowd Gatehouse Thread) : Prop where
  free : c.shared.locked = false
  begins : ∀ t ∈ c.threads, t.Begins

theorem Opening.lockedOnce {c : Crowd Gatehouse Thread} (o : Opening c) : LockedOnce c := by
  unfold LockedOnce
  rw [o.free]
  refine List.sum_eq_zero fun n hn => ?_
  obtain ⟨t, ht, rfl⟩ := List.mem_map.mp hn
  have hbegins := o.begins t ht
  cases t with
  | visitor v s =>
    cases s with
    | fetching => rfl
    | _ => cases hbegins
  | loader l => cases hbegins
  | _ => rfl

/-- **A drop is lost only within a load.** Whatever threads there are, and in whatever order they
move: someone who starts after the kept list was dropped is turned down without a list, or is
decided on by a list. That list was compiled from what the source held at a moment after the drop,
and passed the self-test; or else it came of the reading of a load that was under way when the list
was dropped. There was no other such load then, and there is none where nobody has the lock. -/
theorem Opening.decided_by_later_reading {c e : Crowd Gatehouse Thread} {elapsed k : ℕ}
    {m : Move Gatehouse Thread} {turns later : List (Turn ℕ Gatehouse Thread)} {answer : Bool}
    {reading : Option ℕ} (o : Opening c)
    (reached : Crowd.Run move c turns ⟨h, before ++ .invalidator :: after⟩)
    (drop : move elapsed h .invalidator = some m)
    (run : Crowd.Run move ⟨m.shared, before ++ m.self.toList ++ after ++ m.started⟩ later e)
    (starts : (before ++ Thread.invalidator :: after)[k]? = some (.visitor v .fetching))
    (ends : e.threads[k]? = some (.visitor v (.decided answer reading))) :
    reading = none ∧ answer = false ∨ ∃ list r, reading = some r ∧
      answer = h.gate.admits list v.source v.reverse v.caseSensitive ∧
      (Loaded h.gate later list ∨
        h.locked = true ∧ ∃ front t back, before ++ .invalidator :: after = front ++ t :: back ∧
          t.underWay? = some r ∧ ∀ t' ∈ front ++ back, t'.underWay? = none) := by
  obtain rfl := Option.some.inj drop
  have honce : LockedOnce ⟨h, before ++ .invalidator :: after⟩ :=
    reached.keeps (P := fun _ c => LockedOnce c) o.lockedOnce fun before after hm honce =>
      honce.moved hm
  have hstarts := (Crowd.getElem?_of_moved .invalidated [] starts).resolve_left (by simp)
  have hsound := sound_of_run rfl (by simpa using hstarts) run
  obtain ⟨t, ht, hserved⟩ := hsound.served
  obtain rfl := Option.some.inj (ht.symm.trans ends)
  cases reading with
  | none => exact .inl ⟨rfl, hserved⟩
  | some r =>
    obtain ⟨list, hrecent, hanswer⟩ := hserved
    refine .inr ⟨list, r, rfl, hanswer, hrecent.imp id ?_⟩
    rintro ⟨t, ht, hr⟩
    -- who dropped the list has no load under way, before as after
    have hstill : t ∈ before ++ .invalidator :: after := by
      have hne : t ≠ .invalidated := by
        rintro rfl
        cases hr
      simpa [hne, or_left_comm] using Or.inr ht
    obtain ⟨hlocked, front, back, hsplit, hothers⟩ := honce.of_underWay hstill hr
    exact ⟨hlocked, front, t, back, hsplit, hr, hothers⟩

/-- A gate whose list admits a host name that every source has. -/
def sampleGate : Gate where
  source := .inline [""]
  canaries := ["canary"]
  timeToLive := 60
  hosts := fun _ => [""]

/-- A visitor that comes after a drop is let through by the list that it loads itself. -/
theorem decided_by_later_reading_sample :
    let v : Visit := { source := "10.0.0.1", reverse := true }
    ∃ turns e reading, Crowd.Run move ⟨{ gate := sampleGate }, [.invalidated, .visitor v .fetching]⟩
        turns e ∧ e.threads[1]? = some (.visitor v (.decided true reading)) ∧
      ∃ list, Loaded sampleGate turns list := by
  intro v
  have o : Opening ⟨{ gate := sampleGate }, [.invalidator, .visitor v .fetching]⟩ := by
    refine ⟨rfl, ?_⟩
    simp [Thread.Begins]
  obtain ⟨h', reading, reaches, -⟩ :=
    reaches_allow (h := { gate := sampleGate }) v [.invalidated] [] rfl
  obtain ⟨turns, run⟩ := Crowd.reaches_iff_exists_run.mp reaches
  have hallow : (sampleGate.allow {} v.source v.reverse v.caseSensitive).2 = true := by
    decide +kernel
  have ends : ([.invalidated, .visitor v (.decided (sampleGate.allow {} v.source v.reverse
      v.caseSensitive).2 reading)] : List Thread)[1]? =
        some (.visitor v (.decided true reading)) := by rw [hallow]; rfl
  have reached : Crowd.Run move ⟨{ gate := sampleGate }, [.invalidator, .visitor v .fetching]⟩ []
      ⟨{ gate := sampleGate }, [] ++ .invalidator :: [.visitor v .fetching]⟩ := .nil
  have drop : move 0 { gate := sampleGate } .invalidator =
      some ⟨{ gate := sampleGate.invalidate }, some .invalidated, []⟩ := rfl
  have starts : ([] ++ .invalidator :: [.visitor v .fetching] : List Thread)[1]? =
      some (.visitor v .fetching) := rfl
  refine ⟨turns, _, reading, run, ends, ?_⟩
  rcases o.decided_by_later_reading reached drop run starts ends with
    ⟨-, hanswer⟩ | ⟨list, r, -, -, hloaded | ⟨hlocked, -⟩⟩
  · cases hanswer
  · exact ⟨list, hloaded⟩
  · cases hlocked

/-- A visitor, someone who changes what the source holds, someone who drops the list, and a visitor
again. -/
def losingThreads (v : Visit) (contents : Except AccessError (List String)) : List Thread :=
  [.visitor v .fetching, .editor contents, .invalidator, .visitor v .fetching]

/-- **A drop may be lost.** While a visitor loads the list, after it has read the source, the source
comes to hold something else and the list is dropped. The visitor keeps what it has read all the
same, and whoever asks next is let through by that, although nothing was read since. -/
theorem drop_lost {list : AllowList} (contents : Except AccessError (List String))
    (empty : g.current = none)
    (loads : Gate.vet g.canaries g.timeToLive 0 g.source.contents = .ok list)
    (lives : list.expired 0 = false) (named : v.source ≠ "")
    (admits : g.admits list v.source v.reverse v.caseSensitive = true) :
    ∃ d e, Crowd.Reaches move ⟨{ gate := g }, losingThreads v contents⟩ d ∧
      d.threads[2]? = some .invalidated ∧ d.threads[3]? = some (.visitor v .fetching) ∧
      d.shared.gate.source.contents = contents ∧ Crowd.Reaches move d e ∧
      e.shared.readings = d.shared.readings ∧
      e.threads[3]? = some (.visitor v (.decided true (some 0))) := by
  have hnamed : v.source.isEmpty = false := by simpa using named
  let source : AllowSource := { description := g.source.description, contents }
  let d : Crowd Gatehouse Thread :=
    ⟨{ gate := { g with source, current := none, loads := g.loads + 1 }
       locked := true
       readings := 1 },
      [.visitor v (.loading false (.vetting g.source.contents 0)), .edited, .invalidated,
        .visitor v .fetching]⟩
  have hd : (Crowd.follow move 0 [0, 0, 0, 0, 0, 1, 2]
      ⟨{ gate := g }, losingThreads v contents⟩).2 = d := by
    simp [d, source, Crowd.follow, Crowd.nudge, losingThreads, move, moveNow, ask, load, hnamed,
      Move.goOn, fresh?, Gate.fresh?, empty, Gate.countLoad, Gate.invalidate, edit]
  obtain ⟨gate, hcheck⟩ : ∃ gate,
      Gate.check { g with source, current := some list, loads := g.loads + 1 } list v.source
        v.reverse v.caseSensitive = (gate, true) :=
    ⟨_, Prod.ext rfl ((Gate.snd_check ..).trans admits)⟩
  let e : Crowd Gatehouse Thread :=
    ⟨{ gate, readings := 1 },
      [.visitor v (.loading false (.loaded (.ok list) 0)), .edited, .invalidated,
        .visitor v (.decided true (some 0))]⟩
  have he : (Crowd.follow move 0 [0, 0, 3, 3] d).2 = e := by
    simp [d, e, source, Crowd.follow, Crowd.nudge, move, moveNow, ask, load, loads, hnamed,
      Move.goOn, fresh?, Gate.fresh?, Gate.keep, Except.toOption, lives, Option.filter_some, hcheck]
  exact ⟨d, e, Crowd.reaches_iff_exists_run.mpr ⟨_, hd ▸ Crowd.run_follow ..⟩, rfl, rfl, rfl,
    Crowd.reaches_iff_exists_run.mpr ⟨_, he ▸ Crowd.run_follow ..⟩, rfl, rfl⟩

/-- Somebody the source no longer admits is let through after the drop. -/
theorem admitted_after_drop :
    let v : Visit := { source := "10.0.0.1", reverse := true }
    ∃ d e, Crowd.Reaches move ⟨{ gate := sampleGate }, losingThreads v (.ok [])⟩ d ∧
      d.threads[2]? = some .invalidated ∧ d.threads[3]? = some (.visitor v .fetching) ∧
      d.shared.gate.source.contents = .ok [] ∧ Crowd.Reaches move d e ∧
      e.shared.readings = d.shared.readings ∧
      e.threads[3]? = some (.visitor v (.decided true (some 0))) := by
  let line : Regex := .cat (.look .textStart) (.cat .empty (.look .textEnd))
  let list : AllowList :=
    { patterns := [{ source := "", sensitive := line, insensitive := line }], timeToLive := 60 }
  have loads : Gate.vet sampleGate.canaries sampleGate.timeToLive 0 sampleGate.source.contents =
      .ok list := by rfl
  exact drop_lost (.ok []) rfl loads (by decide) (by decide) (by decide +kernel)

end Gatehouse

end Switchboard
