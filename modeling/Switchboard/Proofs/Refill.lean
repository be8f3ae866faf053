import Switchboard.Proofs.Stock

/-!
# The marks of the refills

Whoever takes an instance and finds too few left marks the command under the lock and starts a
refill, which takes the mark off when it is done. In between, a thread answers for the mark:
first the one that put it there, then the refill.

* `Roster.Moved` says everything that a thread can do in one move.
* `Roster.Tended` is the invariant of all interleavings: the marks are just the ones that threads
  answer for, and nobody answers for a mark twice. So there is one refill of a command at most.
* A refill whose copying panics answers for its mark for good: nobody takes it off, and no other
  refill of its command is started (`Roster.stranded`).
* `Roster.Steady` says that this is the only way to lose a mark: where copies never panic, no thread
  does, and a mark does not outlive its refill.

Main statement: `Roster.marks_of_refills`.
-/

namespace Switchboard

namespace Roster

variable {r r' : Roster} {key : String} {t t' u : Thread} {started : List Thread}
  {m : Move Roster Thread} {canStart : Bool}

/-! ### What a thread can do -/

/-- What a thread does in one move: the roster and the thread before and after it, and whom the
thread starts. -/
inductive Moved (r : Roster) : Thread → Roster → Thread → List Thread → Prop where
  | install (command : String) (template : Template) :
      Moved r (.registrar (.installing command template)) (r.install command template)
        (.registrar (.announcing command r.templates.length)) []
  | announce (command : String) (template : ℕ) :
      Moved r (.registrar (.announcing command template)) r.announce
        (.registrar (.registered command template)) []
  | find {command : String} {template : ℕ} (found : r.template? command = some template) :
      Moved r (.taker (.looking command)) r (.taker (.claiming command template)) []
  | fallBack (command : String) : Moved r (.taker (.looking command)) r (.taker .fallingBack) []
  | findDefault {template : ℕ} (found : r.template? defaultCommand = some template) :
      Moved r (.taker .fallingBack) r (.taker (.claiming defaultCommand template)) []
  | giveUp : Moved r (.taker .fallingBack) r (.taker .unserved) []
  | claim {key : String} (template : ℕ) {r' : Roster} {staged : Option Instance}
      (claimed : r.claim key = (r', staged, false)) :
      Moved r (.taker (.claiming key template)) r' (.taker (.ofClaim key template staged)) []
  | mark {key : String} (template : ℕ) {r' : Roster} {staged : Option Instance}
      (claimed : r.claim key = (r', staged, true)) :
      Moved r (.taker (.claiming key template)) r' (.taker (.spawning key template staged)) []
  | spawn (key : String) (template : ℕ) (staged : Option Instance) :
      Moved r (.taker (.spawning key template staged)) r
        (.taker (.ofClaim key template staged)) [.refill key (.copying key template)]
  | unmark (key : String) (template : ℕ) (staged : Option Instance) :
      Moved r (.taker (.spawning key template staged)) (r.unmark key)
        (.taker (.ofClaim key template staged)) []
  | serve (key : String) {template : ℕ} {r' : Roster} {i : Instance}
      (copied : r.copy template = (r', some i)) :
      Moved r (.taker (.copying key template)) r' (.taker (.served key i)) []
  | panic (key : String) {template : ℕ} {r' : Roster} (copied : r.copy template = (r', none)) :
      Moved r (.taker (.copying key template)) r' (.taker .panicked) []
  | refill (key : String) {f f' : Filler} {r' : Roster} (step : f.step r = some (r', f')) :
      Moved r (.refill key f) r' (.refill key f') []
  | refilled (key : String) : Moved r (.refill key .filled) (r.unmark key) (.refilled key) []
  | takeStock : Moved r .stocktaker r (.stager .filled r.inventory) []
  | stage (rest : List (String × ℕ)) {f f' : Filler} {r' : Roster}
      (step : f.step r = some (r', f')) : Moved r (.stager f rest) r' (.stager f' rest) []
  | next (key : String) (template : ℕ) (rest : List (String × ℕ)) :
      Moved r (.stager .filled ((key, template) :: rest)) r
        (.stager (.copying key template) rest) []

theorem Moved.goOn (hm : Move.goOn r' u = some m) (hself : m.self = some t')
    (h : Moved r t r' u []) : Moved r t m.shared t' m.started := by
  obtain rfl := Option.some.inj hm
  obtain rfl := Option.some.inj hself
  exact h

theorem moved_of_moveTaker {taker : Taker} (hm : r.moveTaker canStart taker = some m)
    (hself : m.self = some t') : Moved r (.taker taker) m.shared t' m.started := by
  cases taker with
  | looking command =>
    cases hn : r.template? command with
    | none =>
      simp only [moveTaker, hn] at hm
      exact .goOn hm hself (.fallBack command)
    | some n =>
      simp only [moveTaker, hn] at hm
      exact .goOn hm hself (.find hn)
  | fallingBack =>
    cases hn : r.template? defaultCommand with
    | none =>
      simp only [moveTaker, hn] at hm
      exact .goOn hm hself .giveUp
    | some n =>
      simp only [moveTaker, hn] at hm
      exact .goOn hm hself (.findDefault hn)
  | claiming key template =>
    rcases hclaim : r.claim key with ⟨r₁, staged, _ | _⟩
    · simp only [moveTaker, hclaim] at hm
      exact .goOn hm hself (.claim template hclaim)
    · simp only [moveTaker, hclaim] at hm
      exact .goOn hm hself (.mark template hclaim)
  | spawning key template staged =>
    by_cases hstart : canStart = true
    · simp only [moveTaker, if_pos hstart] at hm
      obtain rfl := Option.some.inj hm
      obtain rfl := Option.some.inj hself
      exact .spawn key template staged
    · simp only [moveTaker, if_neg hstart] at hm
      exact .goOn hm hself (.unmark key template staged)
  | copying key template =>
    rcases hcopy : r.copy template with ⟨r₁, _ | i⟩
    · simp only [moveTaker, hcopy] at hm
      exact .goOn hm hself (.panic key hcopy)
    · simp only [moveTaker, hcopy] at hm
      exact .goOn hm hself (.serve key hcopy)
  | served | unserved | panicked => cases hm

/-- Nothing else can happen in a move. -/
theorem moved_of_move (hm : move canStart r t = some m) (hself : m.self = some t') :
    Moved r t m.shared t' m.started := by
  cases t with
  | registrar g =>
    cases g with
    | installing command template => exact .goOn hm hself (.install command template)
    | announcing command template => exact .goOn hm hself (.announce command template)
    | registered => cases hm
  | taker taker => exact moved_of_moveTaker hm hself
  | refill key f =>
    cases f with
    | filled => exact .goOn hm hself (.refilled key)
    | copying | offering =>
      obtain ⟨_, hf, hm⟩ := Option.bind_eq_some_iff.mp hm
      exact .goOn hm hself (.refill key hf)
    | panicked => cases hm
  | refilled key => cases hm
  | stocktaker => exact .goOn hm hself .takeStock
  | stager f rest =>
    cases f with
    | filled =>
      cases rest with
      | nil => cases hm
      | cons entry rest => exact .goOn hm hself (.next entry.1 entry.2 rest)
    | copying | offering =>
      obtain ⟨_, hf, hm⟩ := Option.bind_eq_some_iff.mp hm
      exact .goOn hm hself (.stage rest hf)
    | panicked => cases hm

/-! ### What a move does to the marks -/

/-- The marks that a thread answers for. -/
def Thread.tends : Thread → Multiset String
  | .taker (.spawning key _ _) => {key}
  | .refill key _ => {key}
  | _ => 0

theorem tends_ofClaim (key : String) (template : ℕ) (staged : Option Instance) :
    (Thread.taker (.ofClaim key template staged)).tends = 0 := by
  cases staged <;> rfl

/-- A move leaves the marks alone, or puts one there, or takes one off. -/
inductive Marking (r : Roster) (t : Thread) (r' : Roster) (t' : Thread) (started : List Thread) :
    Prop where
  /-- The mark that the thread answers for may pass to one that it starts. -/
  | keeps (same : r'.refilling = r.refilling)
      (tends : t'.tends + (started.map Thread.tends).sum = t.tends)
  | marks (key : String) (free : key ∉ r.refilling) (more : r'.refilling = r.refilling ++ [key])
      (alone : started = []) (before : t.tends = 0) (after : t'.tends = {key})
  | unmarks (key : String) (less : r'.refilling = r.refilling.filter (· ≠ key))
      (alone : started = []) (before : t.tends = {key}) (after : t'.tends = 0)

theorem refilling_copy (r : Roster) (n : ℕ) : (r.copy n).1.refilling = r.refilling := by
  unfold copy
  split <;> rfl

theorem refilling_offer (r : Roster) (key : String) (i : Instance) :
    (r.offer key i).1.refilling = r.refilling := by
  unfold offer
  split
  · rfl
  · split <;> rfl

theorem refilling_step {f f' : Filler} (h : f.step r = some (r', f')) :
    r'.refilling = r.refilling := by
  cases f with
  | copying key template =>
    have hcopied := r.refilling_copy template
    rcases hcopy : r.copy template with ⟨r₁, _ | i⟩
    all_goals
      simp only [Filler.step, hcopy, Option.some.injEq, Prod.mk.injEq] at h hcopied
      rw [← h.1, hcopied]
  | offering key i =>
    have hoffered := r.refilling_offer key i
    rcases hoffer : r.offer key i with ⟨r₁, _ | _⟩
    all_goals
      simp only [Filler.step, hoffer, Option.some.injEq, Prod.mk.injEq] at h hoffered
      rw [← h.1, hoffered]
  | filled | panicked => cases h

/-- Only a command that is not marked is marked by a claim. -/
theorem not_mem_refilling_of_claim (h : (r.claim key).2.2 = true) : key ∉ r.refilling := by
  unfold claim at h
  split at h
  · cases h
  · simpa [isRefilling] using (Bool.and_eq_true_iff.mp h).2

theorem Moved.marking (h : Moved r t r' t' started) : Marking r t r' t' started := by
  cases h with
  | install | announce | find | fallBack | findDefault | giveUp | takeStock | next =>
    exact .keeps rfl rfl
  | @claim key template _ staged claimed =>
    have hmarks := r.refilling_claim key
    rw [claimed] at hmarks
    refine .keeps hmarks ?_
    rw [tends_ofClaim]
    rfl
  | @mark key template _ staged claimed =>
    have hmarks := r.refilling_claim key
    rw [claimed] at hmarks
    exact .marks key (not_mem_refilling_of_claim (by rw [claimed])) hmarks rfl rfl rfl
  | spawn key template staged =>
    refine .keeps rfl ?_
    rw [tends_ofClaim, zero_add]
    rfl
  | unmark key template staged => exact .unmarks key rfl rfl rfl (tends_ofClaim ..)
  | @serve key template _ i copied =>
    have hmarks := r.refilling_copy template
    rw [copied] at hmarks
    exact .keeps hmarks rfl
  | @panic key template _ copied =>
    have hmarks := r.refilling_copy template
    rw [copied] at hmarks
    exact .keeps hmarks rfl
  | refill key step => exact .keeps (refilling_step step) rfl
  | refilled key => exact .unmarks key rfl rfl rfl rfl
  | stage rest step => exact .keeps (refilling_step step) rfl

/-! ### Marks and threads -/

variable {c d : Crowd Roster Thread}

/-- The marks are the ones that threads answer for, and there is no mark twice. -/
structure Tended (c : Crowd Roster Thread) : Prop where
  tends : (c.threads.map Thread.tends).sum = (c.shared.refilling : Multiset String)
  nodup : c.shared.refilling.Nodup

theorem Tended.step (hc : c.shared.Stocked) (h : Tended c) (step : Crowd.Step move c d) :
    Tended d := by
  obtain ⟨_, t, t', m, before, after, hthreads, hm, hself, rfl, -⟩ := effect_of_step hc step
  obtain ⟨r, ts⟩ := c
  obtain rfl : ts = _ := hthreads
  obtain ⟨htends, hnodup⟩ := h
  rw [Crowd.sum_map_thread] at htends
  -- the other threads answer for what they answered for before
  have hafter : ((before ++ t' :: after ++ m.started).map Thread.tends).sum =
      t'.tends + (m.started.map Thread.tends).sum + ((before ++ after).map Thread.tends).sum := by
    rw [List.map_append, List.sum_append, Crowd.sum_map_thread, add_right_comm]
  cases (moved_of_move hm hself).marking with
  | keeps hsame hpassed => exact ⟨by rw [hafter, hpassed, htends, hsame], hsame ▸ hnodup⟩
  | marks key hfree hmore hstarted hbefore hmarked =>
    rw [hbefore, zero_add] at htends
    refine ⟨?_, ?_⟩
    · rw [hafter, hmarked, hstarted, htends, hmore, ← Multiset.coe_add, add_comm]
      rfl
    · rw [hmore]
      exact hnodup.append (List.nodup_singleton key) (by simpa using hfree)
  | unmarks key hless hstarted hbefore hunmarked =>
    refine ⟨?_, hless ▸ hnodup.filter _⟩
    have herase : r.refilling.filter (· ≠ key) = r.refilling.erase key := by
      rw [hnodup.erase_eq_filter]
      exact List.filter_congr fun x _ => Bool.eq_iff_iff.mpr (by simp)
    rw [hafter, hunmarked, hstarted, hless, herase, ← Multiset.coe_erase, ← htends, hbefore,
      Multiset.singleton_add, Multiset.erase_cons_head]
    exact zero_add _

theorem tended_empty (low high : ℕ) {threads : List Thread} (fresh : ∀ t ∈ threads, t.Fresh) :
    Tended ⟨empty low high, threads⟩ := by
  refine ⟨List.sum_eq_zero ?_, List.nodup_nil⟩
  simp only [List.mem_map, forall_exists_index, and_imp, forall_apply_eq_imp_iff₂]
  intro t ht
  cases fresh t ht <;> rfl

theorem mem_sum_tends {threads : List Thread} :
    key ∈ (threads.map Thread.tends).sum ↔ ∃ t ∈ threads, key ∈ t.tends := by
  induction threads with
  | nil => simp
  | cons t threads ih => simp [ih]

/-- A command is marked as long as some thread answers for the mark. -/
theorem Tended.isRefilling_iff (h : Tended c) (key : String) :
    c.shared.isRefilling key = true ↔ ∃ t ∈ c.threads, key ∈ t.tends := by
  rw [isRefilling, List.contains_iff_mem, ← Multiset.mem_coe, ← h.tends, mem_sum_tends]

/-- Two threads do not answer for one mark. -/
theorem Tended.eq_of_mem_tends (h : Tended c) {k k' : ℕ} (ht : c.threads[k]? = some t)
    (ht' : c.threads[k']? = some t') (hkey : key ∈ t.tends) (hkey' : key ∈ t'.tends) : k = k' := by
  by_contra hne
  have hnodup : (c.threads.map Thread.tends).sum.Nodup := h.tends ▸ h.nodup
  have hmem : t' ∈ c.threads.eraseIdx k :=
    List.mem_eraseIdx_iff_getElem?.mpr ⟨k', Ne.symm hne, ht'⟩
  rw [Crowd.sum_map_place Thread.tends ht, Multiset.nodup_add] at hnodup
  exact Multiset.disjoint_left.mp hnodup.2.2 hkey (mem_sum_tends.mpr ⟨t', hmem, hkey'⟩)

/-! ### Marks that stay -/

/-- A refill that panicked does nothing any more. -/
theorem panicked_step (hc : c.shared.Stocked) {k : ℕ}
    (h : c.threads[k]? = some (.refill key .panicked)) (step : Crowd.Step move c d) :
    d.threads[k]? = some (.refill key .panicked) := by
  obtain ⟨_, t, t', m, before, after, hthreads, hm, -, rfl, -⟩ := effect_of_step hc step
  rw [hthreads] at h
  rcases Crowd.getElem?_of_moved t' m.started h with ⟨rfl, -⟩ | h
  · cases hm
  · exact h

/-- A claim of a command that is marked starts no refill. -/
theorem snd_claim_of_isRefilling (h : r.isRefilling key = true) : (r.claim key).2.2 = false := by
  by_contra hclaim
  exact not_mem_refilling_of_claim (Bool.not_eq_false _ ▸ hclaim) (List.contains_iff_mem.mp h)

/-- **The mark of a refill that panicked.** It stays for good, and nobody starts a refill of that
command any more. -/
theorem stranded (hc : Sound c) (h : Tended c) {k : ℕ}
    (hk : c.threads[k]? = some (.refill key .panicked)) (reach : Crowd.Reaches move c d) :
    d.shared.isRefilling key = true ∧ (d.shared.claim key).2.2 = false := by
  obtain ⟨-, hd, hpanicked⟩ := hc.keeps
    (P := fun c => Tended c ∧ c.threads[k]? = some (.refill key .panicked)) reach ⟨h, hk⟩
    fun hc h step => ⟨h.1.step hc step, panicked_step hc h.2 step⟩
  have hmarked := (hd.isRefilling_iff key).mpr
    ⟨_, List.mem_of_getElem? hpanicked, Multiset.mem_singleton_self key⟩
  exact ⟨hmarked, snd_claim_of_isRefilling hmarked⟩

/-! ### Threads that do not panic -/

/-- Of so many templates, someone who stages copies goes by one, and no copying panicked. -/
def Filler.Steady (count : ℕ) : Filler → Prop
  | copying _ template => template < count
  | offering _ i => i.template < count
  | filled => True
  | panicked => False

/-- Of so many templates, someone who takes an instance goes by one, and no copying panicked. -/
def Taker.Steady (count : ℕ) : Taker → Prop
  | claiming _ template | spawning _ template _ | copying _ template => template < count
  | looking _ | fallingBack | served _ _ | unserved => True
  | panicked => False

/-- Of so many templates, a thread goes by one, and no copying panicked; a template that it is about
to install does not panic when it is copied. -/
def Thread.Steady (count : ℕ) : Thread → Prop
  | .registrar (.installing _ t) => ∀ n, t.copyPanics n = false
  | .taker u => u.Steady count
  | .refill _ f => f.Steady count
  | .stager f rest => f.Steady count ∧ ∀ entry ∈ rest, entry.2 < count
  | _ => True

theorem Filler.Steady.mono {f : Filler} {count count' : ℕ} (h : f.Steady count)
    (hle : count ≤ count') : f.Steady count' := by
  cases f with
  | copying | offering => exact Nat.lt_of_lt_of_le h hle
  | filled | panicked => exact h

theorem Taker.Steady.mono {u : Taker} {count count' : ℕ} (h : u.Steady count)
    (hle : count ≤ count') : u.Steady count' := by
  cases u with
  | claiming | spawning | copying => exact Nat.lt_of_lt_of_le h hle
  | looking | fallingBack | served | unserved | panicked => exact h

/-- More templates do no harm. -/
theorem Thread.Steady.mono {count count' : ℕ} (h : t.Steady count) (hle : count ≤ count') :
    t.Steady count' := by
  cases t with
  | registrar g => cases g <;> exact h
  | taker u => exact Taker.Steady.mono h hle
  | refill _ f => exact Filler.Steady.mono h hle
  | stager f rest => exact ⟨h.1.mono hle, fun entry hentry => (h.2 entry hentry).trans_le hle⟩
  | refilled | stocktaker => trivial

theorem alike_unmark (r : Roster) (key : String) : Alike r (r.unmark key) :=
  ⟨rfl, fun _ => rfl, rfl⟩

/-- A step of someone who stages copies, where copying does not panic. -/
theorem Filler.Steady.step {f f' : Filler} (h : f.Steady r.templates.length) (hs : r.Stocked)
    (hr : r.Reliable) (hf : f.step r = some (r', f')) :
    Alike r r' ∧ f'.Steady r.templates.length := by
  cases f with
  | copying key template =>
    obtain ⟨halike, -, htemplate⟩ := hs.copy template
    have hsome := r.copy_isSome h hr
    rcases hcopy : r.copy template with ⟨r₁, _ | i⟩
    · simp [hcopy] at hsome
    · simp only [Filler.step, hcopy, Option.some.injEq, Prod.mk.injEq] at hf halike htemplate
      obtain ⟨rfl, rfl⟩ := hf
      refine ⟨halike, ?_⟩
      rw [Filler.Steady, htemplate i rfl]
      exact h
  | offering key i =>
    obtain ⟨halike, -⟩ := hs.offer key i
    rcases hoffer : r.offer key i with ⟨r₁, _ | _⟩
    all_goals
      simp only [Filler.step, hoffer, Option.some.injEq, Prod.mk.injEq] at hf halike
      obtain ⟨rfl, rfl⟩ := hf
    · exact ⟨halike, trivial⟩
    · exact ⟨halike, h⟩
  | filled | panicked => cases hf

theorem Taker.Steady.ofClaim {count template : ℕ} (h : template < count) (key : String)
    (staged : Option Instance) : (Taker.ofClaim key template staged).Steady count := by
  cases staged with
  | none => exact h
  | some i => trivial

/-- What a move leaves behind does not panic either. -/
def Steadies (r : Roster) (t : Thread) (started : List Thread) : Prop :=
  r.Reliable ∧ ∀ v ∈ t :: started, v.Steady r.templates.length

/-- Where the templates stay the same, only the thread is to be looked at. -/
theorem Alike.steadies (h : Alike r r') (hr : r.Reliable) (ht : t.Steady r.templates.length) :
    Steadies r' t [] := by
  refine ⟨h.reliable hr, ?_⟩
  rw [List.forall_mem_singleton, h.length_templates]
  exact ht

theorem Moved.steadies (h : Moved r t r' t' started) (hs : r.Stocked) (hr : r.Reliable)
    (ht : t.Steady r.templates.length) : Steadies r' t' started := by
  cases h with
  | install command template =>
    refine ⟨fun u hu => ?_, List.forall_mem_singleton.mpr trivial⟩
    rw [Roster.install, List.map_append, List.mem_append] at hu
    rcases hu with hu | hu
    · exact hr u hu
    · obtain rfl := List.mem_singleton.mp hu
      exact ht
  | announce => exact ⟨hr, List.forall_mem_singleton.mpr trivial⟩
  | find found => exact (Alike.refl r).steadies hr (hs.lt_of_template? found)
  | findDefault found => exact (Alike.refl r).steadies hr (hs.lt_of_template? found)
  | fallBack | giveUp => exact (Alike.refl r).steadies hr trivial
  | @claim key template _ staged claimed =>
    obtain ⟨halike, -⟩ := hs.claim key
    rw [claimed] at halike
    exact halike.steadies hr (Taker.Steady.ofClaim ht key staged)
  | @mark key template _ staged claimed =>
    obtain ⟨halike, -⟩ := hs.claim key
    rw [claimed] at halike
    exact halike.steadies hr ht
  | spawn key template staged =>
    exact ⟨hr, List.forall_mem_cons.mpr
      ⟨Taker.Steady.ofClaim ht key staged, List.forall_mem_singleton.mpr ht⟩⟩
  | unmark key template staged =>
    exact (r.alike_unmark key).steadies hr (Taker.Steady.ofClaim ht key staged)
  | @serve key template _ i copied =>
    obtain ⟨halike, -⟩ := hs.copy template
    rw [copied] at halike
    exact halike.steadies hr trivial
  | @panic key template _ copied =>
    have hsome := r.copy_isSome ht hr
    simp [copied] at hsome
  | refill key step =>
    obtain ⟨halike, hsteady⟩ := Filler.Steady.step ht hs hr step
    exact halike.steadies hr hsteady
  | refilled key => exact (r.alike_unmark key).steadies hr trivial
  | takeStock =>
    refine (Alike.refl r).steadies hr ⟨trivial, fun entry hentry => ?_⟩
    obtain ⟨e, he, rfl⟩ := List.mem_map.mp hentry
    exact hs.known e he
  | stage rest step =>
    obtain ⟨halike, hsteady⟩ := Filler.Steady.step ht.1 hs hr step
    exact halike.steadies hr ⟨hsteady, ht.2⟩
  | next key template rest =>
    obtain ⟨hfirst, hrest⟩ := List.forall_mem_cons.mp ht.2
    exact (Alike.refl r).steadies hr ⟨hfirst, hrest⟩

/-- Copying does not panic, and nobody is about to change that. -/
structure Steady (c : Crowd Roster Thread) : Prop where
  reliable : c.shared.Reliable
  threads : ∀ t ∈ c.threads, t.Steady c.shared.templates.length

theorem Steady.step (hc : c.shared.Stocked) (h : Steady c) (step : Crowd.Step move c d) :
    Steady d := by
  obtain ⟨_, t, t', m, before, after, hthreads, hm, hself, rfl, heffect, -⟩ :=
    effect_of_step hc step
  have ht : t ∈ c.threads := by simp [hthreads]
  obtain ⟨hreliable, hsteady⟩ :=
    (moved_of_move hm hself).steadies hc h.reliable (h.threads t ht)
  have hle : c.shared.templates.length ≤ m.shared.templates.length := by
    simpa using heffect.later.templates.length_le
  refine ⟨hreliable, fun v hv => ?_⟩
  have hothers (hv : v ∈ c.threads) := (h.threads v hv).mono hle
  rw [hthreads] at hothers
  simp only [List.mem_append, List.mem_cons] at hv hothers hsteady
  rcases hv with (hv | rfl | hv) | hv
  · exact hothers (.inl hv)
  · exact hsteady v (.inl rfl)
  · exact hothers (.inr (.inr hv))
  · exact hsteady v (.inr hv)

/-- Where copying never panics, no thread does. -/
theorem steady_fresh (low high : ℕ) {threads : List Thread} (fresh : ∀ t ∈ threads, t.Fresh)
    (never : ∀ command template, Thread.registrar (.installing command template) ∈ threads →
      ∀ n, template.copyPanics n = false) : Steady ⟨empty low high, threads⟩ := by
  refine ⟨nofun, fun t ht => ?_⟩
  cases fresh t ht with
  | registrar command template => exact never command template ht
  | taker | stocktaker => trivial

/-! ### The marks -/

/-- A refill of this command is under way, or the thread is about to start one. -/
def Thread.Refills (key : String) : Thread → Prop
  | .taker (.spawning key' _ _) => key' = key
  | .refill key' f => key' = key ∧ f ≠ .panicked
  | _ => False

theorem Thread.mem_tends_iff :
    key ∈ t.tends ↔ t.Refills key ∨ t = .refill key .panicked := by
  cases t with
  | taker u => cases u <;> simp [Thread.tends, Thread.Refills, eq_comm]
  | refill key' f =>
    simp only [Thread.tends, Thread.Refills, Multiset.mem_singleton, Thread.refill.injEq]
    grind
  | registrar | refilled | stocktaker | stager => simp [Thread.tends, Thread.Refills]

/-- **The marks of the refills.** Whatever is registered, taken, refilled and staged by how many
threads and in whatever order:

* a command is marked exactly if a refill of it is under way, is about to be started or has
  panicked, and of such threads there is one at most;
* a command whose refill panicked stays marked, and no claim starts a refill of it any more;
* where copying never panics, no mark outlives its refill: once nobody is at it, a registered
  command is not marked, and the next claim that leaves fewer copies of it than the low mark starts
  a refill. -/
theorem marks_of_refills (low high : ℕ) {threads : List Thread} (fresh : ∀ t ∈ threads, t.Fresh)
    (reach : Crowd.Reaches move ⟨empty low high, threads⟩ c) (key : String) :
    (c.shared.isRefilling key = true ↔
      ∃ t ∈ c.threads, t.Refills key ∨ t = .refill key .panicked) ∧
    (∀ (k k' : ℕ) t t', c.threads[k]? = some t → c.threads[k']? = some t' →
      key ∈ t.tends → key ∈ t'.tends → k = k') ∧
    (.refill key .panicked ∈ c.threads → ∀ d, Crowd.Reaches move c d →
      d.shared.isRefilling key = true ∧ (d.shared.claim key).2.2 = false) ∧
    ((∀ command template, Thread.registrar (.installing command template) ∈ threads →
        ∀ n, template.copyPanics n = false) →
      (∀ t ∈ c.threads, ¬ t.Refills key) →
        c.shared.isRefilling key = false ∧ (c.shared.contains key = true →
          ((c.shared.claim key).2.2 = true ↔
            (c.shared.claim key).1.stagedLength key < c.shared.low))) := by
  obtain ⟨hsound, htended⟩ := (sound_empty low high fresh).keeps reach (tended_empty low high fresh)
    fun hc h step => h.step hc step
  have hmarked : c.shared.isRefilling key = true ↔
      ∃ t ∈ c.threads, t.Refills key ∨ t = .refill key .panicked := by
    simp only [htended.isRefilling_iff, Thread.mem_tends_iff]
  refine ⟨hmarked, fun _ _ _ _ => htended.eq_of_mem_tends, fun hpanicked d hd => ?_,
    fun never nobody => ?_⟩
  · obtain ⟨k, hk⟩ := List.mem_iff_getElem?.mp hpanicked
    exact stranded hsound htended hk hd
  · obtain ⟨-, hsteady⟩ := (sound_empty low high fresh).keeps reach
      (steady_fresh low high fresh never) fun hc h step => h.step hc step
    have hfree : c.shared.isRefilling key = false := by
      rw [← Bool.not_eq_true, hmarked]
      rintro ⟨t, ht, hrefills | rfl⟩
      · exact nobody t ht hrefills
      · exact hsteady.threads _ ht
    refine ⟨hfree, fun hcontains => ?_⟩
    have htemplate : (c.shared.template? key).isSome := by
      simpa [template?, contains] using hcontains
    rw [refills_claim htemplate, hfree]
    simp

/-- The first copy of a handler panics while a refill makes it; the second is handed out. Nobody is
left to take the mark off. -/
example :
    let t : Template := { handle := fun _ _ _ => .answered {}, copyPanics := fun n => n == 1 }
    let c := (Crowd.follow move true [0, 0, 1, 1, 1, 2, 1]
      ⟨empty 1 2, [.registrar (.installing "/a" t), .taker (.looking "/a")]⟩).2
    c.shared.isRefilling "/a" = true ∧
      c.threads[1]? = some (.taker (.served "/a" { template := 0, number := 2 })) ∧
      c.threads[2]? = some (.refill "/a" .panicked) :=
  ⟨rfl, rfl, rfl⟩

end Roster

end Switchboard
