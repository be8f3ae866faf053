import Switchboard.Proofs.Interleaving
import Switchboard.Shutdown.Thread

/-!
# The shutdown reaches everybody once

Any number of threads register components and request the shutdown, in any order, while the sweep
runs. `Shutdown.Deed` lists what a move can do. From it three laws follow for every run
(`Shutdown.Sound`): there is one sweep at most, and how far it is says what the flags and the list
of members are (`Shutdown.Stage`); who looks at the members is alone with them; and whoever is
registered is among the members, or in the hands of the sweep, or was reached.

Main statement: `Shutdown.Opening.reaches_everybody`. The switch is flipped once and never back, one
call starts the sweep, and when the sweep has ended every registered component was told to quit
exactly once, or was found quitting by the sweep and was not told.
-/

namespace Switchboard

namespace Shutdown

/-! ### What threads are about -/

/-- The components that a sweep has still in its hands. -/
def Sweeper.rest : Sweeper → Multiset ℕ
  | .looking rest => ↑rest
  | .telling id rest => id ::ₘ ↑rest
  | _ => 0

namespace Thread

/-- The sweep that a thread runs or is about to start. -/
def sweeps : Thread → Multiset Sweeper
  | .sweeper s | .requester (.sweeping s) => {s}
  | .requester (.starting _) => {.beginning}
  | _ => 0

/-- Whether a thread has the lock of the members. -/
def holds : Thread → ℕ
  | .enroller _ .asking | .enroller _ .confirming | .enroller _ .joining => 1
  | _ => 0

/-- Whether a thread is about to add a component to the members. -/
def joins : Thread → ℕ
  | .enroller _ .joining => 1
  | _ => 0

/-- Whether a thread is about to start the sweep. -/
def starts : Thread → ℕ
  | .requester (.starting _) => 1
  | _ => 0

/-- The component that a thread registers. -/
def enrolls : Thread → Multiset ℕ
  | .enroller id _ => {id}
  | _ => 0

/-- The component that a thread has registered. -/
def enrolled : Thread → Multiset ℕ
  | .enroller id .enrolled => {id}
  | _ => 0

/-- The component that the next move of a thread tells to quit. -/
def tells : Thread → List ℕ
  | .enroller id .telling => [id]
  | .sweeper (.telling id _) | .requester (.sweeping (.telling id _)) => [id]
  | _ => []

/-- The component that the next move of a sweep finds quitting and passes over. -/
def passes (s : Shutdown) : Thread → List ℕ
  | .sweeper (.looking (id :: _)) | .requester (.sweeping (.looking (id :: _))) =>
    if s.isQuitting id then [id] else []
  | _ => []

/-- A thread that has not done anything yet. -/
inductive Fresh : Thread → Prop where
  | enroller (id : ℕ) : Fresh (.enroller id .queueing)
  | requester (quit block : Bool) : Fresh (.requester (.asking quit block))
  | loner (id : ℕ) : Fresh (.loner id)

end Thread

/-- How a thread carries a sweep: the sweep is the thread, or a requester runs it. -/
inductive Carries : (Sweeper → Thread) → Prop where
  | alone : Carries .sweeper
  | inline : Carries fun s => .requester (.sweeping s)

/-! ### What a move can do -/

/-- What a step of the sweep does. -/
inductive Sweep (s : Shutdown) : Sweeper → Shutdown → Sweeper → Prop where
  /-- There was a sweep before. -/
  | again (ran : s.lifecycle.ran = true) : Sweep s .beginning { s with swept := true } .ended
  | begin_ (ran : s.lifecycle.ran = false) :
    Sweep s .beginning { s with lifecycle := { s.lifecycle with ran := true } } .taking
  | take (unlocked : s.locked = false) :
    Sweep s .taking { s with lifecycle := { s.lifecycle with members := [] } }
      (.looking s.lifecycle.members)
  | done : Sweep s (.looking []) { s with swept := true } .ended
  /-- A component is quitting already. -/
  | pass {id : ℕ} {rest : List ℕ} (quitting : s.isQuitting id = true) :
    Sweep s (.looking (id :: rest)) s (.looking rest)
  | pick {id : ℕ} {rest : List ℕ} (quitting : s.isQuitting id = false) :
    Sweep s (.looking (id :: rest)) s (.telling id rest)
  | tell {id : ℕ} {rest : List ℕ} : Sweep s (.telling id rest) (s.tell id) (.looking rest)

/-- What a move of a thread does: `Deed s t s' t' started` leads from a lifecycle and a thread to
what becomes of both, and to the threads that are started. -/
inductive Deed (s : Shutdown) : Thread → Shutdown → Thread → List Thread → Prop where
  /-- Someone who registers a component takes the lock. -/
  | lock {id : ℕ} (unlocked : s.locked = false) :
    Deed s (.enroller id .queueing) { s with locked := true } (.enroller id .asking) []
  | go {id : ℕ} (quitting : s.lifecycle.quitting = false) :
    Deed s (.enroller id .asking) s (.enroller id .confirming) []
  | stay {id : ℕ} (ran : s.lifecycle.ran = false) :
    Deed s (.enroller id .confirming) s (.enroller id .joining) []
  /-- It comes too late and leaves the lock. -/
  | late {id : ℕ} {e : Enroller} (h : e = .asking ∨ e = .confirming) :
    Deed s (.enroller id e) { s with locked := false } (.enroller id .telling) []
  | join {id : ℕ} :
    Deed s (.enroller id .joining)
      { s with
        locked := false
        lifecycle := { s.lifecycle with members := s.lifecycle.members ++ [id] } }
      (.enroller id .enrolled) []
  | tell {id : ℕ} : Deed s (.enroller id .telling) (s.tell id) (.enroller id .enrolled) []
  /-- A request that has no effect. -/
  | ignore {quit block : Bool} (h : quit = false ∨ s.lifecycle.quitting = true) :
    Deed s (.requester (.asking quit block)) s (.requester (.returned false)) []
  | flip {block : Bool} (h : s.lifecycle.quitting = false) :
    Deed s (.requester (.asking true block))
      { s with lifecycle := { s.lifecycle with switch := ⟨true⟩ } }
      (.requester (.starting block)) []
  | start {block : Bool} :
    Deed s (.requester (.starting block)) s
      (.requester (if block then .waiting else .returned true)) [.sweeper .beginning]
  /-- The sweep cannot be started as a thread. -/
  | inline {block : Bool} :
    Deed s (.requester (.starting block)) s (.requester (.sweeping .beginning)) []
  | sweep {carry : Sweeper → Thread} {sw sw' : Sweeper} {s' : Shutdown} (carries : Carries carry)
    (h : Sweep s sw s' sw') : Deed s (carry sw) s' (carry sw') []
  /-- The requester that ran the sweep is through. -/
  | finish : Deed s (.requester (.sweeping .ended)) s (.requester (.returned true)) []
  | awake (swept : s.swept = true) :
    Deed s (.requester .waiting) s (.requester (.returned true)) []
  /-- A component is made to quit without the lifecycle. -/
  | heed {id : ℕ} :
    Deed s (.loner id) { s with lifecycle := s.lifecycle.modify id (·.setFlag true) } .through []

variable {s s' : Shutdown} {t t' : Thread} {started : List Thread} {sw sw' : Sweeper}

theorem sweep_of_step (h : s.sweep sw = some (s', sw')) : Sweep s sw s' sw' := by
  cases sw with
  | beginning =>
    simp only [Shutdown.sweep] at h
    split at h <;> rename_i hran <;> obtain ⟨rfl, rfl⟩ := Prod.mk.inj (Option.some.inj h)
    · exact .again hran
    · exact .begin_ (Bool.eq_false_iff.mpr hran)
  | taking =>
    simp only [Shutdown.sweep] at h
    split at h
    · cases h
    · rename_i hlocked
      obtain ⟨rfl, rfl⟩ := Prod.mk.inj (Option.some.inj h)
      exact .take (Bool.eq_false_iff.mpr hlocked)
  | looking rest =>
    cases rest with
    | nil =>
      obtain ⟨rfl, rfl⟩ := Prod.mk.inj (Option.some.inj h)
      exact .done
    | cons id rest =>
      obtain ⟨rfl, rfl⟩ := Prod.mk.inj (Option.some.inj h)
      cases hquit : s.isQuitting id with
      | true => exact .pass hquit
      | false => exact .pick hquit
  | telling id rest =>
    obtain ⟨rfl, rfl⟩ := Prod.mk.inj (Option.some.inj h)
    exact .tell
  | ended => cases h

theorem deed_enroller {id : ℕ} {e e' : Enroller} (h : s.enroll id e = some (s', e')) :
    Deed s (.enroller id e) s' (.enroller id e') [] := by
  cases e with
  | queueing =>
    simp only [Shutdown.enroll] at h
    split at h
    · cases h
    · rename_i hlocked
      obtain ⟨rfl, rfl⟩ := Prod.mk.inj (Option.some.inj h)
      exact .lock (Bool.eq_false_iff.mpr hlocked)
  | asking =>
    simp only [Shutdown.enroll] at h
    split at h <;> rename_i hquit <;> obtain ⟨rfl, rfl⟩ := Prod.mk.inj (Option.some.inj h)
    · exact .late (.inl rfl)
    · exact .go (Bool.eq_false_iff.mpr hquit)
  | confirming =>
    simp only [Shutdown.enroll] at h
    split at h <;> rename_i hran <;> obtain ⟨rfl, rfl⟩ := Prod.mk.inj (Option.some.inj h)
    · exact .late (.inr rfl)
    · exact .stay (Bool.eq_false_iff.mpr hran)
  | joining =>
    obtain ⟨rfl, rfl⟩ := Prod.mk.inj (Option.some.inj h)
    exact .join
  | telling =>
    obtain ⟨rfl, rfl⟩ := Prod.mk.inj (Option.some.inj h)
    exact .tell
  | enrolled => cases h

theorem deed_sweep {carry : Sweeper → Thread} (carries : Carries carry)
    {m : Move Shutdown Thread}
    (h : ((s.sweep sw).bind fun (s, sw) => Move.goOn s (carry sw)) = some m) :
    ∃ t', m.self = some t' ∧ Deed s (carry sw) m.shared t' m.started := by
  obtain ⟨⟨s', sw'⟩, hstep, hm⟩ := Option.bind_eq_some_iff.mp h
  obtain rfl := Option.some.inj hm
  exact ⟨_, rfl, .sweep carries (sweep_of_step hstep)⟩

theorem deed_requester {canStart : Bool} {r : Requester} {m : Move Shutdown Thread}
    (h : s.moveRequester canStart r = some m) :
    ∃ t', m.self = some t' ∧ Deed s (.requester r) m.shared t' m.started := by
  cases r with
  | asking quit block =>
    simp only [moveRequester, Switch.set] at h
    cases quit with
    | false =>
      obtain rfl := Option.some.inj h
      exact ⟨_, rfl, .ignore (.inl rfl)⟩
    | true =>
      cases hquit : s.lifecycle.switch.quitting with
      | true =>
        simp only [hquit] at h
        obtain rfl := Option.some.inj h
        exact ⟨_, rfl, .ignore (.inr hquit)⟩
      | false =>
        simp only [hquit] at h
        obtain rfl := Option.some.inj h
        exact ⟨_, rfl, .flip hquit⟩
  | starting block =>
    cases canStart with
    | true =>
      obtain rfl := Option.some.inj h
      exact ⟨_, rfl, .start⟩
    | false =>
      obtain rfl := Option.some.inj h
      exact ⟨_, rfl, .inline⟩
  | sweeping sw =>
    cases sw with
    | ended =>
      obtain rfl := Option.some.inj h
      exact ⟨_, rfl, .finish⟩
    | beginning | taking | looking | telling => exact deed_sweep .inline h
  | waiting =>
    simp only [moveRequester] at h
    split at h
    · rename_i hswept
      obtain rfl := Option.some.inj h
      exact ⟨_, rfl, .awake hswept⟩
    · cases h
  | returned flipped => cases h

/-- Every move is a deed. -/
theorem deed_of_move {i : Bool} {m : Move Shutdown Thread} (h : move i s t = some m) :
    ∃ t', m.self = some t' ∧ Deed s t m.shared t' m.started := by
  cases t with
  | enroller id e =>
    obtain ⟨⟨s', e'⟩, hstep, hm⟩ := Option.bind_eq_some_iff.mp h
    obtain rfl := Option.some.inj hm
    exact ⟨_, rfl, deed_enroller hstep⟩
  | requester r => exact deed_requester h
  | sweeper sw => exact deed_sweep .alone h
  | loner id =>
    obtain rfl := Option.some.inj h
    exact ⟨_, rfl, .heed⟩
  | through => cases h

/-! ### How far the sweep is -/

/-- Nobody has requested the shutdown. -/
def Unasked (s : Shutdown) : Prop :=
  s.lifecycle.quitting = false ∧ s.lifecycle.ran = false ∧ s.swept = false

/-- What flags and members are while a sweep is here, with so many threads about to add a member:
once the members were taken there are no others. -/
def Sweeper.Fits (s : Shutdown) (joins : ℕ) : Sweeper → Prop
  | .beginning => s.lifecycle.quitting = true ∧ s.lifecycle.ran = false ∧ s.swept = false
  | .taking => s.lifecycle.quitting = true ∧ s.lifecycle.ran = true ∧ s.swept = false
  | .looking _ | .telling _ _ => s.lifecycle.quitting = true ∧ s.lifecycle.ran = true ∧
    s.swept = false ∧ s.lifecycle.members = [] ∧ joins = 0
  | .ended => s.lifecycle.quitting = true ∧ s.lifecycle.ran = true ∧ s.swept = true ∧
    s.lifecycle.members = [] ∧ joins = 0

/-- How far the sweep is, if these are the sweeps under way: there is one at most. -/
inductive Stage (s : Shutdown) (joins : ℕ) (sweeps : Multiset Sweeper) : Prop where
  | unasked (hsweeps : sweeps = 0) (hs : s.Unasked)
  | during (sw : Sweeper) (hsweeps : sweeps = {sw}) (fits : sw.Fits s joins)
  /-- Whoever ran the sweep has gone on. -/
  | past (hsweeps : sweeps = 0) (fits : Sweeper.ended.Fits s joins)

namespace Sweeper.Fits

variable {joins : ℕ}

theorem quitting_eq (h : sw.Fits s joins) : s.lifecycle.quitting = true := by
  cases sw <;> exact h.1

/-- Only the lifecycle's flags and members matter. -/
theorem congr (h : sw.Fits s joins) (hquit : s'.lifecycle.quitting = s.lifecycle.quitting)
    (hran : s'.lifecycle.ran = s.lifecycle.ran) (hswept : s'.swept = s.swept)
    (hmembers : s'.lifecycle.members = s.lifecycle.members) : sw.Fits s' joins := by
  cases sw <;> simpa only [Fits, hquit, hran, hswept, hmembers] using h

/-- Before the sweep has begun nothing is said about who is about to add a member. -/
theorem of_not_ran (h : sw.Fits s joins) (hran : s.lifecycle.ran = false) (joins' : ℕ) :
    sw.Fits s joins' := by
  cases sw with
  | beginning => exact h
  | taking | looking | telling | ended => exact absurd (hran.symm.trans h.2.1) nofun

/-- Whoever was about to add a member may do so. -/
theorem of_joins (h : sw.Fits s (joins + 1)) (hquit : s'.lifecycle.quitting = s.lifecycle.quitting)
    (hran : s'.lifecycle.ran = s.lifecycle.ran) (hswept : s'.swept = s.swept) :
    sw.Fits s' joins := by
  cases sw with
  | beginning | taking => simpa only [Fits, hquit, hran, hswept] using h
  | looking | telling | ended => exact absurd h.2.2.2.2 (Nat.succ_ne_zero _)

end Sweeper.Fits

/-- A step of the sweep. When the members are taken nobody is about to add one, for the lock is
free. -/
theorem Sweep.fits (h : Sweep s sw s' sw') {joins : ℕ} (unlocked : s.locked = false → joins = 0)
    (fits : sw.Fits s joins) : sw'.Fits s' joins := by
  cases h with
  | again ran => exact absurd (ran.symm.trans fits.2.1) nofun
  | begin_ => exact ⟨fits.1, rfl, fits.2.2⟩
  | take hlock => exact ⟨fits.1, fits.2.1, fits.2.2, rfl, unlocked hlock⟩
  | done => exact ⟨fits.1, fits.2.1, rfl, fits.2.2.2⟩
  | pass | pick | tell => exact fits

namespace Stage

variable {joins : ℕ} {sweeps others : Multiset Sweeper}

/-- The stage is the same where the sweeps are the same and fit still. -/
theorem map {joins' : ℕ} (h : Stage s joins sweeps) (unasked : s.Unasked → s'.Unasked)
    (fits : ∀ sw : Sweeper, sw.Fits s joins → sw.Fits s' joins') : Stage s' joins' sweeps := by
  cases h with
  | unasked hsweeps hs => exact .unasked hsweeps (unasked hs)
  | during sw hsweeps hs => exact .during sw hsweeps (fits sw hs)
  | past hsweeps hs => exact .past hsweeps (fits .ended hs)

/-- A sweep that is under way is the only one. -/
theorem eq_zero_and_fits (h : Stage s joins ({sw} + others)) : others = 0 ∧ sw.Fits s joins := by
  have hcard : Multiset.card ({sw} + others) = Multiset.card others + 1 := by
    rw [Multiset.card_add, Multiset.card_singleton, Nat.add_comm]
  cases h with
  | unasked hsweeps | past hsweeps => rw [hsweeps] at hcard; cases hcard
  | during w hsweeps fits =>
    rw [hsweeps, Multiset.card_singleton] at hcard
    obtain rfl : others = 0 := Multiset.card_eq_zero.mp (by omega)
    obtain rfl : sw = w := by simpa using hsweeps
    exact ⟨rfl, fits⟩

/-- Before the shutdown was requested there is no sweep. -/
theorem eq_zero_of_not_quitting (h : Stage s joins sweeps)
    (hquit : s.lifecycle.quitting = false) : sweeps = 0 ∧ s.Unasked := by
  cases h with
  | unasked hsweeps hs => exact ⟨hsweeps, hs⟩
  | during sw _ fits => exact absurd (hquit.symm.trans fits.quitting_eq) nofun
  | past _ fits => exact absurd (hquit.symm.trans fits.1) nofun

/-- Once the sweep has ended, it is under way no longer, and all members were taken. -/
theorem of_swept (h : Stage s joins sweeps) (hswept : s.swept = true) :
    s.lifecycle.quitting = true ∧ s.lifecycle.members = [] ∧ sweeps ≤ {.ended} := by
  cases h with
  | unasked _ hs => exact absurd (hswept.symm.trans hs.2.2) nofun
  | past hsweeps fits => exact ⟨fits.1, fits.2.2.2.1, hsweeps.le.trans (Multiset.zero_le _)⟩
  | during sw hsweeps fits =>
    cases sw with
    | ended => exact ⟨fits.1, fits.2.2.2.1, hsweeps.le⟩
    | beginning | taking => exact absurd (hswept.symm.trans fits.2.2) nofun
    | looking | telling => exact absurd (hswept.symm.trans fits.2.2.1) nofun

end Stage

/-- Every deed leads to a stage again. Whoever is about to add a member has the lock. -/
theorem Deed.stage (h : Deed s t s' t' started) {joins holds : ℕ} {others : Multiset Sweeper}
    (lock : t.holds + holds = if s.locked then 1 else 0) (le : joins ≤ holds)
    (stage : Stage s (t.joins + joins) (t.sweeps + others)) :
    Stage s' (t'.joins + (started.map Thread.joins).sum + joins)
      (t'.sweeps + (started.map Thread.sweeps).sum + others) := by
  cases h with
  | lock | go | tell | ignore | heed | awake =>
    exact stage.map id fun _ => (·.congr rfl rfl rfl rfl)
  | late he =>
    obtain rfl | rfl := he <;> exact stage.map id fun _ => (·.congr rfl rfl rfl rfl)
  | stay ran => exact stage.map id fun _ fits => fits.of_not_ran ran _
  | @join new =>
    have hjoins : Thread.joins (.enroller new .joining) + joins = joins + 1 := Nat.add_comm 1 joins
    rw [hjoins] at stage
    have hmoved : Thread.joins (.enroller new .enrolled) + ([].map Thread.joins).sum + joins =
        joins := Nat.zero_add joins
    rw [hmoved]
    exact stage.map id fun _ fits => fits.of_joins rfl rfl rfl
  | flip hquit =>
    obtain ⟨hsweeps, -, hran, hswept⟩ := stage.eq_zero_of_not_quitting hquit
    obtain rfl : others = 0 := by simpa [Thread.sweeps] using hsweeps
    exact .during .beginning rfl ⟨rfl, hran, hswept⟩
  | @start block => cases block <;> simpa [Thread.sweeps, Thread.joins] using stage
  | inline => exact stage
  | @sweep carry sw sw' _ carries hsweep =>
    have hsweeps : ∀ sw, (carry sw).sweeps = {sw} ∧ (carry sw).joins = 0 := by
      cases carries <;> exact fun _ => ⟨rfl, rfl⟩
    have hholds : (carry sw).holds = 0 := by cases carries <;> rfl
    rw [(hsweeps sw).1, (hsweeps sw).2] at stage
    obtain ⟨rfl, fits⟩ := stage.eq_zero_and_fits
    -- the sweep takes the members while the lock is free, so nobody is about to add one
    have unlocked (hlock : s.locked = false) : 0 + joins = 0 := by
      rw [hlock, hholds, if_neg Bool.false_ne_true] at lock
      omega
    refine .during sw' ?_ ?_
    · simp [(hsweeps sw').1]
    · simpa [(hsweeps sw').2] using hsweep.fits unlocked fits
  | finish =>
    obtain ⟨rfl, fits⟩ := stage.eq_zero_and_fits
    exact .past rfl fits

/-! ### What a move keeps -/

/-- How often the lifecycle told a component to quit, if there is this component. -/
def calls (s : Shutdown) (id : ℕ) : Option ℕ := s.lifecycle.components[id]?.map (·.calls)

namespace Thread

/-- The components that the sweep of a thread has still in its hands. -/
def rest (t : Thread) : Multiset ℕ := (t.sweeps.map Sweeper.rest).sum

theorem joins_le_holds (t : Thread) : t.joins ≤ t.holds := by
  cases t with
  | enroller id e => cases e <;> simp [joins, holds]
  | requester | sweeper | loner | through => exact le_rfl

theorem enrolled_le_enrolls (t : Thread) : t.enrolled ≤ t.enrolls := by
  cases t with
  | enroller id e => cases e <;> simp [enrolled, enrolls]
  | requester | sweeper | loner | through => exact le_rfl

end Thread

theorem Sweep.quitting_eq (h : Sweep s sw s' sw') :
    s'.lifecycle.quitting = s.lifecycle.quitting := by
  cases h <;> rfl

theorem Sweep.swept_mono (h : Sweep s sw s' sw') (hswept : s.swept = true) : s'.swept = true := by
  cases h with
  | again | done => rfl
  | begin_ | take | pass | pick | tell => exact hswept

theorem calls_tell (s : Shutdown) (id who : ℕ) :
    (s.tell who).calls id = (s.calls id).map (· + [who].count id) := by
  -- the call is counted whatever the component does about it
  have htold (c : Component) : (c.told true).calls = c.calls + 1 := by
    cases hreaction : c.reaction <;> simp [Component.told, hreaction, Component.count,
      Component.setFlag]
  simp only [calls, tell, Lifecycle.modify, List.getElem?_modify, List.count_singleton]
  by_cases h : who = id <;> cases s.lifecycle.components[id]? <;> simp [h, htold]

namespace Carries

variable {carry : Sweeper → Thread} (carries : Carries carry)
include carries

theorem holds_eq (sw : Sweeper) : (carry sw).holds = 0 := by cases carries <;> rfl

theorem sweeps_eq (sw : Sweeper) : (carry sw).sweeps = {sw} := by cases carries <;> rfl

theorem rest_eq (sw : Sweeper) : (carry sw).rest = sw.rest := by
  rw [Thread.rest, carries.sweeps_eq, Multiset.map_singleton, Multiset.sum_singleton]

theorem enrolled_eq (sw : Sweeper) : (carry sw).enrolled = 0 := by cases carries <;> rfl

end Carries

/-- A step of the sweep hands on each component that it does not reach. -/
theorem Sweep.custody (h : Sweep s sw s' sw') {carry : Sweeper → Thread} (carries : Carries carry) :
    (↑(carry sw).tells + ↑((carry sw).passes s) + ↑s'.lifecycle.members + sw'.rest : Multiset ℕ) =
      ↑s.lifecycle.members + sw.rest := by
  have reach (id : ℕ) (members rest : Multiset ℕ) :
      {id} + members + rest = members + id ::ₘ rest := by
    rw [Multiset.add_cons, add_assoc, Multiset.singleton_add]
  cases carries <;> cases h with
  | again | begin_ | done => rfl
  | take => exact (Multiset.zero_add _).trans (Multiset.add_zero _).symm
  | @pass id rest hquit =>
    simp only [Thread.tells, Thread.passes, hquit, if_true]
    exact reach id s.lifecycle.members rest
  | pick hquit => simp [Thread.tells, Thread.passes, Sweeper.rest, hquit]
  | @tell id rest => exact reach id s.lifecycle.members rest

theorem Sweep.calls_eq (h : Sweep s sw s' sw') {carry : Sweeper → Thread} (carries : Carries carry)
    (id : ℕ) : s'.calls id = (s.calls id).map (· + (carry sw).tells.count id) := by
  cases carries <;> cases h with
  | again | begin_ | take | done | pass | pick => exact Option.map_id'.symm
  | tell => exact calls_tell s id _

namespace Deed

theorem enrolls_eq (h : Deed s t s' t' started) :
    t'.enrolls + (started.map Thread.enrolls).sum = t.enrolls := by
  cases h with
  | sweep carries => cases carries <;> rfl
  | lock | go | stay | late | join | tell | ignore | flip | start | inline | finish | awake
  | heed => rfl

theorem quitting_mono (h : Deed s t s' t' started) (hquit : s.lifecycle.quitting = true) :
    s'.lifecycle.quitting = true := by
  cases h with
  | flip => rfl
  | sweep _ h => exact h.quitting_eq.trans hquit
  | lock | go | stay | late | join | tell | ignore | start | inline | finish | awake | heed =>
    exact hquit

theorem swept_mono (h : Deed s t s' t' started) (hswept : s.swept = true) : s'.swept = true := by
  cases h with
  | sweep _ h => exact h.swept_mono hswept
  | lock | go | stay | late | join | tell | ignore | flip | start | inline | finish | awake
  | heed => exact hswept

/-- Whoever flips the switch is about to start the sweep. -/
theorem starts_eq (h : Deed s t s' t' started) :
    t'.starts + (started.map Thread.starts).sum + (if s.lifecycle.quitting then 1 else 0) =
      if s'.lifecycle.quitting then 1 else 0 := by
  cases h with
  | flip hquit => rw [hquit]; rfl
  | @start block => cases block <;> exact Nat.zero_add _
  | sweep carries h =>
    rw [h.quitting_eq]
    cases carries <;> exact Nat.zero_add _
  | lock | go | stay | late | join | tell | ignore | inline | finish | awake | heed =>
    exact Nat.zero_add _

/-- The lock is taken while someone has it. -/
theorem lock_eq (h : Deed s t s' t' started) {holds : ℕ}
    (lock : t.holds + holds = if s.locked then 1 else 0) :
    t'.holds + (started.map Thread.holds).sum + holds = if s'.locked then 1 else 0 := by
  have only (h : 1 + holds = if s.locked then 1 else 0) : 0 + 0 + holds = 0 := by
    split at h <;> omega
  cases h with
  | lock unlocked => simpa [unlocked, Thread.holds] using lock
  | late he => obtain rfl | rfl := he <;> exact only lock
  | join => exact only lock
  | @start block => cases block <;> exact lock
  | @sweep _ sw sw' _ carries h =>
    have hlocked : s'.locked = s.locked := by cases h <;> rfl
    rw [carries.holds_eq] at lock ⊢
    rwa [hlocked]
  | go | stay | tell | ignore | flip | inline | finish | awake | heed => exact lock

/-- Whoever is registered stays among the members or in the hands of the sweep until it is
reached. -/
theorem custody (h : Deed s t s' t' started) :
    (↑t.tells + ↑(t.passes s) + ↑s'.lifecycle.members + (t'.rest + (started.map Thread.rest).sum) +
        t.enrolled : Multiset ℕ) =
      ↑s.lifecycle.members + t.rest + (t'.enrolled + (started.map Thread.enrolled).sum) := by
  have still (members : Multiset ℕ) :
      0 + 0 + members + (0 + 0) + 0 = members + 0 + (0 + 0) := by simp only [zero_add, add_zero]
  cases h with
  | late he => obtain rfl | rfl := he <;> exact still _
  | @join id =>
    have hadd : (↑(s.lifecycle.members ++ [id]) : Multiset ℕ) = ↑s.lifecycle.members + {id} :=
      (Multiset.coe_add _ _).symm
    simpa [Thread.tells, Thread.passes, Thread.rest, Thread.sweeps, Thread.enrolled] using hadd
  | @tell id =>
    -- too late for the sweep: whoever registers it tells it, and that is when it is registered
    have hadd : ({id} + 0 + s.lifecycle.members + (0 + 0) + 0 : Multiset ℕ) =
        s.lifecycle.members + 0 + ({id} + 0) := by
      abel
    exact hadd
  | @start block => cases block <;> exact still _
  | @sweep _ sw sw' _ carries h =>
    simp only [carries.rest_eq, carries.enrolled_eq]
    simpa using h.custody carries
  | lock | go | stay | ignore | flip | inline | finish | awake | heed => exact still _

theorem calls_eq (h : Deed s t s' t' started) (id : ℕ) :
    s'.calls id = (s.calls id).map (· + t.tells.count id) := by
  cases h with
  | tell => exact calls_tell s id _
  | sweep carries h => exact h.calls_eq carries id
  | @heed who =>
    have hflag : calls { s with lifecycle := s.lifecycle.modify who (·.setFlag true) } id =
        s.calls id := by
      simp only [calls, Lifecycle.modify, List.getElem?_modify]
      cases s.lifecycle.components[id]? with
      | none => rfl
      | some c => by_cases h : who = id <;> simp [h, Component.setFlag]
    exact hflag.trans Option.map_id'.symm
  | late he => obtain rfl | rfl := he <;> exact Option.map_id'.symm
  | lock | go | stay | join | ignore | flip | start | inline | finish | awake =>
    exact Option.map_id'.symm

end Deed

/-! ### What a run keeps -/

/-- A moment before anybody has used the lifecycle; every component is registered once at most. -/
structure Opening (c : Crowd Shutdown Thread) : Prop where
  unasked : c.shared.Unasked
  members : c.shared.lifecycle.members = []
  unlocked : c.shared.locked = false
  untold : ∀ x ∈ c.shared.lifecycle.components, x.calls = 0
  fresh : ∀ t ∈ c.threads, t.Fresh
  known : ∀ id ∈ (c.threads.map Thread.enrolls).sum, id < c.shared.lifecycle.components.length
  once : (c.threads.map Thread.enrolls).sum.Nodup

/-- The components that were told to quit, in order. -/
def told (turns : List (Turn Bool Shutdown Thread)) : List ℕ := turns.flatMap (·.thread.tells)

/-- The components that the sweep found quitting and passed over, in order. -/
def passed (turns : List (Turn Bool Shutdown Thread)) : List ℕ :=
  turns.flatMap fun turn => turn.thread.passes turn.before

/-- What holds after every run that begins with an opening. -/
structure Sound (c : Crowd Shutdown Thread) (turns : List (Turn Bool Shutdown Thread))
    (d : Crowd Shutdown Thread) : Prop where
  lock : (d.threads.map Thread.holds).sum = if d.shared.locked then 1 else 0
  stage : Stage d.shared (d.threads.map Thread.joins).sum (d.threads.map Thread.sweeps).sum
  starts : (turns.map (·.thread.starts)).sum + (d.threads.map Thread.starts).sum =
    if d.shared.lifecycle.quitting then 1 else 0
  custody : (↑(told turns) + ↑(passed turns) + ↑d.shared.lifecycle.members +
    (d.threads.map Thread.rest).sum : Multiset ℕ) = (d.threads.map Thread.enrolled).sum
  enrolls : (d.threads.map Thread.enrolls).sum = (c.threads.map Thread.enrolls).sum
  calls (id : ℕ) : d.shared.calls id = (c.shared.calls id).map (· + (told turns).count id)

variable {c d e : Crowd Shutdown Thread} {turns later : List (Turn Bool Shutdown Thread)}

theorem Thread.Fresh.quiet (h : t.Fresh) : t.holds = 0 ∧ t.joins = 0 ∧ t.sweeps = 0 ∧
    t.starts = 0 ∧ t.rest = 0 ∧ t.enrolled = 0 := by
  cases h <;> exact ⟨rfl, rfl, rfl, rfl, rfl, rfl⟩

theorem Opening.sound (o : Opening c) : Sound c [] c := by
  have none {M : Type} [AddCommMonoid M] (f : Thread → M) (h : ∀ t ∈ c.threads, f t = 0) :
      (c.threads.map f).sum = 0 :=
    List.sum_eq_zero (List.forall_mem_map.mpr h)
  have hholds := none Thread.holds fun t ht => (o.fresh t ht).quiet.1
  have hsweeps := none Thread.sweeps fun t ht => (o.fresh t ht).quiet.2.2.1
  have hstarts := none Thread.starts fun t ht => (o.fresh t ht).quiet.2.2.2.1
  have hrest := none Thread.rest fun t ht => (o.fresh t ht).quiet.2.2.2.2.1
  have henrolled := none Thread.enrolled fun t ht => (o.fresh t ht).quiet.2.2.2.2.2
  exact {
    lock := by rw [hholds, o.unlocked]; rfl
    stage := .unasked hsweeps o.unasked
    starts := by rw [hstarts, o.unasked.1]; rfl
    custody := by rw [hrest, henrolled, o.members]; rfl
    enrolls := rfl
    calls := fun _ => Option.map_id'.symm }

theorem told_append (turns later : List (Turn Bool Shutdown Thread)) :
    told (turns ++ later) = told turns ++ told later := List.flatMap_append

theorem passed_append (turns later : List (Turn Bool Shutdown Thread)) :
    passed (turns ++ later) = passed turns ++ passed later := List.flatMap_append

theorem Sound.snoc {i : Bool} {m : Move Shutdown Thread} {before after : List Thread}
    (hm : move i s t = some m) (h : Sound c turns ⟨s, before ++ t :: after⟩) :
    Sound c (turns ++ [⟨i, t, s, m.shared⟩])
      ⟨m.shared, before ++ m.self.toList ++ after ++ m.started⟩ := by
  obtain ⟨t', hself, deed⟩ := deed_of_move hm
  obtain ⟨hlock, hstage, hstarts, hcustody, henrolls, hcalls⟩ := h
  simp only [Crowd.sum_map_thread] at hlock hstage hstarts hcustody henrolls
  have le : ((before ++ after).map Thread.joins).sum ≤ ((before ++ after).map Thread.holds).sum :=
    List.sum_le_sum fun t _ => t.joins_le_holds
  constructor
  case lock =>
    simpa only [Crowd.sum_map_moved _ _ _ hself] using deed.lock_eq hlock
  case stage =>
    simpa only [Crowd.sum_map_moved _ _ _ hself] using deed.stage hlock le hstage
  case starts =>
    have hmove := deed.starts_eq
    rw [Crowd.sum_map_moved _ _ _ hself, List.map_append, List.sum_append, List.map_singleton,
      List.sum_singleton]
    dsimp only
    omega
  case custody =>
    have hmove := deed.custody
    have htold : told [⟨i, t, s, m.shared⟩] = t.tells := List.append_nil _
    have hpassed : passed [⟨i, t, s, m.shared⟩] = t.passes s := List.append_nil _
    rw [told_append, passed_append, htold, hpassed, ← Multiset.coe_add, ← Multiset.coe_add,
      Crowd.sum_map_moved _ _ _ hself, Crowd.sum_map_moved _ _ _ hself]
    -- what the thread had registered before is on the left side of its own law only
    refine add_right_cancel (b := t.enrolled) ?_
    calc _ = (↑t.tells + ↑(t.passes s) + ↑m.shared.lifecycle.members +
            (t'.rest + (m.started.map Thread.rest).sum) + t.enrolled : Multiset ℕ) +
          (↑(told turns) + ↑(passed turns) + ((before ++ after).map Thread.rest).sum) := by abel
      _ = (↑(told turns) + ↑(passed turns) + ↑s.lifecycle.members +
            (t.rest + ((before ++ after).map Thread.rest).sum)) +
          (t'.enrolled + (m.started.map Thread.enrolled).sum) := by rw [hmove]; abel
      _ = _ := by rw [hcustody]; abel
  case enrolls =>
    simpa only [Crowd.sum_map_moved _ _ _ hself, deed.enrolls_eq] using henrolls
  case calls =>
    intro id
    have htold : told [⟨i, t, s, m.shared⟩] = t.tells := List.append_nil _
    rw [deed.calls_eq, hcalls, told_append, htold, List.count_append, Option.map_map]
    simp [Function.comp_def, add_assoc]

theorem Opening.sound_of_run (o : Opening c) (run : Crowd.Run move c turns d) : Sound c turns d :=
  run.keeps o.sound fun _ _ hm h => h.snoc hm

theorem quitting_mono (run : Crowd.Run move d later e)
    (hquit : d.shared.lifecycle.quitting = true) : e.shared.lifecycle.quitting = true :=
  run.keeps (P := fun _ e => e.shared.lifecycle.quitting = true) hquit fun _ _ hm h =>
    have ⟨_, _, deed⟩ := deed_of_move hm
    deed.quitting_mono h

/-! ### When the sweep has ended -/

/-- A thread is as good as without a sweep, once that has ended. -/
theorem Thread.idle_of_sweeps_le {t : Thread} (h : t.sweeps ≤ {.ended}) :
    t.starts = 0 ∧ t.rest = 0 := by
  have hended {sw : Sweeper} (h : ({sw} : Multiset Sweeper) ≤ {.ended}) : sw = .ended :=
    Multiset.mem_singleton.mp (Multiset.singleton_le.mp h)
  cases t with
  | sweeper sw => obtain rfl := hended h; exact ⟨rfl, rfl⟩
  | requester r =>
    cases r with
    | sweeping sw => obtain rfl := hended h; exact ⟨rfl, rfl⟩
    | starting => cases hended h
    | asking | waiting | returned => exact ⟨rfl, rfl⟩
  | enroller | loner | through => exact ⟨rfl, rfl⟩

/-- A component was reached: it was told once, or the sweep found it quitting and it was not
told. -/
def Reached (turns : List (Turn Bool Shutdown Thread)) (s : Shutdown) (id : ℕ) : Prop :=
  (s.calls id = some 1 ∧ (passed turns).count id = 0) ∨
    (s.calls id = some 0 ∧ (passed turns).count id = 1)

namespace Sound

theorem idle_of_swept (h : Sound c turns d) (hswept : d.shared.swept = true) :
    ∀ t ∈ d.threads, t.starts = 0 ∧ t.rest = 0 := fun _ ht =>
  Thread.idle_of_sweeps_le <|
    (List.single_le_sum (fun _ _ => Multiset.zero_le _) _ (List.mem_map_of_mem ht)).trans
      (h.stage.of_swept hswept).2.2

/-- One call has started the sweep that has ended. -/
theorem starts_of_swept (h : Sound c turns d) (hswept : d.shared.swept = true) :
    (turns.map (·.thread.starts)).sum = 1 := by
  have hnone : (d.threads.map Thread.starts).sum = 0 :=
    List.sum_eq_zero (List.forall_mem_map.mpr fun t ht => (h.idle_of_swept hswept t ht).1)
  simpa [hnone, (h.stage.of_swept hswept).1] using h.starts

theorem reached (h : Sound c turns d) (o : Opening c) (hswept : d.shared.swept = true) {id : ℕ}
    (hid : .enroller id .enrolled ∈ d.threads) : Reached turns d.shared id := by
  have hmembers := (h.stage.of_swept hswept).2.1
  have hrest : (d.threads.map Thread.rest).sum = 0 :=
    List.sum_eq_zero (List.forall_mem_map.mpr fun t ht => (h.idle_of_swept hswept t ht).2)
  have hle : (d.threads.map Thread.enrolled).sum ≤ (c.threads.map Thread.enrolls).sum :=
    (List.sum_le_sum fun t _ => t.enrolled_le_enrolls).trans h.enrolls.le
  have hmem : id ∈ (d.threads.map Thread.enrolled).sum := by
    have hone := List.single_le_sum (fun _ _ => Multiset.zero_le _) _
      (List.mem_map_of_mem (f := Thread.enrolled) hid)
    exact Multiset.mem_of_le hone (Multiset.mem_singleton_self id)
  -- nobody has it in hands any more, and it was registered once
  have hcount : (told turns).count id + (passed turns).count id = 1 := by
    have hone := Multiset.count_eq_one_of_mem (Multiset.nodup_of_le hle o.once) hmem
    rw [← h.custody, hmembers, hrest] at hone
    simpa using hone
  have hcalls : c.shared.calls id = some 0 := by
    have hlt := o.known id (Multiset.mem_of_le hle hmem)
    rw [Shutdown.calls, List.getElem?_eq_getElem hlt, Option.map_some,
      o.untold _ (List.getElem_mem hlt)]
  have hcalls' := h.calls id
  rw [hcalls, Option.map_some, Nat.zero_add] at hcalls'
  obtain ⟨htold, hpassed⟩ | ⟨htold, hpassed⟩ := Nat.add_eq_one_iff.mp hcount
  · exact .inr ⟨hcalls'.trans (congrArg some htold), hpassed⟩
  · exact .inl ⟨hcalls'.trans (congrArg some htold), hpassed⟩

end Sound

/-! ### Waiting for the end -/

/-- How far a request is that waits for the sweep to end: when it returns, having flipped the
switch, the sweep has ended. -/
inductive Thread.Blocks (s : Shutdown) : Thread → Prop where
  | asking : Blocks s (.requester (.asking true true))
  | starting : Blocks s (.requester (.starting true))
  | sweeping (sw : Sweeper) : Blocks s (.requester (.sweeping sw))
  | waiting : Blocks s (.requester .waiting)
  | refused : Blocks s (.requester (.returned false))
  | served (swept : s.swept = true) : Blocks s (.requester (.returned true))

theorem Thread.Blocks.mono (h : t.Blocks s) (swept : s.swept = true → s'.swept = true) :
    t.Blocks s' := by
  cases h with
  | served hswept => exact .served (swept hswept)
  | asking | starting | sweeping | waiting | refused => constructor

theorem Deed.blocks (h : Deed s t s' t' started) (blocks : t.Blocks s)
    (ended : t = .requester (.sweeping .ended) → s.swept = true) : t'.Blocks s' := by
  cases h with
  | ignore => exact .refused
  | flip => cases blocks; exact .starting
  | start => cases blocks; exact .waiting
  | inline => exact .sweeping _
  | sweep carries =>
    cases carries with
    | alone => cases blocks
    | inline => exact .sweeping _
  | finish => exact .served (ended rfl)
  | awake swept => exact .served swept
  | lock | go | stay | late | join | tell | heed => cases blocks

/-- Whoever has run the sweep to its end knows that it has ended. -/
theorem Sound.swept_of_ended (h : Sound c turns d)
    (hmem : .requester (.sweeping .ended) ∈ d.threads) : d.shared.swept = true := by
  have hle : {.ended} ≤ (d.threads.map Thread.sweeps).sum :=
    List.single_le_sum (fun _ _ => Multiset.zero_le _) _
      (List.mem_map_of_mem (f := Thread.sweeps) hmem)
  obtain ⟨others, hsweeps⟩ := Multiset.le_iff_exists_add.mp hle
  have hstage := h.stage
  rw [hsweeps] at hstage
  exact hstage.eq_zero_and_fits.2.2.2.1

/-- Whoever is at a place and waits for the sweep to end does so after every move. -/
theorem Sound.blocks_snoc {i : Bool} {m : Move Shutdown Thread} {before after : List Thread} {k : ℕ}
    (h : Sound c turns ⟨s, before ++ t :: after⟩) (hm : move i s t = some m)
    (blocks : ∃ u, (before ++ t :: after)[k]? = some u ∧ u.Blocks s) :
    ∃ u, (before ++ m.self.toList ++ after ++ m.started)[k]? = some u ∧ u.Blocks m.shared := by
  obtain ⟨t', hself, deed⟩ := deed_of_move hm
  obtain ⟨u, hu, blocks⟩ := blocks
  have hthreads : before ++ m.self.toList ++ after ++ m.started =
      before ++ t' :: after ++ m.started := by simp [hself]
  rw [hthreads]
  obtain ⟨rfl, hmoved⟩ | hkept := Crowd.getElem?_of_moved t' m.started hu
  · have hmem : u ∈ before ++ u :: after := List.mem_of_getElem? hu
    exact ⟨t', hmoved, deed.blocks blocks fun hended => h.swept_of_ended (hended ▸ hmem)⟩
  · exact ⟨u, hkept, blocks.mono deed.swept_mono⟩

theorem Opening.blocks (o : Opening c) (run : Crowd.Run move c turns d)
    (further : Crowd.Run move d later e) {k : ℕ}
    (start : d.threads[k]? = some (.requester (.asking true true))) :
    ∃ u, e.threads[k]? = some u ∧ u.Blocks e.shared := by
  -- the laws go along: by them, whoever has run the sweep to its end knows that it has ended
  have hboth : Sound c (turns ++ later) e ∧ ∃ u, e.threads[k]? = some u ∧ u.Blocks e.shared := by
    refine further.keeps (P := fun later e => Sound c (turns ++ later) e ∧
      ∃ u, e.threads[k]? = some u ∧ u.Blocks e.shared) ⟨?_, _, start, .asking⟩ ?_
    · rw [List.append_nil]
      exact o.sound_of_run run
    · intro later i s t m before after hm ⟨hsound, hblocks⟩
      rw [← List.append_assoc]
      exact ⟨hsound.snoc hm, hsound.blocks_snoc hm hblocks⟩
  exact hboth.2

theorem Deed.ne_enrolled (h : Deed s t s' t' started) {id : ℕ} : t ≠ .enroller id .enrolled := by
  cases h with
  | late he => obtain rfl | rfl := he <;> exact nofun
  | sweep carries => cases carries <;> exact nofun
  | lock | go | stay | join | tell | ignore | flip | start | inline | finish | awake | heed =>
    exact nofun

/-- Whoever is registered stays registered. -/
theorem mem_enrolled_mono (further : Crowd.Run move d later e) {id : ℕ}
    (hid : .enroller id .enrolled ∈ d.threads) : .enroller id .enrolled ∈ e.threads := by
  refine further.keeps (P := fun _ e => .enroller id .enrolled ∈ e.threads) hid ?_
  intro _ i s t m before after hm hmem
  obtain ⟨t', -, deed⟩ := deed_of_move hm
  simp only [List.mem_append, List.mem_cons, deed.ne_enrolled.symm, false_or] at hmem ⊢
  tauto

/-! ### Everybody is reached once -/

/-- However the threads interleave that register components and request the shutdown: the shutdown
is never taken back, and a request to take it back does nothing; once it was requested, one call
has started the sweep or is about to, and before that none has. When the sweep has ended, one call
has started it, there are no members left, and every component that is registered was told to quit
exactly once, except those that the sweep found quitting already, which were not told. Whoever
flipped the switch and waited for the end returns when every component is reached that was
registered before the call began. -/
theorem Opening.reaches_everybody (o : Opening c) (run : Crowd.Run move c turns d)
    (further : Crowd.Run move d later e) :
    (d.shared.lifecycle.quitting = true → e.shared.lifecycle.quitting = true) ∧
      (∀ i s block, move i s (Thread.requester (.asking false block)) =
        some ⟨s, some (.requester (.returned false)), []⟩) ∧
      (turns.map (·.thread.starts)).sum + (d.threads.map Thread.starts).sum =
        (if d.shared.lifecycle.quitting then 1 else 0) ∧
      (d.shared.swept = true →
        (turns.map (·.thread.starts)).sum = 1 ∧ d.shared.lifecycle.members = [] ∧
          ∀ id, .enroller id .enrolled ∈ d.threads → Reached turns d.shared id) ∧
      ∀ k id : ℕ, d.threads[k]? = some (.requester (.asking true true)) →
        .enroller id .enrolled ∈ d.threads → e.threads[k]? = some (.requester (.returned true)) →
          Reached (turns ++ later) e.shared id := by
  have hsound := o.sound_of_run run
  have hsound' := o.sound_of_run (run.trans further)
  refine ⟨quitting_mono further, fun _ _ _ => rfl, hsound.starts, fun hswept => ?_,
    fun k id hbegin hid hreturned => ?_⟩
  · exact ⟨hsound.starts_of_swept hswept, (hsound.stage.of_swept hswept).2.1,
      fun id hid => hsound.reached o hswept hid⟩
  · obtain ⟨u, hu, blocks⟩ := o.blocks run further hbegin
    obtain rfl := Option.some.inj (hreturned.symm.trans hu)
    have hswept : e.shared.swept = true := by cases blocks; assumption
    exact hsound'.reached o hswept (mem_enrolled_mono further hid)

/-- Four components, one of which panics and one of which never quits, a thread that makes the third
one quit by itself, a request that waits for the end, and one to take the shutdown back. -/
def sampleOpening : Crowd Shutdown Thread :=
  ⟨{ lifecycle := { components :=
      [⟨.heed, 0, {}, false⟩, ⟨.explode, 0, {}, false⟩, ⟨.heed, 0, {}, false⟩,
        ⟨.ignore, 0, {}, false⟩] } },
    [.enroller 0 .queueing, .enroller 1 .queueing, .enroller 2 .queueing, .loner 2,
      .requester (.asking true true), .requester (.asking false true), .enroller 3 .queueing]⟩

/-- Three components are registered. -/
def sampleStart : List (Turn Bool Shutdown Thread) × Crowd Shutdown Thread :=
  sampleOpening.follow move true [0, 0, 0, 0, 1, 1, 1, 1, 2, 2, 2, 2, 3]

/-- The fourth component comes while the sweep is telling the others. -/
def sampleEnd : List (Turn Bool Shutdown Thread) × Crowd Shutdown Thread :=
  sampleStart.2.follow move true
    ([4, 4, 5, 7, 7, 7] ++ [6, 6, 6] ++ [7, 7, 7, 7, 7] ++ [4])

theorem opening_sample : Opening sampleOpening where
  unasked := ⟨rfl, rfl, rfl⟩
  members := rfl
  unlocked := rfl
  untold := by decide
  fresh := by
    simp only [sampleOpening, List.mem_cons, List.not_mem_nil, or_false]
    rintro t (rfl | rfl | rfl | rfl | rfl | rfl | rfl) <;> constructor
  known := by decide
  once := by decide

/-- In the sample everybody is told but the third component, and whoever waited has returned. -/
theorem reaches_everybody_sample :
    Reached (sampleStart.1 ++ sampleEnd.1) sampleEnd.2.shared 0 ∧
      (passed (sampleStart.1 ++ sampleEnd.1) = [2] ∧
        (List.range 4).map sampleEnd.2.shared.calls = [some 1, some 1, some 0, some 1]) := by
  have run := Crowd.run_follow move true [0, 0, 0, 0, 1, 1, 1, 1, 2, 2, 2, 2, 3] sampleOpening
  have further := Crowd.run_follow move true
    ([4, 4, 5, 7, 7, 7] ++ [6, 6, 6] ++ [7, 7, 7, 7, 7] ++ [4]) sampleStart.2
  have hall := opening_sample.reaches_everybody run further
  exact ⟨hall.2.2.2.2 4 0 (by decide) (by decide) (by decide), by decide, by decide⟩

end Shutdown

end Switchboard
