import Mathlib.Tactic
import Switchboard.Shutdown.Lifecycle

/-!
# The sweep and the shared switch

The shutdown flips a switch that is handed out, and the request that flips it starts the sweep that
tells the members. While the sweep is under way the lifecycle is used on. Whoever flips the switch
through a handle starts no sweep, and then no request does: it finds the switch flipped. From then
on the members are never taken (`Sweeping.Forestalled`), while components that register later are
told at once.

`Sweeping.advance` takes the sweep step by step, and `Sweeping.exists_iterate_advance` says that its
steps are the sweep of `Lifecycle.requestQuit`. `Sweeping.Phase` says what members, flags and sweep
are in each case, and is kept by every act; `Sweeping.Sound` says that whoever is registered was
reached, or is a member, or is in the hands of the sweep. `Lifecycle.Spreads` is what telling a
component can do to the others.

Main statement: `Sweeping.swept_iff`. After a request, when no sweep is under way, everybody was
reached and nobody is left as a member, if and only if the request was not forestalled, or nobody
was a member then. `Sweeping.member_forgotten` is a history in which one was.
-/

namespace Switchboard

namespace Switch

variable {s : Switch}

theorem set_of_quitting (h : s.quitting = true) (quit : Bool) : s.set quit = (s, false) := by
  simp [set, h]

theorem set_true_of_calm (h : s.quitting = false) : s.set true = (⟨true⟩, true) := by
  simp [set, h]

end Switch

namespace Component

/-- A component was **reached** if it is quitting or has been told to quit. -/
def Reached (c : Component) : Prop := c.flag.quitting = true ∨ 0 < c.calls

instance (c : Component) : Decidable c.Reached :=
  inferInstanceAs (Decidable (c.flag.quitting = true ∨ 0 < c.calls))

theorem reached_told (c : Component) (quit : Bool) : (c.told quit).Reached := by
  refine .inr ?_
  unfold told
  cases c.reaction <;> exact Nat.succ_pos _

theorem reached_setFlag (c : Component) : (c.setFlag true).Reached :=
  .inl (Switch.quitting_set_true c.flag)

end Component

namespace Lifecycle

variable {l l' : Lifecycle} {id : ℕ}

/-! ### What telling a component does -/

/-- What is done to one component, and to those that it registers: the others are as before, and
nobody becomes a member. -/
structure Spreads (l l' : Lifecycle) (id : ℕ) : Prop where
  switch : l'.switch = l.switch
  ran : l'.ran = l.ran
  members : l'.members = l.members
  components : ∀ (j : ℕ) c, l'.components[j]? = some c →
    c.Reached ∨ j ≠ id ∧ l.components[j]? = some c

/-- Nothing has to be done to a component that was reached. -/
theorem Spreads.refl (h : ∀ c, l.components[id]? = some c → c.Reached) : Spreads l l id where
  switch := rfl
  ran := rfl
  members := rfl
  components j c hc := by
    by_cases hj : j = id
    · exact .inl (h c (hj ▸ hc))
    · exact .inr ⟨hj, hc⟩

theorem Spreads.trans {l'' : Lifecycle} {other : ℕ} (h : Spreads l l' other)
    (h' : Spreads l' l'' id) : Spreads l l'' id where
  switch := h'.switch.trans h.switch
  ran := h'.ran.trans h.ran
  members := h'.members.trans h.members
  components j c hc := by
    rcases h'.components j c hc with hreached | ⟨hj, hc⟩
    · exact .inl hreached
    · exact (h.components j c hc).imp_right fun hc => ⟨hj, hc.2⟩

theorem Spreads.quitting (h : Spreads l l' id) : l'.quitting = l.quitting := by
  rw [Lifecycle.quitting, h.switch, Lifecycle.quitting]

theorem spreads_modify (l : Lifecycle) (id : ℕ) {f : Component → Component}
    (reached : ∀ c, (f c).Reached) : Spreads l (l.modify id f) id where
  switch := rfl
  ran := rfl
  members := rfl
  components j c hc := by
    by_cases hj : j = id
    · subst hj
      simp only [modify, List.getElem?_modify_eq] at hc
      obtain ⟨c, -, rfl⟩ := Option.map_eq_some_iff.mp hc
      exact .inl (reached c)
    · rw [modify, List.getElem?_modify_ne _ _ (Ne.symm hj)] at hc
      exact .inr ⟨hj, hc⟩

/-- Whoever is in front of the place where a component is made was there before. -/
theorem getElem?_create {c d : Component} {j : ℕ} (hj : j ≠ l.components.length)
    (h : (l.create c).1.components[j]? = some d) : l.components[j]? = some d := by
  rw [create, List.getElem?_append] at h
  split at h
  · exact h
  · rw [List.getElem?_cons, if_neg (by omega)] at h
    cases h

/-- A component that is made and told at once is reached. -/
theorem Spreads.of_create {c : Component}
    (h : Spreads (l.create c).1 l' l.components.length) : Spreads l l' l.components.length where
  switch := h.switch
  ran := h.ran
  members := h.members
  components j d hd :=
    (h.components j d hd).imp_right fun ⟨hj, hd⟩ => ⟨hj, getElem?_create hj hd⟩

/-- After the shutdown was requested a component that another one registers is told at once. -/
theorem spreads_spawnChild (quitting : l.quitting = true) :
    Spreads l l.spawnChild l.components.length := by
  refine .of_create (c := { reaction := .heed, spawned := true }) ?_
  have hquit : (l.create { reaction := .heed, spawned := true }).1.quitting = true := quitting
  change Spreads _ ((l.create { reaction := .heed, spawned := true }).1.enrollPlain
    l.components.length) _
  rw [enrollPlain, if_pos (by rw [hquit, Bool.true_or])]
  exact spreads_modify _ _ fun c => c.reached_told true

theorem spreads_notify (quitting : l.quitting = true) (id : ℕ) (quit : Bool) :
    Spreads l (l.notify id quit) id := by
  unfold notify
  cases hc : l.components[id]? with
  | none => exact .refl fun c h => nomatch hc.symm.trans h
  | some c =>
    dsimp only
    split
    · exact (spreads_spawnChild quitting).trans (spreads_modify _ id fun c => c.reached_told quit)
    · exact spreads_modify _ id fun c => c.reached_told quit

/-- The sweep passes over a component that is quitting. -/
theorem spreads_notifyUnlessQuitting (quitting : l.quitting = true) (id : ℕ) :
    Spreads l (l.notifyUnlessQuitting id) id := by
  unfold notifyUnlessQuitting
  cases hc : l.components[id]? with
  | none => exact .refl fun c h => nomatch hc.symm.trans h
  | some c =>
    dsimp only
    split
    · rename_i hflag
      refine .refl fun d hd => ?_
      obtain rfl := Option.some.inj (hc.symm.trans hd)
      exact .inl hflag
    · exact spreads_notify quitting id true

/-- A request that finds the switch flipped does nothing. -/
theorem requestQuit_of_quitting (quitting : l.quitting = true) (quit : Bool) :
    l.requestQuit quit = l := by
  rw [requestQuit, Switch.set_of_quitting quitting]

/-- The request that flips the switch sweeps. -/
theorem requestQuit_of_calm (quitting : l.quitting = false) :
    l.requestQuit true = { l with switch := ⟨true⟩ }.sweep := by
  rw [requestQuit, Switch.set_true_of_calm quitting]

theorem spreads_tell (quitting : l.quitting = true) (id : ℕ) (quit : Bool) :
    Spreads l (l.tell id quit) id := by
  unfold tell
  cases hc : l.components[id]? with
  | none => exact .refl fun c h => nomatch hc.symm.trans h
  | some c =>
    have htold (l : Lifecycle) : Spreads l (l.modify id (·.told quit)) id :=
      spreads_modify l id fun c => c.reached_told quit
    dsimp only
    cases c.reaction with
    | spawn => exact (spreads_spawnChild quitting).trans (htold _)
    | reenter =>
      dsimp only
      rw [requestQuit_of_quitting quitting]
      exact htold l
    | heed | explode | ignore => exact htold l

end Lifecycle

/-! ### Histories -/

/-- How far the sweep of a lifecycle is. -/
inductive Sweeping.Stage where
  /-- None is under way. -/
  | idle
  /-- About to see whether it is the first sweep. -/
  | beginning
  /-- About to take the members. -/
  | taking
  /-- About to tell these. -/
  | telling (rest : List ℕ)
  deriving DecidableEq

/-- A lifecycle, and how far its sweep is. -/
structure Sweeping where
  lifecycle : Lifecycle := {}
  stage : Sweeping.Stage := .idle
  deriving DecidableEq

namespace Sweeping

/-- What happens to a lifecycle. -/
inductive Act where
  /-- A new component is registered. -/
  | add (reaction : Reaction) (flag : Switch)
  /-- A component is registered once more. -/
  | addAgain (id : ℕ)
  | request (quit : Bool)
  /-- The switch is used through a handle. -/
  | handle (quit : Bool)
  /-- The sweep takes its next step. -/
  | advance
  /-- A component quits by itself. -/
  | leave (id : ℕ)
  deriving DecidableEq

/-- The next step of the sweep. -/
def advance (s : Sweeping) : Sweeping :=
  match s.stage with
  | .idle => s
  | .beginning =>
    if s.lifecycle.ran then { s with stage := .idle }
    else { lifecycle := { s.lifecycle with ran := true }, stage := .taking }
  | .taking =>
    { lifecycle := { s.lifecycle with members := [] }, stage := .telling s.lifecycle.members }
  | .telling [] => { s with stage := .idle }
  | .telling (id :: rest) =>
    { lifecycle := s.lifecycle.notifyUnlessQuitting id, stage := .telling rest }

/-- What one act leaves behind. -/
def perform (s : Sweeping) : Act → Sweeping
  | .add reaction flag =>
    let (lifecycle, id) := s.lifecycle.create { reaction, flag }
    { s with lifecycle := lifecycle.enroll id }
  | .addAgain id => { s with lifecycle := s.lifecycle.enroll id }
  | .request quit =>
    match s.lifecycle.switch.set quit with
    | (switch, true) => { lifecycle := { s.lifecycle with switch }, stage := .beginning }
    | (_, false) => s
  | .handle quit => { s with lifecycle := s.lifecycle.setSwitch quit }
  | .advance => s.advance
  | .leave id => { s with lifecycle := s.lifecycle.modify id (·.setFlag true) }

/-- What a history of acts leaves behind. -/
def after (acts : List Act) : Sweeping := acts.foldl perform {}

/-- The switch was flipped through a handle, when these were the members. -/
def Forestalled (acts : List Act) (members : List ℕ) : Prop :=
  ∃ before later, acts = before ++ .handle true :: later ∧
    (after before).lifecycle.quitting = false ∧ (after before).lifecycle.members = members

variable {acts : List Act} {act : Act} {members : List ℕ} {s : Sweeping} {id : ℕ}

theorem after_snoc (acts : List Act) (act : Act) :
    after (acts ++ [act]) = (after acts).perform act := by
  simp [after]

/-- Only the last act can be the one that forestalls the sweep now. -/
theorem forestalled_snoc : Forestalled (acts ++ [act]) members ↔ Forestalled acts members ∨
    act = .handle true ∧ (after acts).lifecycle.quitting = false ∧
      (after acts).lifecycle.members = members := by
  constructor
  · rintro ⟨before, later, hacts, h⟩
    rcases List.eq_nil_or_concat later with rfl | ⟨later, last, rfl⟩
    · obtain ⟨rfl, hact⟩ := List.append_inj' hacts rfl
      exact .inr ⟨(List.cons.inj hact).1, h⟩
    · rw [List.concat_eq_append, ← List.cons_append, ← List.append_assoc] at hacts
      exact .inl ⟨before, later, (List.append_inj' hacts rfl).1, h⟩
  · rintro (⟨before, later, rfl, h⟩ | ⟨rfl, h⟩)
    · exact ⟨before, later ++ [act], by simp, h⟩
    · exact ⟨acts, [], rfl, h⟩

/-! ### What one act does -/

/-- Before the shutdown was requested whoever registers becomes a member. -/
theorem enroll_of_calm {l : Lifecycle} (quitting : l.quitting = false) (ran : l.ran = false) :
    l.enroll id = { l with members := l.members ++ [id] } := by
  rw [Lifecycle.enroll, if_neg (by rw [quitting, ran]; decide)]

/-- Afterwards it is told at once. -/
theorem spreads_enroll {l : Lifecycle} (quitting : l.quitting = true) (id : ℕ) :
    Lifecycle.Spreads l (l.enroll id) id := by
  rw [Lifecycle.enroll, if_pos (by rw [quitting, Bool.true_or])]
  exact Lifecycle.spreads_tell quitting id true

/-- A request to quit that is not the first has no effect, and neither has one to go on. -/
theorem perform_request_of_quitting (quitting : s.lifecycle.quitting = true) (quit : Bool) :
    s.perform (.request quit) = s := by
  simp [perform, Switch.set_of_quitting quitting]

theorem perform_request_false : s.perform (.request false) = s := rfl

theorem perform_request_of_calm (quitting : s.lifecycle.quitting = false) :
    s.perform (.request true) =
      { lifecycle := { s.lifecycle with switch := ⟨true⟩ }, stage := .beginning } := by
  simp [perform, Switch.set_true_of_calm quitting]

theorem perform_handle_false : s.perform (.handle false) = s := rfl

theorem perform_handle_of_quitting (quitting : s.lifecycle.quitting = true) (quit : Bool) :
    s.perform (.handle quit) = s := by
  simp [perform, Lifecycle.setSwitch, Switch.set_of_quitting quitting]

theorem perform_handle_of_calm (quitting : s.lifecycle.quitting = false) :
    s.perform (.handle true) = { s with lifecycle := { s.lifecycle with switch := ⟨true⟩ } } := by
  simp [perform, Lifecycle.setSwitch, Switch.set_true_of_calm quitting]

/-! ### A sweep at one go -/

theorem iterate_advance_telling (l : Lifecycle) (rest : List ℕ) :
    advance^[rest.length + 1] { lifecycle := l, stage := .telling rest } =
      { lifecycle := rest.foldl Lifecycle.notifyUnlessQuitting l, stage := .idle } := by
  induction rest generalizing l with
  | nil => rfl
  | cons id rest ih => exact ih (l.notifyUnlessQuitting id)

/-- A request that waits for its sweep to end, while nothing else happens, is
`Lifecycle.requestQuit`. -/
theorem exists_iterate_advance (s : Sweeping) (idle : s.stage = .idle) (quit : Bool) :
    ∃ n, advance^[n] (s.perform (.request quit)) =
      { lifecycle := s.lifecycle.requestQuit quit, stage := .idle } := by
  have hnothing : s = { lifecycle := s.lifecycle, stage := .idle } :=
    congrArg (Sweeping.mk s.lifecycle) idle
  cases quit with
  | false => exact ⟨0, hnothing⟩
  | true =>
    cases hquit : s.lifecycle.quitting with
    | true =>
      rw [perform_request_of_quitting hquit, Lifecycle.requestQuit_of_quitting hquit]
      exact ⟨0, hnothing⟩
    | false =>
      rw [perform_request_of_calm hquit, Lifecycle.requestQuit_of_calm hquit, Lifecycle.sweep]
      generalize hflipped : { s.lifecycle with switch := ⟨true⟩ } = l
      cases hran : l.ran with
      | true => exact ⟨1, by simp [advance, hran]⟩
      | false =>
        -- it begins, takes the members, and tells one after the other
        refine ⟨l.members.length + 1 + 2, ?_⟩
        rw [Function.iterate_add_apply]
        have htwo : advance^[2] { lifecycle := l, stage := .beginning } =
            { lifecycle := { l with ran := true, members := [] }
              stage := .telling l.members } := by
          simp [advance, hran]
        rw [htwo, iterate_advance_telling]
        rfl

/-! ### How far things are -/

/-- The components that the sweep has still in its hands. -/
def Stage.rest : Stage → List ℕ
  | .telling rest => rest
  | _ => []

/-- What a sweep that was started and the lifecycle's members have to do with each other. -/
def Stage.Fits (l : Lifecycle) : Stage → Prop
  | .beginning => l.ran = false
  | .taking => l.ran = true
  | .telling _ => l.ran = true ∧ l.members = []
  | .idle => l.ran = true ∧ l.members = []

/-- How far things are after a history. -/
inductive Phase (acts : List Act) (s : Sweeping) : Prop where
  /-- The shutdown was not requested. -/
  | calm (quitting : s.lifecycle.quitting = false) (ran : s.lifecycle.ran = false)
    (idle : s.stage = .idle) (never : ∀ members, ¬ Forestalled acts members)
  /-- The switch was flipped through a handle: there is no sweep, and the members are left. -/
  | forestalled (quitting : s.lifecycle.quitting = true) (ran : s.lifecycle.ran = false)
    (idle : s.stage = .idle)
    (members : ∀ members, Forestalled acts members ↔ members = s.lifecycle.members)
  /-- A request has flipped the switch and started the sweep. -/
  | requested (quitting : s.lifecycle.quitting = true) (fits : s.stage.Fits s.lifecycle)
    (never : ∀ members, ¬ Forestalled acts members)

/-- An act by which no handle flips the switch. -/
theorem forestalled_snoc_iff (act : Act)
    (h : act = .handle true → (after acts).lifecycle.quitting = true) (members : List ℕ) :
    Forestalled (acts ++ [act]) members ↔ Forestalled acts members := by
  rw [forestalled_snoc, or_iff_left]
  rintro ⟨hact, hquit, -⟩
  rw [h hact] at hquit
  cases hquit

/-- How far things are depends on the flags, the members and the sweep. -/
theorem Phase.congr {acts' : List Act} {s' : Sweeping} (h : Phase acts s)
    (same : ∀ members, Forestalled acts' members ↔ Forestalled acts members)
    (stage : s'.stage = s.stage) (quitting : s'.lifecycle.quitting = s.lifecycle.quitting)
    (ran : s'.lifecycle.ran = s.lifecycle.ran)
    (members : s'.lifecycle.members = s.lifecycle.members) : Phase acts' s' := by
  cases h with
  | calm hquitting hran idle never =>
    exact .calm (quitting.trans hquitting) (ran.trans hran) (stage.trans idle)
      fun m hm => never m ((same m).mp hm)
  | forestalled hquitting hran idle hmembers =>
    refine .forestalled (quitting.trans hquitting) (ran.trans hran) (stage.trans idle) fun m => ?_
    rw [same, hmembers, members]
  | requested hquitting fits never =>
    refine .requested (quitting.trans hquitting) ?_ fun m hm => never m ((same m).mp hm)
    rw [stage]
    cases hstage : s.stage
    all_goals
      rw [hstage] at fits
      simpa only [Stage.Fits, ran, members] using fits

/-- The acts that concern the components, and neither the switch nor the sweep. -/
def Act.Plain : Act → Prop
  | .add _ _ => True
  | .addAgain _ => True
  | .leave _ => True
  | _ => False

/-- An act that concerns the components. -/
theorem perform_of_plain (plain : act.Plain)
    (calm : s.lifecycle.quitting = false → s.lifecycle.ran = false) :
    (s.perform act).stage = s.stage ∧
      (s.perform act).lifecycle.quitting = s.lifecycle.quitting ∧
      (s.perform act).lifecycle.ran = s.lifecycle.ran ∧
      (s.lifecycle.quitting = true →
        (s.perform act).lifecycle.members = s.lifecycle.members) := by
  cases act with
  | add reaction flag =>
    cases hquit : s.lifecycle.quitting with
    | true =>
      have h := (spreads_enroll (l := (s.lifecycle.create { reaction, flag }).1) hquit
        s.lifecycle.components.length).of_create
      exact ⟨rfl, h.quitting.trans hquit, h.ran, fun _ => h.members⟩
    | false =>
      have h : (s.perform (.add reaction flag)).lifecycle = _ :=
        enroll_of_calm (l := (s.lifecycle.create { reaction, flag }).1) hquit (calm hquit)
      rw [h]
      exact ⟨rfl, hquit, rfl, nofun⟩
  | addAgain id =>
    cases hquit : s.lifecycle.quitting with
    | true =>
      have h := spreads_enroll hquit id
      exact ⟨rfl, h.quitting.trans hquit, h.ran, fun _ => h.members⟩
    | false =>
      have h : (s.perform (.addAgain id)).lifecycle = _ := enroll_of_calm hquit (calm hquit)
      rw [h]
      exact ⟨rfl, hquit, rfl, nofun⟩
  | leave id => exact ⟨rfl, rfl, rfl, fun _ => rfl⟩
  | request | handle | advance => cases plain

theorem Phase.plain (h : Phase acts (after acts)) (plain : act.Plain) :
    Phase (acts ++ [act]) ((after acts).perform act) := by
  have hsame : ∀ m, Forestalled (acts ++ [act]) m ↔ Forestalled acts m :=
    forestalled_snoc_iff act (by rintro rfl; cases plain)
  have hphase := h
  cases h with
  | calm quitting ran idle never =>
    obtain ⟨hstage, hquit, hran, -⟩ := perform_of_plain plain fun _ => ran
    exact .calm (hquit.trans quitting) (hran.trans ran) (hstage.trans idle)
      fun m hm => never m ((hsame m).mp hm)
  | forestalled quitting | requested quitting =>
    obtain ⟨hstage, hquit, hran, hmembers⟩ :=
      perform_of_plain plain fun h => nomatch quitting.symm.trans h
    exact hphase.congr hsame hstage hquit hran (hmembers quitting)

/-- Requests and handles have no effect once the switch is flipped. -/
theorem Phase.still (h : Phase acts (after acts)) (hperform : (after acts).perform act = after acts)
    (hact : act = .handle true → (after acts).lifecycle.quitting = true) :
    Phase (acts ++ [act]) ((after acts).perform act) := by
  rw [hperform]
  exact h.congr (forestalled_snoc_iff act hact) rfl rfl rfl rfl

theorem Phase.request (h : Phase acts (after acts)) (quit : Bool) :
    Phase (acts ++ [.request quit]) ((after acts).perform (.request quit)) := by
  cases quit with
  | false => exact h.still perform_request_false nofun
  | true =>
    have hphase := h
    cases h with
    | calm quitting ran idle never =>
      rw [perform_request_of_calm quitting]
      refine .requested rfl ran fun m hm => never m ?_
      exact (forestalled_snoc_iff (.request true) nofun m).mp hm
    | forestalled quitting | requested quitting =>
      exact hphase.still (perform_request_of_quitting quitting true) nofun

theorem Phase.handle (h : Phase acts (after acts)) (quit : Bool) :
    Phase (acts ++ [.handle quit]) ((after acts).perform (.handle quit)) := by
  cases quit with
  | false => exact h.still perform_handle_false nofun
  | true =>
    have hphase := h
    cases h with
    | calm quitting ran idle never =>
      rw [perform_handle_of_calm quitting]
      refine .forestalled rfl ran idle fun m => ?_
      rw [forestalled_snoc, or_iff_right (never m)]
      exact ⟨fun hm => hm.2.2.symm, fun hm => ⟨rfl, quitting, hm.symm⟩⟩
    | forestalled quitting | requested quitting =>
      exact hphase.still (perform_handle_of_quitting quitting true) fun _ => quitting

theorem Phase.advance (h : Phase acts (after acts)) :
    Phase (acts ++ [.advance]) ((after acts).perform .advance) := by
  have hidle (idle : (after acts).stage = .idle) : (after acts).perform .advance = after acts := by
    simp only [perform, Sweeping.advance, idle]
  have hphase := h
  cases h with
  | calm _ _ idle => exact hphase.still (hidle idle) nofun
  | forestalled _ _ idle => exact hphase.still (hidle idle) nofun
  | requested quitting fits never =>
    have hnever : ∀ m, ¬ Forestalled (acts ++ [.advance]) m :=
      fun m hm => never m ((forestalled_snoc_iff .advance nofun m).mp hm)
    cases hstage : (after acts).stage with
    | idle => exact hphase.still (hidle hstage) nofun
    | beginning =>
      rw [hstage] at fits
      have hran : (after acts).lifecycle.ran = false := fits
      simp only [perform, Sweeping.advance, hstage, hran]
      exact .requested quitting rfl hnever
    | taking =>
      rw [hstage] at fits
      simp only [perform, Sweeping.advance, hstage]
      exact .requested quitting ⟨fits, rfl⟩ hnever
    | telling rest =>
      rw [hstage] at fits
      cases rest with
      | nil =>
        simp only [perform, Sweeping.advance, hstage]
        exact .requested quitting fits hnever
      | cons id rest =>
        have htell := Lifecycle.spreads_notifyUnlessQuitting quitting id
        simp only [perform, Sweeping.advance, hstage]
        exact .requested (htell.quitting.trans quitting)
          ⟨htell.ran.trans fits.1, htell.members.trans fits.2⟩ hnever

/-- Every history is in one of the phases. -/
theorem phase_after (acts : List Act) : Phase acts (after acts) := by
  induction acts using List.reverseRecOn with
  | nil => exact .calm rfl rfl rfl fun m ⟨before, later, h, _⟩ => by simp at h
  | append_singleton acts act ih =>
    rw [after_snoc]
    cases act with
    | add | addAgain | leave => exact ih.plain trivial
    | request quit => exact ih.request quit
    | handle quit => exact ih.handle quit
    | advance => exact ih.advance

/-! ### Who is still to be told -/

/-- Whoever is registered was reached, or is a member, or is in the hands of the sweep. -/
def Sound (s : Sweeping) : Prop :=
  ∀ (id : ℕ) c, s.lifecycle.components[id]? = some c →
    c.Reached ∨ id ∈ s.lifecycle.members ∨ id ∈ s.stage.rest

theorem Sound.spreads (h : Sound s) {l : Lifecycle} (spreads : Lifecycle.Spreads s.lifecycle l id)
    {stage : Stage} (rest : ∀ j ∈ s.stage.rest, j ≠ id → j ∈ stage.rest) :
    Sound { lifecycle := l, stage } := by
  intro j c hc
  rcases spreads.components j c hc with hreached | ⟨hj, hc⟩
  · exact .inl hreached
  · refine (h j c hc).imp_right (Or.imp (fun hmem => ?_) fun hmem => rest j hmem hj)
    exact spreads.members ▸ hmem

/-- Registering a component tells it, or makes it a member. -/
theorem Sound.enroll (h : Sound s) (calm : s.lifecycle.quitting = false → s.lifecycle.ran = false)
    (id : ℕ) : Sound { s with lifecycle := s.lifecycle.enroll id } := by
  cases hquit : s.lifecycle.quitting with
  | true => exact h.spreads (spreads_enroll hquit id) fun j hj _ => hj
  | false =>
    rw [enroll_of_calm hquit (calm hquit)]
    intro j c hc
    exact (h j c hc).imp_right (Or.imp_left (List.mem_append_left _))

/-- A new component is told, or becomes a member. -/
theorem Sound.add (h : Sound s) (calm : s.lifecycle.quitting = false → s.lifecycle.ran = false)
    (reaction : Reaction) (flag : Switch) : Sound (s.perform (.add reaction flag)) := by
  cases hquit : s.lifecycle.quitting with
  | true =>
    have hspreads := (spreads_enroll (l := (s.lifecycle.create { reaction, flag }).1) hquit
      s.lifecycle.components.length).of_create
    exact h.spreads hspreads fun j hj _ => hj
  | false =>
    have henroll : s.perform (.add reaction flag) = { s with lifecycle := _ } :=
      congrArg (fun lifecycle => { s with lifecycle })
        (enroll_of_calm (l := (s.lifecycle.create { reaction, flag }).1) hquit (calm hquit))
    rw [henroll]
    intro j c hc
    by_cases hj : j = s.lifecycle.components.length
    · exact .inr (.inl (List.mem_append_right _ (List.mem_singleton.mpr hj)))
    · exact (h j c (Lifecycle.getElem?_create hj hc)).imp_right
        (Or.imp_left (List.mem_append_left _))

/-- Starting a sweep while none is under way forgets nobody. -/
theorem Sound.request (h : Sound s) (idle : s.lifecycle.quitting = false → s.stage = .idle)
    (quit : Bool) : Sound (s.perform (.request quit)) := by
  cases quit with
  | false => exact h
  | true =>
    cases hquit : s.lifecycle.quitting with
    | true => rwa [perform_request_of_quitting hquit]
    | false =>
      rw [perform_request_of_calm hquit]
      intro j c hc
      have hj := h j c hc
      rwa [idle hquit] at hj

/-- The sweep takes over the members, and tells those that it has in its hands. -/
theorem Sound.advance (h : Sound s) (quitting : s.stage ≠ .idle → s.lifecycle.quitting = true) :
    Sound s.advance := by
  unfold Sound at h
  unfold Sweeping.advance
  cases hstage : s.stage with
  | idle => exact h
  | beginning =>
    rw [hstage] at h
    dsimp only
    split <;> exact h
  | taking =>
    rw [hstage] at h
    intro j c hc
    exact (h j c hc).imp_right fun hj => .inr (hj.resolve_right (List.not_mem_nil))
  | telling rest =>
    rw [hstage] at h
    cases rest with
    | nil => exact h
    | cons id rest =>
      have htell := Lifecycle.spreads_notifyUnlessQuitting (quitting (by simp [hstage])) id
      refine Sound.spreads (s := ⟨s.lifecycle, .telling (id :: rest)⟩) h htell fun j hj hne => ?_
      exact (List.mem_cons.mp hj).resolve_left hne

/-- One act keeps everybody in sight. -/
theorem Sound.perform (h : Sound (after acts)) (act : Act) : Sound ((after acts).perform act) := by
  have hphase := phase_after acts
  have hcalm : (after acts).lifecycle.quitting = false →
      (after acts).lifecycle.ran = false ∧ (after acts).stage = .idle := by
    intro hquit
    cases hphase with
    | calm _ ran idle => exact ⟨ran, idle⟩
    | forestalled quitting | requested quitting => cases quitting.symm.trans hquit
  cases act with
  | add reaction flag => exact h.add (fun hquit => (hcalm hquit).1) reaction flag
  | addAgain id => exact h.enroll (fun hquit => (hcalm hquit).1) id
  | leave id =>
    exact h.spreads (Lifecycle.spreads_modify _ id Component.reached_setFlag) fun j hj _ => hj
  | request quit => exact h.request (fun hquit => (hcalm hquit).2) quit
  | handle quit => exact h
  | advance =>
    refine h.advance fun hstage => ?_
    by_contra hquit
    exact hstage (hcalm (Bool.eq_false_iff.mpr hquit)).2

theorem sound_after (acts : List Act) : Sound (after acts) := by
  induction acts using List.reverseRecOn with
  | nil => exact fun id c hc => by cases hc
  | append_singleton acts act ih =>
    rw [after_snoc]
    exact ih.perform act

/-! ### Everybody is reached, unless the switch was flipped through a handle -/

/-- A lifecycle that is quitting stays so. -/
theorem quitting_perform (quitting : s.lifecycle.quitting = true) (act : Act) :
    (s.perform act).lifecycle.quitting = true := by
  have hplain (plain : act.Plain) : (s.perform act).lifecycle.quitting = true :=
    (perform_of_plain plain fun h => nomatch quitting.symm.trans h).2.1.trans quitting
  cases act with
  | add | addAgain | leave => exact hplain trivial
  | request quit => rwa [perform_request_of_quitting quitting]
  | handle quit => rwa [perform_handle_of_quitting quitting]
  | advance =>
    change s.advance.lifecycle.quitting = true
    unfold Sweeping.advance
    split
    · exact quitting
    · split <;> exact quitting
    · exact quitting
    · exact quitting
    · exact (Lifecycle.spreads_notifyUnlessQuitting quitting _).quitting.trans quitting

/-- After a request to quit the lifecycle is quitting. -/
theorem quitting_after (requested : .request true ∈ acts) :
    (after acts).lifecycle.quitting = true := by
  induction acts using List.reverseRecOn with
  | nil => cases requested
  | append_singleton acts act ih =>
    rw [after_snoc]
    by_cases hquit : (after acts).lifecycle.quitting = true
    · exact quitting_perform hquit act
    · rcases List.mem_append.mp requested with hmem | hmem
      · exact absurd (ih hmem) hquit
      · obtain rfl := List.mem_singleton.mp hmem
        rw [perform_request_of_calm (Bool.eq_false_iff.mpr hquit)]
        rfl

/-- **Everybody is reached, unless the switch was flipped through a handle.** After any history in
which the shutdown was requested, when no sweep is under way, nobody is left as a member and every
registered component is quitting or was told to quit, if and only if nobody was a member when the
switch was flipped through a handle, if it was. Those who were then are members ever after, and
there is no sweep. -/
theorem swept_iff (requested : .request true ∈ acts) (idle : (after acts).stage = .idle) :
    ((after acts).lifecycle.members = [] ∧
        (∀ c ∈ (after acts).lifecycle.components, c.Reached) ↔
      ∀ members, Forestalled acts members → members = []) ∧
    ∀ members, Forestalled acts members →
      (after acts).lifecycle.members = members ∧ (after acts).lifecycle.ran = false := by
  have hquit := quitting_after requested
  have hsound := sound_after acts
  have hreached (hmembers : (after acts).lifecycle.members = []) :
      ∀ c ∈ (after acts).lifecycle.components, c.Reached := by
    intro c hc
    obtain ⟨id, hid⟩ := List.mem_iff_getElem?.mp hc
    have := hsound id c hid
    simpa [hmembers, idle, Stage.rest] using this
  cases phase_after acts with
  | calm quitting => cases quitting.symm.trans hquit
  | forestalled _ ran _ hforestalled =>
    refine ⟨⟨fun h members hm => ?_, fun h => ?_⟩, fun members hm => ?_⟩
    · rw [(hforestalled members).mp hm, h.1]
    · have hmembers := h _ ((hforestalled _).mpr rfl)
      exact ⟨hmembers, hreached hmembers⟩
    · exact ⟨((hforestalled members).mp hm).symm, ran⟩
  | requested _ fits never =>
    rw [idle] at fits
    have hmembers : (after acts).lifecycle.members = [] := fits.2
    exact ⟨⟨fun _ members hm => absurd hm (never members), fun _ => ⟨hmembers, hreached hmembers⟩⟩,
      fun members hm => absurd hm (never members)⟩

/-- One component is registered, the shutdown is requested, another component registers while the
sweep is under way, and the sweep comes to its end. -/
def sampleActs : List Act :=
  [.add .spawn {}, .handle false, .request true, .advance, .add .explode {}, .advance, .advance,
    .advance]

theorem swept_sample : (after sampleActs).lifecycle.members = [] ∧
    (after sampleActs).lifecycle.components.length = 3 ∧
    ∀ c ∈ (after sampleActs).lifecycle.components, c.Reached := by
  have hnever : ∀ members, Forestalled sampleActs members → members = [] := by
    rintro members ⟨before, later, hacts, -⟩
    have hmem : .handle true ∈ sampleActs := by simp [hacts]
    exact absurd hmem (by decide)
  have requested : .request true ∈ sampleActs := by decide
  have hswept := (swept_iff requested (by decide)).1.mpr hnever
  exact ⟨hswept.1, by decide, hswept.2⟩

/-- A component is a member when the switch is flipped through a handle: the request that comes
after it does not reach the component. -/
theorem member_forgotten :
    (after [.add .heed {}, .handle true, .request true]).stage = .idle ∧
      (after [.add .heed {}, .handle true, .request true]).lifecycle.members = [0] ∧
      ¬ ∀ c ∈ (after [.add .heed {}, .handle true, .request true]).lifecycle.components,
        c.Reached := by
  decide

end Sweeping

end Switchboard
