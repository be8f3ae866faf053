import Switchboard.Proofs.Record

/-!
# What the task of an envelope reports

An envelope that the workers have accepted is a task, which runs among any other threads until it is
through or is cancelled. `Crowd.Life` lists the moves of one thread while the shared state changes
in whatever way between them: others move, requests come from outside, handlers are registered.
`Crowd.Run.exists_life` says that in every run each thread has such a life.

`Task.Utters` is what one step of a task tells its observers, and which failing handlers it counts,
by what becomes of the task; `Task.Report` is that for all its moves so far. Cancelling a thread
tells nobody (`Thread.hushed_cancel`), and so shutting the workers down tells nobody
(`Engine.hushed_shutdown`).

Main statement: `Engine.accepted_reports`. A task that is through has told every observer once, with
the kind of the envelope and one outcome, and has counted the handler that failed in it, if one did:
unless it died of a copy that panicked, and then it has told nobody and counted nothing. A task that
is not through has told nobody, and if it is cancelled nobody is ever told.
`Engine.accepted_unreported` shows both.
-/

namespace Switchboard

/-! ### Telling and counting -/

/-- A counter of failing handlers. -/
def Counter.Fails (c : Counter) : Prop := c = .handlerFailure ∨ c = .handlerPanic

/-- What is counted of a handler that failed, by the outcome of its stage. -/
def Outcome.failure? : Outcome → Option Counter
  | failed _ => some .handlerFailure
  | panicked _ => some .handlerPanic
  | _ => none

namespace Pipeline

/-- From one pipeline to the other nobody is told anything and no failing handler is counted. -/
structure Hushed (p q : Pipeline) : Prop where
  notes : q.notes = p.notes
  counters : ∀ c, c.Fails → q.counters.get c = p.counters.get c

variable {p q r : Pipeline}

namespace Hushed

theorem refl (p : Pipeline) : Hushed p p := ⟨rfl, fun _ _ => rfl⟩

theorem trans (h : Hushed p q) (h' : Hushed q r) : Hushed p r :=
  ⟨h'.notes.trans h.notes, fun c hc => (h'.counters c hc).trans (h.counters c hc)⟩

theorem of_eq (notes : q.notes = p.notes) (counters : q.counters = p.counters) : Hushed p q :=
  ⟨notes, fun c _ => by rw [counters]⟩

theorem count (h : Hushed p q) {c : Counter} (hc : ¬ c.Fails) : Hushed p (q.count c) := by
  refine ⟨h.notes, fun d hd => ?_⟩
  have hne : d ≠ c := fun hdc => hc (hdc ▸ hd)
  rw [Pipeline.count, Counters.get_bump, if_neg hne, h.counters d hd]

end Hushed

theorem hushed_release (p : Pipeline) (e : Event) : Hushed p (p.release e) := .of_eq rfl rfl

theorem hushed_turnDown (p : Pipeline) (connection : ℕ) : Hushed p (p.turnDown connection) :=
  .of_eq rfl rfl

theorem hushed_answer (p : Pipeline) (connection : ℕ) (e : HandlerEnd) :
    Hushed p (p.answer connection e) := by
  cases e <;> exact .of_eq rfl rfl

theorem hushed_reach (p : Pipeline) (latch : Option String) : Hushed p (p.reach latch) := by
  unfold reach
  split
  · split <;> exact .of_eq rfl rfl
  · exact .refl p

/-! ### The stages -/

/-- Executing an event has told nobody and counted no failing handler; it has not died, and its
outcome, if it has one, is not that of a handler that failed. -/
structure Discreet (p : Pipeline) (result : Pipeline × Progress) : Prop where
  hushed : Hushed p result.1
  outcome : ∀ o, result.2 = .ends o → o.failure? = none
  lives : result.2 ≠ .dies

namespace Discreet

variable {result : Pipeline × Progress}

theorem of_ends (h : Hushed p result.1) (o : Outcome) (ends : result.2 = .ends o)
    (ho : o.failure? = none) : Discreet p result := by
  refine ⟨h, fun o' ho' => ?_, by simp [ends]⟩
  rw [ends] at ho'
  exact Progress.ends.inj ho' ▸ ho

theorem of_not_ends (h : Hushed p result.1) (ends : ∀ o, result.2 ≠ .ends o)
    (lives : result.2 ≠ .dies) : Discreet p result :=
  ⟨h, fun o he => absurd he (ends o), lives⟩

end Discreet

theorem discreet_convert (p : Pipeline) (job : Job) : Discreet p (p.convert job) := by
  unfold convert
  split
  · exact .of_not_ends (.refl p) (by simp) (by simp)
  generalize p.ledger.runJob job = r
  obtain ⟨ledger, result⟩ := r
  have hran : Hushed p { p with ledger } := .of_eq rfl rfl
  have hcounted := hran.count (c := .conversionFailure) (by simp [Counter.Fails])
  cases result with
  | ok x =>
    dsimp only
    split
    · exact .of_ends (hran.trans (.of_eq rfl rfl)) .abandoned rfl rfl
    · exact .of_ends (hran.trans (.of_eq rfl rfl)) .forwarded rfl rfl
  | error e =>
    dsimp only
    split
    · exact .of_ends (hcounted.trans (.of_eq rfl rfl)) .abandoned rfl rfl
    · exact .of_ends (hcounted.trans (.of_eq rfl rfl)) .malformed rfl rfl

theorem discreet_abandon (p : Pipeline) (e : Event) : Discreet p (p.abandon e) :=
  .of_ends ((p.hushed_release e).count (by simp [Counter.Fails])) .abandoned rfl rfl

theorem discreet_consult (p : Pipeline) (t : Moments) (x : Exchange) :
    Discreet p (p.consult t x) := by
  unfold consult
  split <;> rename_i gate _
  · exact .of_not_ends (.of_eq rfl rfl) (by simp) (by simp)
  · have hasked : Hushed p { p with gate } := .of_eq rfl rfl
    have hcounted := hasked.count (c := .denied) (by simp [Counter.Fails])
    exact .of_ends (hcounted.trans (hushed_turnDown _ _)) .denied rfl rfl

theorem discreet_await (p : Pipeline) (connection : ℕ) : Discreet p (p.await connection) := by
  unfold await
  split
  · exact p.discreet_abandon _
  · exact .of_not_ends (.refl p) (by simp) (by simp)

theorem discreet_receive (p : Pipeline) (i : Chance) (connection : ℕ) :
    Discreet p (p.receive i connection) := by
  unfold receive
  split
  · exact .of_not_ends (.refl p) (by split <;> simp) (by split <;> simp)
  · exact p.discreet_abandon _
  · exact p.discreet_abandon _
  · exact .of_ends (.of_eq rfl rfl) .malformed rfl rfl
  · rename_i x _
    have hleft : Hushed p (p.change connection Line.leave) := .of_eq rfl rfl
    have h := (p.change connection Line.leave).discreet_consult i.moments x
    exact ⟨hleft.trans h.hushed, h.outcome, h.lives⟩

/-- An event that is no handler goes on discreetly once its work or its wait has begun. -/
theorem discreet_resume (p : Pipeline) (i : Chance) {e : Event}
    (he : ∀ x inst, e ≠ .handler x inst) : Discreet p (p.resume i e) := by
  cases e with
  | noop | dispatch x => exact .of_not_ends (.refl p) (by simp [resume]) (by simp [resume])
  | conversion job => exact p.discreet_convert job
  | middleware connection => exact p.discreet_receive i connection
  | handler x inst => exact absurd rfl (he x inst)

/-- A handler that came to its end is counted by how it ended, and so ends its stage. -/
theorem handle_eq (p : Pipeline) (x : Exchange) (inst : Instance) {e : HandlerEnd}
    (he : (p.roster.run inst x.request).2 = e) :
    (p.handle x inst).2 = .waits ∨ p.handle x inst =
      ((p.answer x.connection e).count e.counter, .ends e.outcome) := by
  unfold handle
  split
  · exact .inl rfl
  · rw [he]
    cases e <;> exact .inr rfl

end Pipeline

namespace HandlerEnd

theorem failure?_outcome (e : HandlerEnd) {c : Counter} (hc : c.Fails) :
    e.outcome.failure? = some c ↔ c = e.counter := by
  obtain rfl | rfl := hc <;> cases e <;> simp [outcome, counter, Outcome.failure?]

end HandlerEnd

namespace Task

/-- A task is about to make a copy of a handler, and that panics. -/
def CopyPanics (p : Pipeline) : Task → Prop
  | ⟨.dispatch x, _, .running⟩ =>
    (p.roster.take ((p.memo.resolve p.roster x.request.path).2.getD defaultCommand)).2 = .panicked
  | _ => False

/-- How the handler ends that a task is about to run, if it is. -/
def handlerEnd? (p : Pipeline) : Task → Option HandlerEnd
  | ⟨.handler x inst, _, .working⟩ => some (p.roster.run inst x.request).2
  | _ => none

end Task

namespace Pipeline

/-- An event begins discreetly, unless it is a dispatch that dies of a copy that panics. -/
theorem execute_cases (p : Pipeline) (e : Event) (observers : List Observer) :
    Task.CopyPanics p ⟨e, observers, .running⟩ ∧ Hushed p (p.execute e).1 ∧
        (p.execute e).2 = .dies ∨
      ¬ Task.CopyPanics p ⟨e, observers, .running⟩ ∧ Discreet p (p.execute e) := by
  cases e with
  | noop => exact .inr ⟨id, .of_ends (.refl p) .noop rfl rfl⟩
  | conversion job =>
    exact .inr ⟨id, .of_not_ends (p.hushed_reach _) (by simp [execute]) (by simp [execute])⟩
  | middleware connection => exact .inr ⟨id, p.discreet_await connection⟩
  | handler x inst =>
    exact .inr ⟨id, .of_not_ends (p.hushed_reach _) (by simp [execute]) (by simp [execute])⟩
  | dispatch x =>
    unfold execute dispatch Task.CopyPanics
    dsimp only
    generalize p.memo.resolve p.roster x.request.path = found
    generalize p.roster.take _ = r
    obtain ⟨roster, taken⟩ := r
    have htaken : Hushed p { p with memo := found.1, roster } := .of_eq rfl rfl
    cases taken with
    | panicked => exact .inl ⟨rfl, htaken.trans (hushed_release _ _), rfl⟩
    | unserved =>
      have hcounted := htaken.count (c := .unrouted) (by simp [Counter.Fails])
      exact .inr ⟨by simp, .of_ends (hcounted.trans (hushed_turnDown _ _)) .unrouted rfl rfl⟩
    | handed inst =>
      have hcounted := htaken.count (c := .dispatched) (by simp [Counter.Fails])
      exact .inr ⟨by simp, .of_not_ends hcounted (by simp) (by simp)⟩

end Pipeline

/-! ### One step of a task -/

namespace Task

open Pipeline (Hushed Discreet)

variable {t u : Task} {p q : Pipeline} {o : Option Task} {outcome : Outcome}

/-- What a step of a task tells and counts, by what becomes of the task. -/
inductive Utters (t : Task) (p q : Pipeline) : Option Task → Prop where
  /-- The task goes on, or comes to an end: a handler that failed is counted, and how it ended is
  kept to be told. -/
  | stays {u : Task} (unended : t.outcome? = none) (event : u.event = t.event)
    (observers : u.observers = t.observers) (copies : ¬ t.CopyPanics p)
    (notes : q.notes = p.notes)
    (counters : ∀ c, c.Fails → q.counters.get c =
      p.counters.get c + if u.outcome?.bind Outcome.failure? = some c then 1 else 0)
    (handler : ∀ e, t.handlerEnd? p = some e → u.outcome? = some e.outcome) : Utters t p q (some u)
  /-- The task dies of a copy that panics. -/
  | dies (copies : t.CopyPanics p) (hushed : Hushed p q) : Utters t p q none
  /-- The task is through: its observers are told. -/
  | tells {outcome : Outcome} (ended : t.outcome? = some outcome)
    (notes : q.notes = p.notes ++ notify t.event.kind outcome t.observers)
    (counters : q.counters = p.counters) : Utters t p q none

theorem CopyPanics.unended (h : t.CopyPanics p) : t.outcome? = none ∧ t.handlerEnd? p = none := by
  unfold CopyPanics at h
  split at h
  · exact ⟨rfl, rfl⟩
  · exact h.elim

theorem handlerEnd?_of_ended (h : t.outcome? = some outcome) :
    t.handlerEnd? p = none ∧ ¬ t.CopyPanics p := by
  obtain ⟨event, observers, phase⟩ := t
  cases phase with
  | ended o => exact ⟨by simp [handlerEnd?], by simp [CopyPanics]⟩
  | running | working | publishing pub => cases h

/-- A task that goes on without having run a handler. -/
theorem Utters.of_hushed {phase : Phase} (unended : t.outcome? = none) (copies : ¬ t.CopyPanics p)
    (handler : t.handlerEnd? p = none) (hushed : Hushed p q)
    (quiet : ({ t with phase } : Task).outcome?.bind Outcome.failure? = none) :
    Utters t p q (some { t with phase }) := by
  refine .stays unended rfl rfl copies hushed.notes (fun c hc => ?_) fun e he => ?_
  · simp [hushed.counters c hc, quiet]
  · simp [handler] at he

/-- A task that goes on with an event that was executed discreetly. -/
theorem Utters.of_discreet {result : Pipeline × Progress} (unended : t.outcome? = none)
    (copies : ¬ t.CopyPanics p) (handler : t.handlerEnd? p = none) (h : Discreet p result)
    (hstep : t.proceed result.1 result.2 = some (q, o)) : Utters t p q o := by
  obtain ⟨p', progress⟩ := result
  cases progress with
  | waits => cases hstep
  | dies => exact absurd rfl h.lives
  | works | beginsAnew | publishes e =>
    cases hstep
    exact .of_hushed unended copies handler h.hushed rfl
  | ends outcome =>
    cases hstep
    exact .of_hushed unended copies handler h.hushed (h.outcome outcome rfl)

/-- A task that publishes its next stage. -/
theorem Utters.of_publish {pub : Publisher Event} (hphase : t.phase = .publishing pub)
    (hstep : t.publish p pub = some (q, o)) : Utters t p q o := by
  obtain ⟨event, observers, phase⟩ := t
  subst hphase
  have copies : ¬ CopyPanics p ⟨event, observers, .publishing pub⟩ := by simp [CopyPanics]
  have handler : handlerEnd? p ⟨event, observers, .publishing pub⟩ = none := by simp [handlerEnd?]
  unfold publish at hstep
  split at hstep
  · cases hstep
    exact .of_hushed rfl copies handler (.refl p) rfl
  · cases hstep
    exact .of_hushed rfl copies handler
      ((p.hushed_release _).count (by simp [Counter.Fails])) rfl
  · obtain ⟨⟨ring, pub'⟩, -, h⟩ := Option.map_eq_some_iff.mp hstep
    cases h
    exact .of_hushed rfl copies handler (.of_eq rfl rfl) rfl

theorem utters_of_step {i : Chance} (hstep : t.step p i = some (q, o)) : Utters t p q o := by
  obtain ⟨event, observers, phase⟩ := t
  cases phase with
  | running =>
    rcases p.execute_cases event observers with ⟨copies, hhushed, hdies⟩ | ⟨copies, hdiscreet⟩
    · simp only [step, hdies, proceed] at hstep
      cases hstep
      exact .dies copies (hhushed.trans (.of_eq rfl rfl))
    · exact .of_discreet rfl copies (by simp [handlerEnd?]) hdiscreet hstep
  | working =>
    have copies : ¬ CopyPanics p ⟨event, observers, .working⟩ := by simp [CopyPanics]
    by_cases hhandler : ∃ x inst, event = .handler x inst
    · obtain ⟨x, inst, rfl⟩ := hhandler
      simp only [step, Pipeline.resume] at hstep
      rcases p.handle_eq x inst rfl with hwaits | hends
      · simp [hwaits, proceed] at hstep
      rw [hends] at hstep
      cases hstep
      refine .stays rfl rfl rfl copies ?_ (fun c hc => ?_) fun e he => ?_
      · exact (p.hushed_answer _ _).notes
      · simp only [outcome?, Option.bind_some, HandlerEnd.failure?_outcome _ hc, Pipeline.count,
          Counters.get_bump, (p.hushed_answer x.connection _).counters c hc]
        split <;> rfl
      · obtain rfl := Option.some.inj he
        rfl
    · push Not at hhandler
      refine .of_discreet rfl copies ?_ (p.discreet_resume i hhandler) hstep
      simp [handlerEnd?, hhandler]
  | publishing pub => exact .of_publish rfl hstep
  | ended outcome =>
    cases hstep
    exact .tells rfl rfl rfl

end Task

/-! ### All steps of a task -/

section

variable (c : Counter) (turns : List (Turn Chance Pipeline Thread))
  (u : Turn Chance Pipeline Thread)

/-- What is told in moves. -/
def toldIn : List Note := turns.flatMap Turn.told

/-- How often something is counted in moves. -/
def countedIn : ℕ := (turns.map (Turn.counted c)).sum

theorem toldIn_snoc : toldIn (turns ++ [u]) = toldIn turns ++ u.told := by simp [toldIn]

theorem countedIn_snoc :
    countedIn c (turns ++ [u]) = countedIn c turns + u.counted c := by simp [countedIn]

end

namespace Turn

/-- The move of a task that makes a copy of a handler, and that panics. -/
def CopyPanics (u : Turn Chance Pipeline Thread) : Prop :=
  ∃ t, u.thread = .task t ∧ t.CopyPanics u.before

/-- How the handler ends that is run in a move, if one is. -/
def handlerEnd? (u : Turn Chance Pipeline Thread) : Option HandlerEnd :=
  match u.thread with
  | .task t => t.handlerEnd? u.before
  | _ => none

section

variable {i : Chance} {t : Task} {p q : Pipeline}

@[simp] theorem copyPanics_task : CopyPanics ⟨i, .task t, p, q⟩ ↔ t.CopyPanics p := by
  constructor
  · rintro ⟨_, ht, h⟩
    cases ht
    exact h
  · exact fun h => ⟨t, rfl, h⟩

theorem told_eq {thread : Thread} {notes : List Note} (h : q.notes = p.notes ++ notes) :
    told ⟨i, thread, p, q⟩ = notes := by
  rw [told, h, List.drop_left]

theorem told_eq_nil {thread : Thread} (h : q.notes = p.notes) : told ⟨i, thread, p, q⟩ = [] :=
  told_eq (h.trans (List.append_nil _).symm)

end

/-- What was counted of failing handlers in these moves is what the outcome of the stage says, and
so is the end of a handler that was run in them. -/
structure Accounts (turns : List (Turn Chance Pipeline Thread)) (outcome : Option Outcome) :
    Prop where
  counted : ∀ c, c.Fails →
    countedIn c turns = if outcome.bind Outcome.failure? = some c then 1 else 0
  handlers : ∀ u ∈ turns, ∀ e, u.handlerEnd? = some e → outcome = some e.outcome

theorem accounts_nil : Accounts [] none := ⟨fun _ _ => rfl, by simp⟩

/-- One move more, in which no handler is run. -/
theorem Accounts.snoc {turns : List (Turn Chance Pipeline Thread)} {outcome : Option Outcome}
    {u : Turn Chance Pipeline Thread} (h : Accounts turns outcome)
    (counted : ∀ c, c.Fails → u.counted c = 0) (handler : u.handlerEnd? = none) :
    Accounts (turns ++ [u]) outcome := by
  constructor
  · intro c hc
    rw [countedIn_snoc, counted c hc, Nat.add_zero, h.counted c hc]
  · rw [List.forall_mem_append, List.forall_mem_singleton, handler]
    exact ⟨h.handlers, by simp⟩

end Turn

open Turn (Accounts)
open Pipeline (Hushed)

/-- What has come of an envelope, by the moves of its task. -/
inductive Task.Report (e : Envelope Event) (turns : List (Turn Chance Pipeline Thread)) :
    Option Thread → Prop where
  /-- Its task is under way. -/
  | underWay {t : Task} (event : t.event = e.event) (observers : t.observers = e.observers)
    (told : toldIn turns = []) (copies : ∀ u ∈ turns, ¬ u.CopyPanics)
    (accounts : Accounts turns t.outcome?) : Report e turns (some (.task t))
  /-- Its observers were told the outcome. -/
  | reported (outcome : Outcome)
    (told : toldIn turns = e.observers.map fun l => ⟨l, e.kind, outcome⟩)
    (copies : ∀ u ∈ turns, ¬ u.CopyPanics) (accounts : Accounts turns (some outcome)) :
    Report e turns none
  /-- Its task died. -/
  | died (told : toldIn turns = []) (copies : ∃ u ∈ turns, u.CopyPanics)
    (accounts : Accounts turns none) : Report e turns none

namespace Task

variable {e : Envelope Event} {turns : List (Turn Chance Pipeline Thread)} {i : Chance}
  {p : Pipeline} {t : Task} {o : Option Thread} {m : Move Pipeline Thread}

/-- A move of the task of an envelope adds what it tells and counts. -/
theorem Report.moves (h : Report e turns (some (.task t)))
    (hm : Thread.move i p (.task t) = some m) :
    Report e (turns ++ [⟨i, .task t, p, m.shared⟩]) m.self := by
  obtain ⟨⟨q, o⟩, hstep, rfl⟩ := Option.map_eq_some_iff.mp hm
  cases h with
  | underWay event observers told copies accounts =>
    cases utters_of_step hstep with
    | @stays u unended hevent hobservers hcopies notes counters handler =>
      rw [unended] at accounts
      refine .underWay (hevent.trans event) (hobservers.trans observers) ?_ ?_ ⟨fun c hc => ?_, ?_⟩
      · rw [toldIn_snoc, told, Turn.told_eq_nil notes, List.append_nil]
      · rw [List.forall_mem_append, List.forall_mem_singleton, Turn.copyPanics_task]
        exact ⟨copies, hcopies⟩
      · rw [countedIn_snoc, accounts.counted c hc, Turn.counted, counters c hc]
        simp
      · rw [List.forall_mem_append, List.forall_mem_singleton]
        refine ⟨fun v hv e he => ?_, handler⟩
        cases accounts.handlers v hv e he
    | dies hcopies hushed =>
      obtain ⟨unended, hhandler⟩ := hcopies.unended
      rw [unended] at accounts
      refine .died ?_ ?_ (accounts.snoc (fun c hc => ?_) hhandler)
      · rw [toldIn_snoc, told, Turn.told_eq_nil hushed.notes, List.append_nil]
      · exact ⟨_, List.mem_append_right _ (List.mem_singleton_self _),
          Turn.copyPanics_task.mpr hcopies⟩
      · rw [Turn.counted, hushed.counters c hc, Nat.sub_self]
    | @tells outcome ended notes counters =>
      obtain ⟨hhandler, hcopies⟩ := handlerEnd?_of_ended (p := p) ended
      rw [ended] at accounts
      refine .reported outcome ?_ ?_ (accounts.snoc (fun c _ => ?_) hhandler)
      · rw [toldIn_snoc, told, Turn.told_eq notes, List.nil_append, notify_eq_map, event,
          observers]
        rfl
      · rw [List.forall_mem_append, List.forall_mem_singleton, Turn.copyPanics_task]
        exact ⟨copies, hcopies⟩
      · rw [Turn.counted, counters, Nat.sub_self]

theorem report_of_life (life : Crowd.Life Thread.move (.task (.ofEnvelope e)) turns p o) :
    Report e turns o := by
  induction life with
  | begins p => exact .underWay rfl rfl rfl (by simp) Turn.accounts_nil
  | meanwhile _ _ ih => exact ih
  | @moves turns i p u m _ hm ih =>
    -- the thread has been a task all along
    have hu : ∃ t, u = .task t := by cases ih; exact ⟨_, rfl⟩
    obtain ⟨t, rfl⟩ := hu
    exact ih.moves hm

end Task

/-! ### Cancelling -/

theorem Task.hushed_dropPublication (p : Pipeline) (pub : Publisher Event) :
    Hushed p (Task.dropPublication p pub) := by
  cases pub <;> exact .of_eq rfl rfl

/-- Cancelling a task tells nobody. -/
theorem Task.hushed_cancel (p : Pipeline) (t : Task) : Hushed p (t.cancel p).1 := by
  have hless : Hushed p { p with inFlight := p.inFlight - 1 } := .of_eq rfl rfl
  obtain ⟨event, observers, phase⟩ := t
  cases phase with
  | running => exact hless.trans (Pipeline.hushed_release _ _)
  | publishing pub => exact hless.trans (Task.hushed_dropPublication _ pub)
  | ended o => exact hless
  | working =>
    cases event with
    | noop | conversion job | middleware connection | dispatch x | handler x inst =>
      exact hless.trans (.of_eq rfl rfl)

namespace Thread

variable {i : Chance} {p : Pipeline} {t u : Thread} {m : Move Pipeline Thread}

/-- Cancelling a thread tells nobody. -/
theorem hushed_cancel (p : Pipeline) (t : Thread) : Hushed p (t.cancel p).1 := by
  unfold cancel
  split
  · exact Task.hushed_cancel p _
  · exact p.hushed_release _
  · exact p.hushed_release _
  · exact .refl p
  · exact .refl p

/-- A task that was cancelled is gone. -/
theorem ne_task_of_mem_cancel (h : u ∈ (t.cancel p).2) (t' : Task) : u ≠ .task t' := by
  unfold cancel at h
  split at h
  · obtain ⟨e, -, rfl⟩ := List.mem_map.mp h
    simp
  · cases h
  · cases h
  · cases h
  · rename_i htask _ _ _
    obtain rfl := List.mem_singleton.mp h
    exact htask t'

/-- The work that a cancelled task has left over is finished without a word. -/
theorem hushed_leftOver {e : Event} (hm : move i p (.leftOver e) = some m) :
    Hushed p m.shared ∧ m.self = none ∧ m.started = [] := by
  obtain ⟨q, hfinish, hleave⟩ := Option.bind_eq_some_iff.mp hm
  cases hleave
  refine ⟨?_, rfl, rfl⟩
  unfold Pipeline.finish? at hfinish
  split at hfinish
  · split at hfinish
    · cases hfinish
    · cases hfinish
      exact .of_eq rfl rfl
  · split at hfinish
    · cases hfinish
    · cases hfinish
      exact p.hushed_answer _ _
  · cases hfinish
    exact p.hushed_release _

/-- A thread **falls silent** if it is cancelled: nobody is told anything then, nor when what it may
leave over is finished, and no failing handler is counted. -/
def FallsSilent (t : Thread) : Prop :=
  ∀ p, Hushed p (t.cancel p).1 ∧ ∀ u ∈ (t.cancel p).2, ∀ i q m, move i q u = some m →
    Hushed q m.shared ∧ m.self = none ∧ m.started = []

theorem fallsSilent_task (t : Task) : (Thread.task t).FallsSilent := by
  refine fun p => ⟨hushed_cancel p _, fun u hu i q m hm => ?_⟩
  obtain ⟨e, -, rfl⟩ := List.mem_map.mp hu
  exact hushed_leftOver hm

end Thread

namespace Engine

theorem hushed_cancelAll (p : Pipeline) (ts : List Thread) :
    Hushed p (cancelAll p ts).shared ∧ ∀ u ∈ (cancelAll p ts).threads, ∀ t, u ≠ .task t := by
  induction ts generalizing p with
  | nil => exact ⟨.refl p, by simp [cancelAll, ofPipeline]⟩
  | cons t ts ih =>
    obtain ⟨hushed, gone⟩ := ih (t.cancel p).1
    refine ⟨(t.hushed_cancel p).trans hushed, ?_⟩
    rw [cancelAll, List.forall_mem_append]
    exact ⟨fun u hu => Thread.ne_task_of_mem_cancel hu, gone⟩

/-- **Shutting down.** After the threads had the time to finish nobody is told anything any more,
and no task is left. -/
theorem hushed_shutdown (g : Engine) :
    Hushed g.settle.shared g.shutdown.shared ∧ ∀ u ∈ g.shutdown.threads, ∀ t, u ≠ .task t := by
  obtain ⟨hushed, gone⟩ := hushed_cancelAll g.settle.stopAccepting.shared g.settle.threads
  have hstopped : Hushed g.settle.shared g.settle.stopAccepting.shared := .of_eq rfl rfl
  exact ⟨hstopped.trans hushed, gone⟩

/-- **What an accepted envelope reports.** A running pool accepts it, and in every run its task has
a life of its own. Whatever others do meanwhile: as long as the task is there nobody has been told,
and if it is cancelled nobody is. If it is through and has not died of a copy that panicked, every
observer has been told once, in order, the kind of the envelope and the outcome; a handler that
failed in it has been counted once, and the outcome says so. If it has died, nobody has been told
and no handler has been counted. -/
theorem accepted_reports (g : Engine) (e : Envelope Event) (h : g.pipeline.accepting = true) :
    (g.execute e).2 = true ∧
      (∀ turns d, Crowd.Run Thread.move (g.execute e).1 turns d → ∃ own o before after,
        Crowd.Life Thread.move (.task (.ofEnvelope e)) own d.shared o ∧ own.Sublist turns ∧
          d.threads = before ++ o.toList ++ after) ∧
      ∀ turns p,
        (∀ u, Crowd.Life Thread.move (.task (.ofEnvelope e)) turns p (some u) →
          toldIn turns = [] ∧ u.FallsSilent) ∧
        (Crowd.Life Thread.move (.task (.ofEnvelope e)) turns p none →
          ((∀ u ∈ turns, ¬ u.CopyPanics) → ∃ outcome,
            toldIn turns = (e.observers.map fun l => ⟨l, e.kind, outcome⟩) ∧
              Accounts turns (some outcome)) ∧
          ((∃ u ∈ turns, u.CopyPanics) → toldIn turns = [] ∧ Accounts turns none)) := by
  refine ⟨by rw [execute, if_pos h], fun turns d run => ?_, fun turns p => ⟨fun u life => ?_,
    fun life => ?_⟩⟩
  · rw [execute, if_pos h] at run
    exact run.exists_life
  · cases Task.report_of_life life with
    | underWay event observers told copies accounts => exact ⟨told, Thread.fallsSilent_task _⟩
  · cases Task.report_of_life life with
    | reported outcome told copies accounts =>
      refine ⟨fun _ => ⟨outcome, told, accounts⟩, fun hdied => ?_⟩
      obtain ⟨u, hu, hpanics⟩ := hdied
      exact absurd hpanics (copies u hu)
    | died told copies accounts =>
      refine ⟨fun hlived => ?_, fun _ => ⟨told, accounts⟩⟩
      obtain ⟨u, hu, hpanics⟩ := copies
      exact absurd hpanics (hlived u hu)

/-- The sample with a handler that panics on every request, and whose first copy panics as it is
made. -/
def touchy : Engine := .ofPipeline
  { sample.shared with
    roster := (Roster.empty 0 0).register defaultCommand
      { handle := fun _ _ _ => .panicked (.text "boom"), copyPanics := (· == 1) } }

/-- Two observers, of whom the first panics when it is told. -/
def listeners : List Observer := [{ tag := "a", panics := true }, { tag := "b" }]

/-- An event of the first connection of the sample, with its observers. -/
def observed (event : Exchange → Event) : Envelope Event where
  event := event { request := { path := "/", source := "a" }, connection := 0 }
  observers := listeners

/-- A handler that panics is reported to both observers and counted. -/
theorem accepted_reports_sample : ∃ turns p,
    Crowd.Life Thread.move (.task (.ofEnvelope (observed (.handler · ⟨0, 2, 0⟩)))) turns p none ∧
      toldIn turns = (listeners.map fun l => ⟨l, .handler, .panicked "boom"⟩) ∧
      countedIn .handlerPanic turns = 1 := by
  have began : Crowd.Life Thread.move (.task (.ofEnvelope (observed (.handler · ⟨0, 2, 0⟩)))) []
      touchy.shared _ := .begins _
  have ran := ((began.moves (i := {}) rfl).moves (i := {}) rfl).moves (i := {}) rfl
  obtain ⟨-, -, hlives⟩ := touchy.accepted_reports (observed (.handler · ⟨0, 2, 0⟩)) rfl
  obtain ⟨outcome, told, accounts⟩ := ((hlives _ _).2 ran).1 (by
    simp [Task.CopyPanics, Task.ofEnvelope, observed])
  -- the handler is run in the second move
  have hends : some outcome = some (.panicked "boom") :=
    accounts.handlers _ (List.mem_append_left _ (List.mem_append_right _ List.mem_cons_self))
      (.panicked (.text "boom")) rfl
  obtain rfl := Option.some.inj hends
  exact ⟨_, _, ran, told, accounts.counted .handlerPanic (.inr rfl)⟩

/-- A pool whose queue is full. -/
def crammed : Engine :=
  ((ofPipeline { sample.shared with
    queue := { ring := { slots := Array.replicate 1 { envelope := .empty }, free := 1 } } }).publish
      { event := .noop }).1

/-- An accepted envelope need not report. A dispatch whose copy panics is through with nobody told
and nothing counted; and if the pool is shut down, a dispatch that cannot publish its next stage is
gone with nobody told. -/
theorem accepted_unreported :
    ((touchy.execute (observed .dispatch)).2 = true ∧
      (touchy.execute (observed .dispatch)).1.settle.threads = [] ∧
      (touchy.execute (observed .dispatch)).1.settle.shared.notes = [] ∧
      (touchy.execute (observed .dispatch)).1.settle.shared.counters = {}) ∧
    (crammed.execute (observed .dispatch)).2 = true ∧
      (crammed.execute (observed .dispatch)).1.shutdown.threads = [] ∧
      (crammed.execute (observed .dispatch)).1.shutdown.shared.notes = [] := by
  decide +kernel

end Engine

end Switchboard
