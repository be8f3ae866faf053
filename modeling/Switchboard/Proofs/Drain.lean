import Switchboard.Proofs.Run

/-!
# Draining a server

Whoever drains a server goes by two numbers, the length of the queue and how many envelopes are
executed. An envelope counts in neither while it is in the hands of the dispatcher.

* `Engine.Opening.errands_of_idle`: once the accept loop has ended and both numbers are zero,
  whatever is still to be done is in the hands of the dispatcher or of someone who closes the queue.
* `Engine.Opening.idle_final`: if their hands are empty too, then nothing is left, nothing more will
  come, and closing the server afterwards discards nothing.
* `Engine.drained_early`: the hands count. The numbers may be seen to be zero twice while the
  dispatcher holds an envelope, and closing the server then abandons the connection.
-/

namespace Switchboard

variable {i : Chance} {p q : Pipeline} {t : Thread} {m : Move Pipeline Thread}

/-! ### Counting what is executed -/

namespace Thread

/-- A task counts for one. -/
def tasks : Thread → ℕ
  | task _ => 1
  | acceptor _ | dispatcher _ | leftOver _ | quitter _ | closer _ | joiner _ => 0

/-- An accept loop counts for one. -/
def acceptors : Thread → ℕ
  | acceptor _ => 1
  | dispatcher _ | task _ | leftOver _ | quitter _ | closer _ | joiner _ => 0

/-- What a thread holds that neither accepts nor executes: the dispatcher, or someone who closes the
queue. -/
def inHand : Thread → Multiset (Event × List Observer)
  | dispatcher (.consuming c) => c.loads
  | dispatcher (.admitted e) => {e.load}
  | closer c | joiner (.closing c) => c.loads
  | acceptor _ | task _ | leftOver _ | quitter _ | joiner _ => 0

/-- What a move does to the number of executed envelopes: it stays the number of tasks, and no
accept loop is started. -/
structure Counts (t : Thread) (p : Pipeline) (m : Move Pipeline Thread) : Prop where
  inFlight : m.shared.inFlight + t.tasks = p.inFlight + (m.heirs.map tasks).sum
  acceptors : (m.heirs.map acceptors).sum ≤ t.acceptors

end Thread

namespace Pipeline

open Thread (Counts)

theorem counts_acceptor {a : Acceptor} (h : p.moveAcceptor a = some m) :
    Counts (.acceptor a) p m := by
  cases a with
  | looping =>
    simp only [moveAcceptor] at h
    split at h <;> obtain rfl := Option.some.inj h
    · exact ⟨rfl, Nat.zero_le _⟩
    · exact ⟨rfl, le_rfl⟩
  | listening =>
    simp only [moveAcceptor, accept] at h
    split at h
    · split at h
      · obtain rfl := Option.some.inj h
        exact ⟨rfl, le_rfl⟩
      · cases h
    · obtain rfl := Option.some.inj h
      exact ⟨rfl, le_rfl⟩
    · obtain rfl := Option.some.inj h
      exact ⟨rfl, le_rfl⟩
  | publishing pub next =>
    cases pub with
    | published =>
      cases next <;> obtain rfl := Option.some.inj h <;> exact ⟨rfl, le_rfl⟩
    | refused e error =>
      obtain rfl := Option.some.inj h
      rw [foldl_release]
      exact ⟨rfl, Nat.zero_le _⟩
    | waiting e | permitted e | claimed e number | written =>
      simp only [moveAcceptor] at h
      obtain ⟨⟨ring, pub'⟩, -, hm⟩ := Option.bind_eq_some_iff.mp h
      obtain rfl := Option.some.inj hm
      exact ⟨rfl, le_rfl⟩

theorem counts_dispatcher {d : Dispatcher} (h : p.moveDispatcher d = some m) :
    Counts (.dispatcher d) p m := by
  cases d with
  | admitted e =>
    obtain rfl := Option.some.inj h
    exact ⟨rfl, le_rfl⟩
  | consuming c =>
    cases c with
    | holding e =>
      simp only [moveDispatcher] at h
      split at h <;> obtain rfl := Option.some.inj h <;> exact ⟨rfl, le_rfl⟩
    | finished =>
      obtain rfl := Option.some.inj h
      exact ⟨rfl, le_rfl⟩
    | checking | trying | listening | parked =>
      simp only [moveDispatcher] at h
      obtain ⟨⟨ring, c'⟩, -, hm⟩ := Option.bind_eq_some_iff.mp h
      obtain rfl := Option.some.inj hm
      exact ⟨rfl, le_rfl⟩

theorem counts_closer (self : Closer Event → Thread) {c : Closer Event}
    (h : p.moveCloser self c = some m)
    (hself : ∀ c, (self c).tasks = 0 ∧ (self c).acceptors = 0) : Counts (self c) p m := by
  have goes : ∀ {q : Pipeline} {c' : Closer Event}, q.inFlight = p.inFlight →
      Counts (self c) p { shared := q, self := some (self c') } := by
    intro q c' hq
    constructor
    · simp [hself, hq]
    · simp [hself]
  cases c with
  | drained taken =>
    cases taken with
    | nil =>
      obtain rfl := Option.some.inj h
      exact ⟨congrArg (p.inFlight + ·) (hself _).1, Nat.zero_le _⟩
    | cons e left =>
      obtain rfl := Option.some.inj h
      exact goes rfl
  | marking | sealing | notifying | draining taken =>
    simp only [moveCloser] at h
    obtain ⟨⟨ring, c'⟩, -, hm⟩ := Option.bind_eq_some_iff.mp h
    obtain rfl := Option.some.inj hm
    exact goes rfl

theorem counts_quitter {k : Quitter} (h : p.moveQuitter k = some m) :
    Counts (.quitter k) p m := by
  cases k with
  | flipping =>
    simp only [moveQuitter] at h
    split at h
    · split at h <;> obtain rfl := Option.some.inj h <;> exact ⟨rfl, le_rfl⟩
    · obtain rfl := Option.some.inj h
      exact ⟨rfl, le_rfl⟩
  | stopping =>
    obtain rfl := Option.some.inj h
    exact ⟨rfl, le_rfl⟩

theorem counts_joiner {j : Joiner} (h : p.moveJoiner i j = some m) : Counts (.joiner j) p m := by
  have looks : ∀ {j'}, p.goOn (.joiner j') = some m → Counts (.joiner j) p m := by
    intro j' hm
    obtain rfl := Option.some.inj hm
    exact ⟨rfl, le_rfl⟩
  cases j with
  | waiting =>
    simp only [moveJoiner] at h
    split at h
    · exact looks h
    · cases h
  | looking again | counting again =>
    simp only [moveJoiner] at h
    split at h
    · exact looks h
    split at h
    · exact looks h
    split at h
    · exact looks h
    · cases h
  | satisfied => exact looks h
  | stopping =>
    obtain rfl := Option.some.inj h
    exact ⟨rfl, le_rfl⟩
  | closing c => exact counts_closer (fun c => .joiner (.closing c)) h fun _ => ⟨rfl, rfl⟩

end Pipeline

namespace Task

open Thread (Counts)

theorem counts_of_proceed {t : Task} {t' : Option Task} {q' : Pipeline} {progress : Progress}
    (h : t.proceed q' progress = some (q, t')) (hflight : q'.inFlight = p.inFlight)
    (hpos : 0 < p.inFlight) : Counts (.task t) p { shared := q, self := t'.map .task } := by
  cases progress with
  | waits => cases h
  | works | beginsAnew | ends o | publishes e =>
    obtain ⟨rfl, rfl⟩ := Prod.mk.inj (Option.some.inj h)
    exact ⟨congrArg (· + 1) hflight, Nat.zero_le _⟩
  | dies =>
    obtain ⟨rfl, rfl⟩ := Prod.mk.inj (Option.some.inj h)
    refine ⟨?_, Nat.zero_le _⟩
    change q'.inFlight - 1 + 1 = p.inFlight
    omega

theorem counts_task {t : Task} {t' : Option Task} (h : t.step p i = some (q, t'))
    (hpos : 0 < p.inFlight) : Counts (.task t) p { shared := q, self := t'.map .task } := by
  obtain ⟨event, observers, phase⟩ := t
  cases phase with
  | running =>
    exact counts_of_proceed h (controls_execute p event).2.2.2 hpos
  | working =>
    exact counts_of_proceed h (controls_resume p event).2.2.2 hpos
  | ended o =>
    obtain ⟨rfl, rfl⟩ := Prod.mk.inj (Option.some.inj h)
    refine ⟨?_, Nat.zero_le _⟩
    change p.inFlight - 1 + 1 = p.inFlight
    omega
  | publishing pub =>
    cases pub with
    | published | refused e error =>
      obtain ⟨rfl, rfl⟩ := Prod.mk.inj (Option.some.inj h)
      exact ⟨rfl, le_rfl⟩
    | waiting e | permitted e | claimed e number | written =>
      simp only [step, publish] at h
      obtain ⟨⟨ring, pub'⟩, -, hm⟩ := Option.map_eq_some_iff.mp h
      obtain ⟨rfl, rfl⟩ := Prod.mk.inj hm
      exact ⟨rfl, le_rfl⟩

end Task

/-- Every move of a sane thread keeps the count, as long as a task that moves is counted. -/
theorem Thread.counts (h : t.move i p = some m) (hs : t.Sane p) (hpos : t.tasks ≤ p.inFlight) :
    t.Counts p m := by
  cases t with
  | acceptor a => exact p.counts_acceptor h
  | dispatcher d => exact p.counts_dispatcher h
  | task t =>
    obtain ⟨⟨q, t'⟩, hstep, rfl⟩ := Option.map_eq_some_iff.mp h
    exact Task.counts_task hstep hpos
  | leftOver e => exact hs.elim
  | quitter k => exact p.counts_quitter h
  | closer c => exact p.counts_closer Thread.closer h fun _ => ⟨rfl, rfl⟩
  | joiner j => exact p.counts_joiner h

/-! ### Idle engines -/

/-- A quantity of threads after a move. -/
theorem Move.sum_map_heirs (f : Thread → ℕ) (m : Move Pipeline Thread)
    (before after : List Thread) :
    ((before ++ m.self.toList ++ after ++ m.started).map f).sum =
      (m.heirs.map f).sum + ((before ++ after).map f).sum := by
  simp only [heirs, List.map_append, List.sum_append]
  omega

/-- A task has something to do. -/
theorem Task.errands_ne_zero (t : Task) : t.errands ≠ 0 := by
  unfold Task.errands
  split <;> simp

/-- Where nothing is to be done and nobody accepts, a deed only passes something on. -/
theorem Deed.of_done_eq_zero {done due : Multiset Errand} (h : Deed i p t done due q)
    (hdone : done = 0) (ht : t.acceptors = 0) : due = 0 ∧ q.still = p.still := by
  cases h with
  | carry _ hq => exact ⟨rfl, hq⟩
  | fault | enter => cases ht
  | drop | discard => simp at hdone
  | _ => exact absurd hdone (Task.errands_ne_zero _)

namespace Engine

variable {g d e : Engine} {turns later : List (Turn Chance Pipeline Thread)}
  {before after : List Thread}

/-- The number of executed envelopes is the number of tasks. -/
def Counted (d : Engine) : Prop := d.inFlight = (d.threads.map Thread.tasks).sum

theorem Counted.tasks_le (h : Counted ⟨p, before ++ t :: after⟩) : t.tasks ≤ p.inFlight := by
  have h : p.inFlight = ((before ++ t :: after).map Thread.tasks).sum := h
  rw [Crowd.sum_map_thread] at h
  omega

theorem Counted.move (h : Counted ⟨p, before ++ t :: after⟩) (hm : t.Counts p m) :
    Counted ⟨m.shared, before ++ m.self.toList ++ after ++ m.started⟩ := by
  have h : p.inFlight = ((before ++ t :: after).map Thread.tasks).sum := h
  have hmoved := hm.inFlight
  rw [Crowd.sum_map_thread] at h
  change m.shared.inFlight = _
  rw [m.sum_map_heirs]
  omega

/-- The number of executed envelopes is right at any time. -/
theorem Opening.counted (h : g.Opening) (hflight : g.inFlight = 0)
    (run : Crowd.Run Thread.move g turns d) : d.Counted := by
  have hnone : (g.threads.map Thread.tasks).sum = 0 := by
    refine List.sum_eq_zero fun n hn => ?_
    obtain ⟨t, ht, rfl⟩ := List.mem_map.mp hn
    cases h.threads t ht <;> rfl
  suffices hP : d.Sound ∧ d.Counted from hP.2
  refine run.keeps (P := fun _ d => Sound d ∧ Counted d) ⟨h.sound, hflight.trans hnone.symm⟩ ?_
  rintro turns i p t m before after hm ⟨hsound, hcounted⟩
  have hsane : t.Sane p := hsound.sane t (by simp)
  exact ⟨(hsound.move hm).1, hcounted.move (Thread.counts hm hsane hcounted.tasks_le)⟩

/-- **What the numbers show.** When nobody accepts connections any more, no slot of the queue is
claimed and no envelope is executed, then all that is still to be done is in the hands of the
dispatcher or of someone who closes the queue. -/
theorem Opening.errands_of_idle (h : g.Opening) (hflight : g.inFlight = 0)
    (run : Crowd.Run Thread.move g turns d) (closed : ∀ t ∈ d.threads, t.acceptors = 0)
    (queue : d.queued = 0) (executing : d.inFlight = 0) :
    d.errands = (d.threads.map fun t => t.inHand.map Errand.ofLoad).sum := by
  have hsound := h.sound_of_run run
  obtain ⟨-, -, hloads⟩ := hsound.balanced.of_length_eq_zero queue
  have htasks : ∀ t ∈ d.threads, t.tasks = 0 := fun t ht =>
    List.sum_eq_zero_iff.mp ((h.counted hflight run).symm.trans executing) _
      (List.mem_map_of_mem ht)
  have hhands : ∀ t ∈ d.threads,
      t.errands d.shared.queue.observers = t.inHand.map Errand.ofLoad := by
    intro t ht
    cases t with
    | acceptor a => cases closed _ ht
    | task t => cases htasks _ ht
    | leftOver e => exact (hsound.sane _ ht).elim
    | dispatcher d => cases d <;> rfl
    | quitter k | closer c => rfl
    | joiner j => cases j <;> rfl
  rw [errands, hloads, Multiset.map_zero, add_zero, List.map_congr_left hhands]

/-- An engine in which nothing is to be done and nobody accepts connections any more. -/
structure Idle (d : Engine) : Prop where
  sound : d.Sound
  counted : d.Counted
  closed : ∀ t ∈ d.threads, t.acceptors = 0
  finished : d.errands = 0

/-- It stays idle, and only switches and the state of the ring change. -/
theorem Idle.move (h : Idle ⟨p, before ++ t :: after⟩) (hm : t.move i p = some m) :
    Idle ⟨m.shared, before ++ m.self.toList ++ after ++ m.started⟩ ∧ m.shared.still = p.still := by
  have hmem : t ∈ before ++ t :: after := by simp
  have hcounts := Thread.counts hm (h.sound.sane t hmem) h.counted.tasks_le
  obtain ⟨hsound, -, done, due, rest, hdeed, hdone, hdue⟩ := h.sound.move hm
  obtain ⟨hdone, hrest⟩ := add_eq_zero.mp (hdone.symm.trans h.finished)
  obtain ⟨rfl, hstill⟩ := hdeed.of_done_eq_zero hdone (h.closed t hmem)
  refine ⟨⟨hsound, h.counted.move hcounts, fun u hu => ?_, by rw [hdue, hrest, add_zero]⟩, hstill⟩
  have hheirs : (m.heirs.map Thread.acceptors).sum = 0 :=
    Nat.eq_zero_of_le_zero (hcounts.acceptors.trans (h.closed t hmem).le)
  have hothers : ((before ++ after).map Thread.acceptors).sum = 0 := by
    refine List.sum_eq_zero fun n hn => ?_
    obtain ⟨v, hv, rfl⟩ := List.mem_map.mp hn
    refine h.closed v ?_
    simp only [List.mem_append, List.mem_cons] at hv ⊢
    tauto
  have hall : ((before ++ m.self.toList ++ after ++ m.started).map Thread.acceptors).sum = 0 := by
    rw [m.sum_map_heirs, hheirs, hothers]
  exact List.sum_eq_zero_iff.mp hall _ (List.mem_map_of_mem hu)

/-- **Idleness is final.** When nobody accepts connections any more, no slot of the queue is
claimed, no envelope is executed, and neither the dispatcher nor anyone who closes the queue holds
one, then nothing is left to be done, and whatever is done later, such as closing the workers and
the queue, leaves all connections as they are, counts nothing and discards nothing. -/
theorem Opening.idle_final (h : g.Opening) (hflight : g.inFlight = 0)
    (run : Crowd.Run Thread.move g turns d) (closed : ∀ t ∈ d.threads, t.acceptors = 0)
    (queue : d.queued = 0) (executing : d.inFlight = 0) (hands : ∀ t ∈ d.threads, t.inHand = 0)
    (rest : Crowd.Run Thread.move d later e) :
    e.errands = 0 ∧ e.shared.ledger = d.shared.ledger ∧ e.shared.counters = d.shared.counters ∧
      e.shared.notes = d.shared.notes := by
  have hidle : d.Idle := by
    refine ⟨h.sound_of_run run, h.counted hflight run, closed, ?_⟩
    rw [h.errands_of_idle hflight run closed queue executing]
    refine List.sum_eq_zero fun es hes => ?_
    obtain ⟨t, ht, rfl⟩ := List.mem_map.mp hes
    rw [hands t ht, Multiset.map_zero]
  obtain ⟨hidle', hstill⟩ : e.Idle ∧ e.shared.still = d.shared.still := by
    refine rest.keeps (P := fun _ e => Idle e ∧ Pipeline.still e.shared = d.shared.still)
      ⟨hidle, rfl⟩ ?_
    rintro _ i p t m before after hm ⟨hidle, hstill⟩
    obtain ⟨hidle', hstill'⟩ := hidle.move hm
    exact ⟨hidle', hstill'.trans hstill⟩
  obtain ⟨hledger, hcounters, hnotes, -⟩ := Deed.of_still hstill
  exact ⟨hidle'.finished, hledger, hcounters, hnotes⟩

/-! ### A drain that ends early -/

/-- The sample with one connection, which is to be completed when the server quits, with someone who
makes it quit and someone who waits for its end. -/
def draining : Engine where
  shared :=
    { sample.shared with
      drain := .complete
      incoming := [.connection .reliable (.request { path := "/", source := "a" }) .early none] }
  threads := sample.threads ++ [.quitter .flipping, .joiner .waiting]

theorem opening_draining : draining.Opening where
  ring := ⟨2, rfl⟩
  ledger := rfl
  threads := by
    simp only [draining, sample, List.mem_cons, List.mem_append, List.not_mem_nil, or_false,
      or_imp, forall_and, forall_eq]
    exact ⟨⟨.acceptor, .dispatcher⟩, .quitter, .joiner⟩

/-- The connection is accepted, the server quits, and the conversion is executed. Then the
dispatcher takes the middleware from the queue and stays there, while the joiner looks twice. -/
def drained : Engine :=
  (draining.follow Thread.move {} (List.replicate 13 0 ++ [2, 0, 0] ++ List.replicate 4 0 ++
    List.replicate 4 2 ++ [0, 0] ++ List.replicate 5 1)).2

/-- **The hands count.** Whoever waits for the end of a server may see twice that no slot of the
queue is claimed and no envelope is executed while the dispatcher holds an envelope. The server is
closed on it, and the connection is turned down instead of being completed. -/
theorem drained_early :
    draining.Opening ∧ ∃ turns later e, Crowd.Run Thread.move draining turns drained ∧
      Thread.joiner .satisfied ∈ drained.threads ∧ (∀ t ∈ drained.threads, t.acceptors = 0) ∧
      queued drained = 0 ∧ inFlight drained = 0 ∧ Crowd.Run Thread.move drained later e ∧
      errands e = 0 ∧ e.shared.ledger.map (·.reply.calls) = [[.error, .close]] := by
  refine ⟨opening_draining, _, _, _, Crowd.run_follow _ _ _ _, ?_, ?_, ?_, ?_,
    Crowd.run_follow _ {} (List.replicate 9 1 ++ List.replicate 4 0) _, ?_, ?_⟩
  all_goals decide +kernel

end Engine

end Switchboard
