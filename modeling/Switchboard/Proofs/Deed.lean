import Switchboard.Proofs.Errand
import Switchboard.Proofs.Ledger

/-!
# Every move is a deed

`Thread.conducts` goes through the moves of all threads once: a move from a balanced ring leads to a
balanced ring, turns the switches of the pipeline one way only, and does one of the deeds of
`Deed`, which accounts for all that was to be done before and after it. Everything else about runs
of the pipeline follows by `Engine.Opening.induct`, where a move is a deed and an engine is its
shared state with what is still to be done.
-/

namespace Switchboard

variable {i : Chance} {p q : Pipeline} {t : Thread} {m : Move Pipeline Thread} {n : ℕ}
  {cs : Multiset ℕ}

/-! ### What a thread leaves behind -/

namespace Move

/-- What has become of the thread that moved, and the threads that it started. -/
def heirs (m : Move Pipeline Thread) : List Thread := m.self.toList ++ m.started

/-- The permits in the hands of the heirs. -/
def permits (m : Move Pipeline Thread) : ℕ := (m.heirs.map Thread.permits).sum

/-- The sequence numbers that the heirs have drawn. -/
def claims (m : Move Pipeline Thread) : Multiset ℕ := (m.heirs.map Thread.claims).sum

/-- The errands in the hands of the heirs. -/
def errands (m : Move Pipeline Thread) (observers : List Observer) : Multiset Errand :=
  (m.heirs.map (Thread.errands observers)).sum

@[simp] theorem permits_goOn (p : Pipeline) (t : Thread) :
    permits { shared := p, self := some t } = t.permits := List.sum_singleton

@[simp] theorem claims_goOn (p : Pipeline) (t : Thread) :
    claims { shared := p, self := some t } = t.claims := List.sum_singleton

@[simp] theorem errands_goOn (p : Pipeline) (t : Thread) (observers : List Observer) :
    errands { shared := p, self := some t } observers = t.errands observers := List.sum_singleton

@[simp] theorem heirs_goOn (p : Pipeline) (t : Thread) :
    heirs { shared := p, self := some t } = [t] := rfl

end Move

/-! ### Switches that turn one way -/

namespace Pipeline

/-- Nobody has begun to shut the pipeline down. -/
structure Open (p : Pipeline) : Prop where
  quitting : p.quit.quitting = false
  accepting : p.accepting = true
  closed : p.queue.ring.closed = false
  permitsClosed : p.queue.ring.permitsClosed = false

/-- From one pipeline to the other no switch is turned back. -/
structure Advances (p q : Pipeline) : Prop where
  quitting : p.quit.quitting = true → q.quit.quitting = true
  accepting : q.accepting = true → p.accepting = true
  closed : p.queue.ring.closed = true → q.queue.ring.closed = true
  permitsClosed : p.queue.ring.permitsClosed = true → q.queue.ring.permitsClosed = true

theorem Advances.of_eq (hring : q.queue.ring = p.queue.ring) (hquit : q.quit = p.quit)
    (haccepting : q.accepting = p.accepting) : p.Advances q where
  quitting := by rw [hquit]; exact id
  accepting := by rw [haccepting]; exact id
  closed := by rw [hring]; exact id
  permitsClosed := by rw [hring]; exact id

/-- A pipeline that is open has always been. -/
theorem Advances.open_left (h : p.Advances q) (hq : q.Open) : p.Open where
  quitting := Bool.eq_false_iff.mpr fun hp => by simpa [h.quitting hp] using hq.quitting
  accepting := h.accepting hq.accepting
  closed := Bool.eq_false_iff.mpr fun hp => by simpa [h.closed hp] using hq.closed
  permitsClosed :=
    Bool.eq_false_iff.mpr fun hp => by simpa [h.permitsClosed hp] using hq.permitsClosed

end Pipeline

/-! ### Sane threads -/

/-- What is so of a publisher wherever it has come from: it was only refused by a ring that gives
no permits, and what it publishes is of this sort. -/
structure Publisher.Sane (p : Pipeline) (sort : Event → Prop) (pub : Publisher Event) : Prop where
  refused : ∀ e error, pub = .refused e error → p.queue.ring.permitsClosed = true
  loads : ∀ l ∈ pub.loads, sort l.1

/-- An event that follows another: a later stage of the same connection. -/
def Event.Follows (e next : Event) : Prop :=
  next.connection? = e.connection? ∧ next.lates = 1

/-- What is so of a thread wherever it has come from: what it publishes belongs together, it only
empties a ring that is closed, and it is not the rest of a cancelled task. -/
def Thread.Sane (p : Pipeline) : Thread → Prop
  | acceptor (.publishing pub next) =>
    ∃ connection, pub.Sane p (fun e => e.connection? = connection) ∧
      ∀ e ∈ next, e.connection? = connection
  | task t => ∀ pub, t.phase = .publishing pub → pub.Sane p t.event.Follows
  | leftOver _ => False
  | closer c | joiner (.closing c) => c = .marking ∨ p.queue.ring.closed = true
  | _ => True

theorem Publisher.sane_waiting (queue : EventQueue Event) {sort : Event → Prop} {e : Event}
    (h : sort e) : (waiting (queue.envelope e)).Sane p sort := by
  refine ⟨by simp, fun l hl => ?_⟩
  obtain rfl := Multiset.mem_singleton.mp hl
  exact h

theorem Publisher.Sane.advance {sort : Event → Prop} {pub : Publisher Event}
    (h : pub.Sane p sort) (hpq : p.Advances q) : pub.Sane q sort :=
  ⟨fun e error he => hpq.permitsClosed (h.refused e error he), h.loads⟩

/-- A thread stays sane while others move. -/
theorem Thread.Sane.advance (h : t.Sane p) (hpq : p.Advances q) : t.Sane q := by
  unfold Thread.Sane at h ⊢
  split at h
  · obtain ⟨connection, hpub, hnext⟩ := h
    exact ⟨connection, hpub.advance hpq, hnext⟩
  · exact fun pub he => (h pub he).advance hpq
  · exact h
  · exact h.imp_right hpq.closed
  · exact h.imp_right hpq.closed
  · trivial

/-- A publisher stays sane as it goes on. -/
theorem Publisher.Sane.step {sort : Event → Prop} {pub pub' : Publisher Event}
    {ring : Ring Event} (h : pub.Sane p sort)
    (hstep : pub.step p.queue.ring = some (ring, pub'))
    (hr : ∀ e error, pub' = .refused e error → ring.permitsClosed = true) :
    pub'.Sane (p.withRing ring) sort :=
  ⟨hr, fun l hl => h.loads l (Publisher.loads_subset_of_step hstep hl)⟩

/-! ### Conducting oneself -/

/-- What is so of every move: with the permits and numbers in other hands, the ring is balanced
before and after it, and a deed accounts for the errands. -/
structure Thread.Conducts (i : Chance) (p : Pipeline) (t : Thread) (m : Move Pipeline Thread)
    (n : ℕ) (cs : Multiset ℕ) : Prop where
  balanced : m.shared.queue.ring.Balanced (m.permits + n) (m.claims + cs)
  sane : ∀ u ∈ m.heirs, u.Sane m.shared
  advances : p.Advances m.shared
  deed : ∃ done due rest, Deed i p t done due m.shared ∧
    t.errands p.queue.observers + p.queue.ring.loads.map Errand.ofLoad = done + rest ∧
    m.errands p.queue.observers + m.shared.queue.ring.loads.map Errand.ofLoad = due + rest

namespace Thread.Conducts

/-- A move that leaves the ring alone, of a thread that holds nothing of the ring; `rest` is what
the thread keeps in its hands. -/
theorem of_deed {done due : Multiset Errand} (rest : Multiset Errand)
    (b : p.queue.ring.Balanced (t.permits + n) (t.claims + cs))
    (deed : Deed i p t done due m.shared)
    (hring : m.shared.queue.ring = p.queue.ring) (advances : p.Advances m.shared)
    (sane : ∀ u ∈ m.heirs, u.Sane m.shared) (hpermits : m.permits = t.permits)
    (hclaims : m.claims = t.claims) (hdone : t.errands p.queue.observers = done + rest)
    (hdue : m.errands p.queue.observers = due + rest) : Conducts i p t m n cs where
  balanced := by rw [hring, hpermits, hclaims]; exact b
  sane := sane
  advances := advances
  deed := by
    refine ⟨done, due, rest + p.queue.ring.loads.map Errand.ofLoad, deed, ?_, ?_⟩
    · rw [hdone, add_assoc]
    · rw [hdue, hring, add_assoc]

/-- A move after which everything is still in the same hands. -/
theorem of_idle (b : p.queue.ring.Balanced (t.permits + n) (t.claims + cs)) (ht : t.Carries p)
    (hstill : m.shared.still = p.still) (hring : m.shared.queue.ring = p.queue.ring)
    (advances : p.Advances m.shared) (sane : ∀ u ∈ m.heirs, u.Sane m.shared)
    (hpermits : m.permits = t.permits) (hclaims : m.claims = t.claims)
    (herrands : m.errands p.queue.observers = t.errands p.queue.observers) :
    Conducts i p t m n cs :=
  of_deed _ b (.carry ht hstill) hring advances sane hpermits hclaims (zero_add _).symm
    (herrands.trans (zero_add _).symm)

/-- A move that passes something on between the thread and the ring. -/
theorem of_carry (ht : t.Carries p) (hstill : m.shared.still = p.still)
    (balanced : m.shared.queue.ring.Balanced (m.permits + n) (m.claims + cs))
    (advances : p.Advances m.shared) (sane : ∀ u ∈ m.heirs, u.Sane m.shared)
    (herrands : m.errands p.queue.observers + m.shared.queue.ring.loads.map Errand.ofLoad =
      t.errands p.queue.observers + p.queue.ring.loads.map Errand.ofLoad) :
    Conducts i p t m n cs where
  balanced := balanced
  sane := sane
  advances := advances
  deed := ⟨0, 0, _, .carry ht hstill, (zero_add _).symm, by rw [zero_add, herrands]⟩

/-- A step of a publisher in the hands of a thread. -/
theorem of_publisher (rest : Multiset Errand) {pub pub' : Publisher Event} {ring : Ring Event}
    {t' : Thread} (b : p.queue.ring.Balanced (t.permits + n) (t.claims + cs))
    (h : pub.step p.queue.ring = some (ring, pub')) (ht : t.Carries p)
    (hpub : t.publisher? = some pub) (hpub' : t'.publisher? = some pub')
    {sort : Event → Prop} (hs : pub.Sane p sort)
    (sane : pub'.Sane (p.withRing ring) sort → t'.Sane (p.withRing ring))
    (herr : t.errands p.queue.observers = pub.loads.map Errand.ofLoad + rest)
    (herr' : t'.errands p.queue.observers = pub'.loads.map Errand.ofLoad + rest) :
    Conducts i p t ⟨p.withRing ring, some t', []⟩ n cs := by
  have hp : t.permits = pub.permits := by rw [permits, hpub]; rfl
  have hc : t.claims = pub.claims := by rw [claims, hpub]; rfl
  rw [hp, hc] at b
  obtain ⟨hb, hl, hpc, hcl, hr⟩ := Publisher.step_spec h b
  refine of_carry ht rfl ?_ ⟨id, id, ?_, ?_⟩ ?_ ?_
  · have hp' : Move.permits ⟨p.withRing ring, some t', []⟩ = pub'.permits := by
      simp [Move.permits, Move.heirs, permits, hpub']
    have hc' : Move.claims ⟨p.withRing ring, some t', []⟩ = pub'.claims := by
      simp [Move.claims, Move.heirs, claims, hpub']
    rw [hp', hc']
    exact hb
  · exact hcl.symm ▸ id
  · exact hpc.symm ▸ id
  · intro u hu
    obtain rfl : u = t' := by simpa [Move.heirs] using hu
    exact sane (hs.step h hr)
  · have he : Move.errands ⟨p.withRing ring, some t', []⟩ p.queue.observers =
        t'.errands p.queue.observers := by simp [Move.errands, Move.heirs]
    have hl := congrArg (Multiset.map Errand.ofLoad) hl
    rw [Multiset.map_add, Multiset.map_add] at hl
    calc _ = pub'.loads.map Errand.ofLoad + rest + ring.loads.map Errand.ofLoad := by
          rw [he, herr']; rfl
      _ = ring.loads.map Errand.ofLoad + pub'.loads.map Errand.ofLoad + rest := by abel
      _ = _ := by rw [hl, herr]; abel

/-- A step of a party that draws no numbers: the consumer, or someone who closes the ring. -/
theorem of_party {ring : Ring Event} {t' : Thread} {loads loads' : Multiset (Event × List Observer)}
    (ht : t.Carries p) (hpub' : t'.publisher? = none) (hb : ring.Balanced n cs)
    (hl : ring.loads + loads' = p.queue.ring.loads + loads)
    (hcl : p.queue.ring.closed = true → ring.closed = true)
    (hpc : p.queue.ring.permitsClosed = true → ring.permitsClosed = true)
    (sane : t'.Sane (p.withRing ring))
    (herr : t.errands p.queue.observers = loads.map Errand.ofLoad)
    (herr' : t'.errands p.queue.observers = loads'.map Errand.ofLoad) :
    Conducts i p t ⟨p.withRing ring, some t', []⟩ n cs := by
  refine of_carry ht rfl ?_ ⟨id, id, hcl, hpc⟩ ?_ ?_
  · have hp' : Move.permits ⟨p.withRing ring, some t', []⟩ = 0 := by
      simp [Move.permits, Move.heirs, permits, hpub']
    have hc' : Move.claims ⟨p.withRing ring, some t', []⟩ = 0 := by
      simp [Move.claims, Move.heirs, claims, hpub']
    rw [hp', hc', zero_add, zero_add]
    exact hb
  · intro u hu
    obtain rfl : u = t' := by simpa [Move.heirs] using hu
    exact sane
  · have he : Move.errands ⟨p.withRing ring, some t', []⟩ p.queue.observers =
        t'.errands p.queue.observers := by simp [Move.errands, Move.heirs]
    have hl := congrArg (Multiset.map Errand.ofLoad) hl
    rw [Multiset.map_add, Multiset.map_add] at hl
    calc _ = loads'.map Errand.ofLoad + ring.loads.map Errand.ofLoad := by rw [he, herr']; rfl
      _ = ring.loads.map Errand.ofLoad + loads'.map Errand.ofLoad := add_comm _ _
      _ = _ := by rw [hl, herr, add_comm]

end Thread.Conducts

/-! ### Thread by thread -/

namespace Pipeline

open Thread (Conducts)

/-- Letting go of events changes the ledger and nothing else. -/
theorem foldl_release (es : List Event) (p : Pipeline) :
    es.foldl release p = { p with ledger := es.foldl Ledger.release p.ledger } := by
  induction es generalizing p with
  | nil => rfl
  | cons e es ih => exact ih (p.release e)

theorem conducts_acceptor {a : Acceptor} (h : p.moveAcceptor a = some m)
    (hs : (Thread.acceptor a).Sane p)
    (b : p.queue.ring.Balanced ((Thread.acceptor a).permits + n)
      ((Thread.acceptor a).claims + cs)) :
    Conducts i p (.acceptor a) m n cs := by
  have same : p.Advances p := .of_eq rfl rfl rfl
  cases a with
  | looping =>
    unfold moveAcceptor at h
    by_cases hq : p.quit.quitting = true
    · rw [if_pos hq] at h
      obtain rfl := Option.some.inj h
      exact .of_idle b trivial rfl rfl (.of_eq rfl rfl rfl) (by simp [Move.heirs]) rfl rfl rfl
    · rw [if_neg hq] at h
      obtain rfl := Option.some.inj h
      exact .of_idle b trivial rfl rfl same (by simp [Move.heirs, Thread.Sane]) rfl rfl rfl
  | listening =>
    simp only [moveAcceptor, accept] at h
    split at h
    · rename_i hin
      split at h
      · obtain rfl := Option.some.inj h
        exact .of_idle b hin rfl rfl same (by simp [Move.heirs, Thread.Sane]) rfl rfl rfl
      · cases h
    · rename_i incoming hin
      obtain rfl := Option.some.inj h
      exact .of_deed 0 b (.fault hin rfl) rfl (.of_eq rfl rfl rfl)
        (by simp [Move.heirs, Thread.Sane]) rfl rfl rfl rfl
    · rename_i output ending binding latch incoming hin
      obtain rfl := Option.some.inj h
      refine .of_deed 0 b (.enter hin rfl) rfl (.of_eq rfl rfl rfl) ?_ rfl rfl rfl
        (Multiset.add_zero _)
      rw [Move.heirs_goOn, List.forall_mem_singleton]
      refine ⟨_, Publisher.sane_waiting _ rfl, fun e he => ?_⟩
      obtain rfl := List.mem_singleton.mp he
      rfl
  | publishing pub next =>
    cases pub with
    | published =>
      cases next with
      | nil =>
        obtain rfl := Option.some.inj h
        exact .of_idle b trivial rfl rfl same (by simp [Move.heirs, Thread.Sane]) rfl rfl rfl
      | cons e next =>
        obtain rfl := Option.some.inj h
        refine .of_idle b trivial rfl rfl same ?_ rfl rfl ?_
        · obtain ⟨connection, -, hnext⟩ := hs
          rw [Move.heirs_goOn, List.forall_mem_singleton]
          exact ⟨connection, Publisher.sane_waiting _ (hnext e List.mem_cons_self),
            fun e' he' => hnext e' (List.mem_cons_of_mem e he')⟩
        rw [Move.errands_goOn]
        simp [Thread.errands, Publisher.loads, EventQueue.envelope, Envelope.load, Errand.ofLoad,
          ← Multiset.cons_coe]
    | refused e error =>
      obtain rfl := Option.some.inj h
      obtain ⟨connection, hpub, hnext⟩ := hs
      have he : e.event.connection? = connection := hpub.loads _ (Multiset.mem_singleton_self _)
      have closed := hpub.refused e error rfl
      refine .of_deed 0 b (.drop closed (fun e' he' => (hnext e' he').trans he.symm) rfl) ?_ ?_
        (by simp [Move.heirs]) rfl rfl ?_ rfl
      · rw [foldl_release]
      · rw [foldl_release]
        exact .of_eq rfl rfl rfl
      · simp [Thread.errands, Publisher.loads, Envelope.load, Errand.ofLoad]
    | waiting e | permitted e | claimed e number | written =>
      simp only [moveAcceptor] at h
      obtain ⟨⟨ring, pub'⟩, hstep, hm⟩ := Option.bind_eq_some_iff.mp h
      obtain rfl := Option.some.inj hm
      obtain ⟨connection, hpub, hnext⟩ := hs
      exact .of_publisher _ b hstep trivial rfl rfl hpub (fun hpub' => ⟨_, hpub', hnext⟩) rfl rfl

theorem conducts_dispatcher {d : Dispatcher} (h : p.moveDispatcher d = some m)
    (b : p.queue.ring.Balanced n cs) : Conducts i p (.dispatcher d) m n cs := by
  have b' : p.queue.ring.Balanced ((Thread.dispatcher d).permits + n)
      ((Thread.dispatcher d).claims + cs) := by
    simpa [Thread.permits, Thread.claims, Thread.publisher?] using b
  have same : p.Advances p := .of_eq rfl rfl rfl
  cases d with
  | admitted e =>
    obtain rfl := Option.some.inj h
    refine .of_idle b' trivial rfl rfl (.of_eq rfl rfl rfl) ?_ rfl rfl rfl
    simp [Move.heirs, Thread.Sane, Task.ofEnvelope]
  | consuming c =>
    cases c with
    | holding e =>
      simp only [moveDispatcher] at h
      by_cases ha : p.accepting = true
      · rw [if_pos ha] at h
        obtain rfl := Option.some.inj h
        exact .of_idle b' ha rfl rfl same (by simp [Thread.Sane]) rfl rfl rfl
      · rw [if_neg ha] at h
        obtain rfl := Option.some.inj h
        exact .of_deed 0 b' (.discard (.dispatcher (Bool.eq_false_iff.mpr ha)) rfl) rfl
          (.of_eq rfl rfl rfl) (by simp [Thread.Sane]) rfl rfl rfl rfl
    | finished =>
      obtain rfl := Option.some.inj h
      exact .of_idle b' trivial rfl rfl same (by simp [Move.heirs]) rfl rfl rfl
    | checking | trying | listening | parked =>
      simp only [moveDispatcher] at h
      obtain ⟨⟨ring, c'⟩, hstep, hm⟩ := Option.bind_eq_some_iff.mp h
      obtain rfl := Option.some.inj hm
      obtain ⟨hb, hl, hpc, hcl⟩ := Consumer.step_spec hstep b
      exact .of_party trivial rfl hb hl hcl.ge hpc.ge trivial rfl rfl

theorem conducts_closer (self : Closer Event → Thread) {c : Closer Event}
    (h : p.moveCloser self c = some m) (hs : c = .marking ∨ p.queue.ring.closed = true)
    (b : p.queue.ring.Balanced n cs)
    (self_eq : self = Thread.closer ∨ self = fun c => .joiner (.closing c)) :
    Conducts i p (self c) m n cs := by
  have hpub : ∀ c, (self c).publisher? = none := by
    rcases self_eq with rfl | rfl <;> intro c <;> rfl
  have herr : ∀ c observers, (self c).errands observers = c.loads.map Errand.ofLoad := by
    rcases self_eq with rfl | rfl <;> intro c observers <;> rfl
  have hsane : ∀ c q, (c = .marking ∨ q.queue.ring.closed = true) → (self c).Sane q := by
    rcases self_eq with rfl | rfl <;> intro c q hc <;> exact hc
  have b' : p.queue.ring.Balanced ((self c).permits + n) ((self c).claims + cs) := by
    simpa [Thread.permits, Thread.claims, hpub] using b
  cases c with
  | drained taken =>
    cases taken with
    | nil =>
      obtain rfl := Option.some.inj h
      refine .of_idle b' ?_ rfl rfl (.of_eq rfl rfl rfl) (by simp [Move.heirs]) ?_ ?_ ?_
      · rcases self_eq with rfl | rfl <;> trivial
      · rcases self_eq with rfl | rfl <;> rfl
      · rcases self_eq with rfl | rfl <;> rfl
      · rcases self_eq with rfl | rfl <;> rfl
    | cons e left =>
      obtain rfl := Option.some.inj h
      have hcl := hs.resolve_left (by simp)
      have ht : (self (.drained (e :: left))).Discards p e := by
        rcases self_eq with rfl | rfl
        · exact .closer hcl
        · exact .joiner hcl
      refine .of_deed ((Closer.drained left).loads.map Errand.ofLoad) b' (.discard ht rfl) rfl
        (.of_eq rfl rfl rfl) ?_ ?_ ?_ ?_ ?_
      · rw [Move.heirs_goOn, List.forall_mem_singleton]
        exact hsane _ _ (Or.inr hcl)
      · simp [Thread.permits, hpub]
      · simp [Thread.claims, hpub]
      · rw [herr]
        simp [Closer.loads, Errand.ofLoad, Envelope.load, ← Multiset.cons_coe]
      · rw [Move.errands_goOn, herr, zero_add]
  | marking | sealing | notifying | draining taken =>
    simp only [moveCloser] at h
    obtain ⟨⟨ring, c'⟩, hstep, hm⟩ := Option.bind_eq_some_iff.mp h
    obtain rfl := Option.some.inj hm
    obtain ⟨hb, hl, hpc, hcl, hcl'⟩ := Closer.step_spec hstep b
    refine .of_party ?_ (hpub c') hb hl hcl hpc (hsane c' _ (Or.inr (hcl' hs))) (herr _ _)
      (herr _ _)
    rcases self_eq with rfl | rfl <;> trivial

theorem conducts_quitter {k : Quitter} (h : p.moveQuitter k = some m)
    (b : p.queue.ring.Balanced n cs) : Conducts i p (.quitter k) m n cs := by
  have b' : p.queue.ring.Balanced ((Thread.quitter k).permits + n)
      ((Thread.quitter k).claims + cs) := by
    simpa [Thread.permits, Thread.claims, Thread.publisher?] using b
  cases k with
  | flipping =>
    simp only [moveQuitter] at h
    have hquit := p.quit.quitting_set_true
    cases hset : p.quit.set true with
    | mk quit flipped =>
      rw [hset] at h hquit
      cases flipped with
      | false =>
        obtain rfl := Option.some.inj h
        exact .of_idle b' trivial rfl rfl (.of_eq rfl rfl rfl) (by simp [Move.heirs]) rfl rfl rfl
      | true =>
        have advances : p.Advances { p with quit } := ⟨fun _ => hquit, id, id, id⟩
        dsimp only at h
        split at h
        · obtain rfl := Option.some.inj h
          exact .of_idle b' trivial rfl rfl advances (by simp [Thread.Sane]) rfl rfl rfl
        · obtain rfl := Option.some.inj h
          exact .of_idle b' trivial rfl rfl advances (by simp [Move.heirs]) rfl rfl rfl
  | stopping =>
    obtain rfl := Option.some.inj h
    exact .of_idle b' trivial rfl rfl ⟨id, fun hf => Bool.noConfusion hf, id, id⟩
      (by simp [Thread.Sane]) rfl rfl rfl

/-- Someone who waits for the end of the server and has not begun to close has nothing in its
hands. -/
theorem errands_joiner {j : Joiner} (hj : ∀ c, j ≠ .closing c) (observers : List Observer) :
    (Thread.joiner j).errands observers = 0 := by
  cases j with
  | closing c => exact absurd rfl (hj c)
  | waiting | looking again | counting again | satisfied | stopping => rfl

theorem conducts_joiner {j : Joiner} (h : p.moveJoiner i j = some m)
    (hs : (Thread.joiner j).Sane p) (b : p.queue.ring.Balanced n cs) :
    Conducts i p (.joiner j) m n cs := by
  have b' : p.queue.ring.Balanced ((Thread.joiner j).permits + n)
      ((Thread.joiner j).claims + cs) := by
    simpa [Thread.permits, Thread.claims, Thread.publisher?] using b
  -- before it closes anything it only looks, and goes on to look at something else
  have looks : ∀ j', p.goOn (.joiner j') = some m → (∀ c, j ≠ .closing c) →
      (∀ c, j' ≠ .closing c) → Conducts i p (.joiner j) m n cs := by
    intro j' hm hj hj'
    obtain rfl := Option.some.inj hm
    refine .of_idle b' ?_ rfl rfl (.of_eq rfl rfl rfl) ?_ rfl rfl ?_
    · unfold Thread.Carries
      split <;> simp_all
    · simp only [Move.heirs_goOn, List.forall_mem_singleton]
      unfold Thread.Sane
      split <;> simp_all
    · rw [Move.errands_goOn, errands_joiner hj, errands_joiner hj']
  cases j with
  | waiting =>
    simp only [moveJoiner] at h
    split at h
    · exact looks _ h (by simp) (by split <;> simp)
    · cases h
  | looking again =>
    simp only [moveJoiner] at h
    split at h
    · exact looks _ h (by simp) (by simp)
    split at h
    · exact looks _ h (by simp) (by simp)
    split at h
    · exact looks _ h (by simp) (by simp)
    · cases h
  | counting again =>
    simp only [moveJoiner] at h
    split at h
    · exact looks _ h (by simp) (by split <;> simp)
    split at h
    · exact looks _ h (by simp) (by simp)
    split at h
    · exact looks _ h (by simp) (by simp)
    · cases h
  | satisfied => exact looks _ h (by simp) (by simp)
  | stopping =>
    obtain rfl := Option.some.inj h
    exact .of_idle b' trivial rfl rfl ⟨id, fun hf => Bool.noConfusion hf, id, id⟩
      (by simp [Thread.Sane]) rfl rfl rfl
  | closing c => exact conducts_closer (fun c => .joiner (.closing c)) h hs b (Or.inr rfl)

end Pipeline

namespace Task

open Thread (Conducts)

/-- A deed of a task that leaves the ring alone. -/
theorem conducts_of_deed {t : Task} {t' : Option Task} {due : Multiset Errand}
    (b : p.queue.ring.Balanced ((Thread.task t).permits + n) ((Thread.task t).claims + cs))
    (deed : Deed i p (.task t) t.errands due q) (hqueue : q.queue = p.queue)
    (hquit : q.quit = p.quit) (haccepting : q.accepting = p.accepting)
    (hpermits : (Thread.task t).permits = 0)
    (hclaims : (Thread.task t).claims = 0) (ht' : ∀ u ∈ t', (Thread.task u).permits = 0 ∧
      (Thread.task u).claims = 0 ∧ (Thread.task u).Sane q)
    (hdue : due = (t'.map errands).getD 0) :
    Conducts i p (.task t) { shared := q, self := t'.map .task } n cs := by
  have hring : q.queue.ring = p.queue.ring := by rw [hqueue]
  have advances : p.Advances q := .of_eq hring hquit haccepting
  cases t' with
  | none =>
    refine .of_deed 0 b deed hring advances (by simp [Move.heirs]) hpermits.symm hclaims.symm
      (add_zero _).symm ?_
    rw [hdue]
    rfl
  | some u =>
    obtain ⟨hp, hc, hr⟩ := ht' u rfl
    refine .of_deed 0 b deed hring advances ?_ ?_ ?_ (add_zero _).symm ?_
    · rw [Option.map_some, Move.heirs_goOn, List.forall_mem_singleton]
      exact hr
    · rw [Option.map_some, Move.permits_goOn, hp, hpermits]
    · rw [Option.map_some, Move.claims_goOn, hc, hclaims]
    · rw [Option.map_some, Move.errands_goOn, hdue, add_zero]
      rfl

/-- What is to be done after a task has progressed. -/
def after (t : Task) (observers : List Observer) : Progress → Multiset Errand
  | .waits | .dies => 0
  | .works => {.begun t.event t.observers}
  | .beginsAnew => {.pending t.event t.observers}
  | .publishes e => {.passing t.event t.observers, .pending e observers}
  | .ends o => {.reporting t.event t.observers o}

/-- To begin to execute an event is a deed. -/
theorem deed_of_execute {t : Task} (ht : t.phase = .running) {q' : Pipeline} {progress : Progress}
    (h : p.execute t.event = (q', progress)) (hq : q.still = q'.still) :
    Deed i p (.task t) t.errands (t.after p.queue.observers progress) q := by
  have still_reach : ∀ latch, (p.reach latch).still = p.still := by
    intro latch
    unfold Pipeline.reach
    split
    · split <;> rfl
    · rfl
  cases he : t.event with
  | noop =>
    rw [he] at h
    obtain ⟨rfl, rfl⟩ := Prod.mk.inj h
    exact .noop ht he hq
  | conversion job =>
    rw [he] at h
    obtain ⟨rfl, rfl⟩ := Prod.mk.inj h
    exact .begins ht (by simp [he]) (by simp [he]) (hq.trans (still_reach _))
  | middleware connection =>
    simp only [he, Pipeline.execute, Pipeline.await] at h
    by_cases ha : p.shouldAbandon = true
    · rw [if_pos ha] at h
      obtain ⟨rfl, rfl⟩ := Prod.mk.inj h
      exact .giveUp he (Or.inl ⟨ht, ha⟩) hq
    · rw [if_neg ha] at h
      obtain ⟨rfl, rfl⟩ := Prod.mk.inj h
      exact .begins ht (by simp [he]) (fun _ _ => eq_false_of_ne_true ha) hq
  | dispatch x =>
    cases hr : p.memo.resolve p.roster x.request.path with
    | mk memo found =>
      cases hk : p.roster.take (found.getD defaultCommand) with
      | mk roster taken =>
        simp only [he, Pipeline.execute, Pipeline.dispatch, hr, hk] at h
        cases taken with
        | unserved =>
          obtain ⟨rfl, rfl⟩ := Prod.mk.inj h
          exact .noRoute ht he hr hk hq
        | panicked =>
          obtain ⟨rfl, rfl⟩ := Prod.mk.inj h
          exact .die ht he hr hk hq
        | handed inst =>
          obtain ⟨rfl, rfl⟩ := Prod.mk.inj h
          exact .dispatch ht he hr hk hq
  | handler x inst =>
    rw [he] at h
    obtain ⟨rfl, rfl⟩ := Prod.mk.inj h
    exact .begins ht (by simp [he]) (by simp [he]) (hq.trans (still_reach _))

/-- To go on with an event is a deed, unless it has to wait. -/
theorem deed_of_resume {t : Task} (ht : t.phase = .working) {q' : Pipeline} {progress : Progress}
    (h : p.resume i t.event = (q', progress)) (hp : progress ≠ .waits) (hq : q.still = q'.still) :
    Deed i p (.task t) t.errands (t.after p.queue.observers progress) q := by
  cases he : t.event with
  | noop | dispatch x =>
    rw [he] at h
    exact absurd (Prod.mk.inj h).2.symm hp
  | conversion job =>
    simp only [he, Pipeline.resume, Pipeline.convert] at h
    by_cases hl : p.isHeld job.latch = true
    · rw [if_pos hl] at h
      exact absurd (Prod.mk.inj h).2.symm hp
    rw [if_neg hl] at h
    cases hr : p.ledger.runJob job with
    | mk ledger result =>
      have hh := p.ledger.handOver_runJob job.connection job
      rw [hr] at h hh
      cases result <;> cases hk : (ledger.line job.connection).handOver <;>
        simp only [Pipeline.count, hk] at h <;> obtain ⟨rfl, rfl⟩ := Prod.mk.inj h
      case error.noReceiver => exact .convertInVain ht he (hh.symm.trans hk) hr hq
      case ok.noReceiver => exact .convertInVain ht he (hh.symm.trans hk) hr hq
      all_goals exact .convert ht he (by rw [← hh, hk]; simp) hr hq
  | middleware connection =>
    simp only [he, Pipeline.resume, Pipeline.receive] at h
    cases hh : (p.ledger.line connection).handOver with
    | awaited =>
      rw [hh] at h
      dsimp only at h
      split at h
      · obtain ⟨rfl, rfl⟩ := Prod.mk.inj h
        exact .poll ht he hq
      · exact absurd (Prod.mk.inj h).2.symm hp
    | noSender =>
      rw [hh] at h
      obtain ⟨rfl, rfl⟩ := Prod.mk.inj h
      exact .giveUp he (Or.inr ⟨ht, Or.inl hh⟩) hq
    | noReceiver =>
      rw [hh] at h
      obtain ⟨rfl, rfl⟩ := Prod.mk.inj h
      exact .giveUp he (Or.inr ⟨ht, Or.inr hh⟩) hq
    | ready c =>
      cases c with
      | error e =>
        rw [hh] at h
        obtain ⟨rfl, rfl⟩ := Prod.mk.inj h
        exact .malformed ht he hh hq
      | ok x =>
        rw [hh] at h
        simp only [Pipeline.consult] at h
        cases ha : p.gate.allow i.moments x.request.source p.reverseLookup p.caseSensitive with
        | mk gate admits =>
          have ha' : (p.change connection Line.leave).gate.allow i.moments x.request.source
              (p.change connection Line.leave).reverseLookup
              (p.change connection Line.leave).caseSensitive = (gate, admits) := ha
          rw [ha'] at h
          cases admits with
          | true =>
            obtain ⟨rfl, rfl⟩ := Prod.mk.inj h
            exact .grant ht he hh ha hq
          | false =>
            obtain ⟨rfl, rfl⟩ := Prod.mk.inj h
            exact .deny ht he hh ha hq
  | handler x inst =>
    simp only [he, Pipeline.resume, Pipeline.handle] at h
    by_cases hl : p.isHeld (p.latchOf inst) = true
    · rw [if_pos hl] at h
      exact absurd (Prod.mk.inj h).2.symm hp
    rw [if_neg hl] at h
    cases hr : (p.roster.run inst x.request).2 <;> rw [hr] at h <;>
      obtain ⟨rfl, rfl⟩ := Prod.mk.inj h <;> exact .handle ht he hr hq

/-- Executing an event has no part in the passing of envelopes, in the switches, or in the count of
what is executed. -/
theorem controls_execute (p : Pipeline) (e : Event) :
    (p.execute e).1.queue = p.queue ∧ (p.execute e).1.quit = p.quit ∧
      (p.execute e).1.accepting = p.accepting ∧ (p.execute e).1.inFlight = p.inFlight := by
  have reach : ∀ latch, (p.reach latch).queue = p.queue ∧ (p.reach latch).quit = p.quit ∧
      (p.reach latch).accepting = p.accepting ∧ (p.reach latch).inFlight = p.inFlight := by
    intro latch
    unfold Pipeline.reach
    split
    · split <;> exact ⟨rfl, rfl, rfl, rfl⟩
    · exact ⟨rfl, rfl, rfl, rfl⟩
  cases e with
  | noop => exact ⟨rfl, rfl, rfl, rfl⟩
  | conversion job => exact reach _
  | handler x inst => exact reach _
  | middleware connection =>
    simp only [Pipeline.execute, Pipeline.await]
    split <;> exact ⟨rfl, rfl, rfl, rfl⟩
  | dispatch x =>
    simp only [Pipeline.execute, Pipeline.dispatch]
    split <;> exact ⟨rfl, rfl, rfl, rfl⟩

theorem controls_resume (p : Pipeline) (e : Event) :
    (p.resume i e).1.queue = p.queue ∧ (p.resume i e).1.quit = p.quit ∧
      (p.resume i e).1.accepting = p.accepting ∧ (p.resume i e).1.inFlight = p.inFlight := by
  cases e with
  | noop | dispatch x => exact ⟨rfl, rfl, rfl, rfl⟩
  | conversion job =>
    simp only [Pipeline.resume, Pipeline.convert]
    split
    · exact ⟨rfl, rfl, rfl, rfl⟩
    · cases (p.ledger.runJob job).2 <;> dsimp only <;> split <;> exact ⟨rfl, rfl, rfl, rfl⟩
  | middleware connection =>
    simp only [Pipeline.resume, Pipeline.receive, Pipeline.consult]
    split
    · exact ⟨rfl, rfl, rfl, rfl⟩
    · exact ⟨rfl, rfl, rfl, rfl⟩
    · exact ⟨rfl, rfl, rfl, rfl⟩
    · exact ⟨rfl, rfl, rfl, rfl⟩
    · split <;> exact ⟨rfl, rfl, rfl, rfl⟩
  | handler x inst =>
    simp only [Pipeline.resume, Pipeline.handle]
    split
    · exact ⟨rfl, rfl, rfl, rfl⟩
    · cases (p.roster.run inst x.request).2 <;> exact ⟨rfl, rfl, rfl, rfl⟩

/-- The stage that is published follows the one that publishes it. -/
theorem follows_of_execute {e next : Event} (h : p.execute e = (q, .publishes next)) :
    e.Follows next := by
  cases e with
  | noop | conversion job | handler x inst => cases (Prod.mk.inj h).2
  | middleware connection =>
    simp only [Pipeline.execute, Pipeline.await] at h
    split at h <;> cases (Prod.mk.inj h).2
  | dispatch x =>
    simp only [Pipeline.execute, Pipeline.dispatch] at h
    split at h <;> cases (Prod.mk.inj h).2
    exact ⟨rfl, rfl⟩

theorem follows_of_resume {e next : Event} (hh : p.ledger.Handed)
    (h : p.resume i e = (q, .publishes next)) : e.Follows next := by
  cases e with
  | noop | dispatch x => cases (Prod.mk.inj h).2
  | conversion job =>
    simp only [Pipeline.resume, Pipeline.convert] at h
    split at h
    · cases (Prod.mk.inj h).2
    · split at h <;> cases (Prod.mk.inj h).2
  | handler x inst =>
    simp only [Pipeline.resume, Pipeline.handle] at h
    split at h
    · cases (Prod.mk.inj h).2
    · split at h <;> cases (Prod.mk.inj h).2
  | middleware connection =>
    simp only [Pipeline.resume, Pipeline.receive, Pipeline.consult] at h
    split at h
    · have := (Prod.mk.inj h).2
      split at this <;> cases this
    · cases (Prod.mk.inj h).2
    · cases (Prod.mk.inj h).2
    · cases (Prod.mk.inj h).2
    · rename_i x hx
      split at h <;> cases (Prod.mk.inj h).2
      exact ⟨(hh _ _ hx).resolve_left (by simp [Conversion.reply?]), rfl⟩

theorem conducts_of_proceed {t : Task} {t' : Option Task} {q' : Pipeline} {progress : Progress}
    (h : t.proceed q' progress = some (q, t'))
    (b : p.queue.ring.Balanced ((Thread.task t).permits + n) ((Thread.task t).claims + cs))
    (ht : ∀ pub, t.phase ≠ .publishing pub)
    (deed : progress ≠ .waits → ∀ {q}, q.still = q'.still →
      Deed i p (.task t) t.errands (t.after p.queue.observers progress) q)
    (controls : q'.queue = p.queue ∧ q'.quit = p.quit ∧ q'.accepting = p.accepting ∧
      q'.inFlight = p.inFlight)
    (next : ∀ e, progress = .publishes e → t.event.Follows e) :
    Conducts i p (.task t) { shared := q, self := t'.map .task } n cs := by
  obtain ⟨hqueue, hquit, haccepting, -⟩ := controls
  have hpub : (Thread.task t).publisher? = none := by
    cases hp : t.phase with
    | publishing pub => exact absurd hp (ht pub)
    | running | working | ended o => simp only [Thread.publisher?, hp]
  have hpermits : (Thread.task t).permits = 0 := by rw [Thread.permits, hpub]; rfl
  have hclaims : (Thread.task t).claims = 0 := by rw [Thread.claims, hpub]; rfl
  cases progress with
  | waits => cases h
  | works | beginsAnew | ends o =>
    obtain ⟨rfl, rfl⟩ := Prod.mk.inj (Option.some.inj h)
    exact conducts_of_deed b (deed (by simp) rfl) hqueue hquit haccepting hpermits hclaims
      (by rintro u ⟨⟩; exact ⟨rfl, rfl, by simp [Thread.Sane]⟩) rfl
  | publishes e =>
    obtain ⟨rfl, rfl⟩ := Prod.mk.inj (Option.some.inj h)
    refine conducts_of_deed b (deed (by simp) rfl) hqueue hquit haccepting hpermits hclaims ?_ ?_
    · rintro u ⟨⟩
      refine ⟨rfl, rfl, ?_⟩
      rintro pub ⟨⟩
      exact Publisher.sane_waiting _ (next e rfl)
    · rw [hqueue]
      rfl
  | dies =>
    obtain ⟨rfl, rfl⟩ := Prod.mk.inj (Option.some.inj h)
    exact conducts_of_deed b (deed (by simp) rfl) hqueue hquit haccepting hpermits hclaims
      (by simp) rfl

theorem conducts_task {t : Task} {t' : Option Task} (h : t.step p i = some (q, t'))
    (hs : (Thread.task t).Sane p) (hh : p.ledger.Handed)
    (b : p.queue.ring.Balanced ((Thread.task t).permits + n) ((Thread.task t).claims + cs)) :
    Conducts i p (.task t) { shared := q, self := t'.map .task } n cs := by
  obtain ⟨event, observers, phase⟩ := t
  cases phase with
  | running =>
    refine conducts_of_proceed h b (by simp) (fun _ _ hq => ?_) (controls_execute p event) ?_
    · exact deed_of_execute rfl rfl hq
    · exact fun e he => follows_of_execute (Prod.ext rfl he)
  | working =>
    refine conducts_of_proceed h b (by simp) (fun hp _ hq => ?_) (controls_resume p event) ?_
    · exact deed_of_resume rfl rfl hp hq
    · exact fun e he => follows_of_resume hh (Prod.ext rfl he)
  | ended o =>
    obtain ⟨rfl, rfl⟩ := Prod.mk.inj (Option.some.inj h)
    exact conducts_of_deed b (.report rfl rfl) rfl rfl rfl rfl rfl (by simp) rfl
  | publishing pub =>
    cases pub with
    | published =>
      obtain ⟨rfl, rfl⟩ := Prod.mk.inj (Option.some.inj h)
      exact conducts_of_deed b (.pass rfl rfl) rfl rfl rfl rfl rfl
        (by rintro u ⟨⟩; exact ⟨rfl, rfl, by simp [Thread.Sane]⟩) rfl
    | refused e error =>
      obtain ⟨rfl, rfl⟩ := Prod.mk.inj (Option.some.inj h)
      have hpub := hs _ rfl
      obtain ⟨same, late⟩ := hpub.loads _ (Multiset.mem_singleton_self _)
      exact conducts_of_deed b (.refuse rfl (hpub.refused e error rfl) same late rfl) rfl rfl rfl
        rfl rfl
        (by rintro u ⟨⟩; exact ⟨rfl, rfl, by simp [Thread.Sane]⟩) rfl
    | waiting e | permitted e | claimed e number | written =>
      simp only [step, publish] at h
      obtain ⟨⟨ring, pub'⟩, hstep, hm⟩ := Option.map_eq_some_iff.mp h
      obtain ⟨rfl, rfl⟩ := Prod.mk.inj hm
      have herr : ∀ pub, (Thread.task ⟨event, observers, .publishing pub⟩).errands
          p.queue.observers = pub.loads.map Errand.ofLoad + {.passing event observers} := fun pub =>
        (Multiset.singleton_add _ _).symm.trans (add_comm _ _)
      refine .of_publisher _ b hstep ⟨_, rfl⟩ rfl rfl (hs _ rfl) ?_ (herr _) (herr pub')
      rintro hpub' pub'' ⟨⟩
      exact hpub'

end Task

/-- Every move from a balanced ring keeps the balance and does a deed. -/
theorem Thread.conducts (h : t.move i p = some m) (hs : t.Sane p) (hh : p.ledger.Handed)
    (b : p.queue.ring.Balanced (t.permits + n) (t.claims + cs)) : t.Conducts i p m n cs := by
  cases t with
  | acceptor a => exact p.conducts_acceptor h hs b
  | task t =>
    obtain ⟨⟨q, t'⟩, hstep, rfl⟩ := Option.map_eq_some_iff.mp h
    exact Task.conducts_task hstep hs hh b
  | leftOver e => exact hs.elim
  | dispatcher d =>
    simp only [permits, claims, publisher?, Option.elim, zero_add] at b
    exact p.conducts_dispatcher h b
  | quitter k =>
    simp only [permits, claims, publisher?, Option.elim, zero_add] at b
    exact p.conducts_quitter h b
  | closer c =>
    simp only [permits, claims, publisher?, Option.elim, zero_add] at b
    exact p.conducts_closer Thread.closer h hs b (Or.inl rfl)
  | joiner j =>
    simp only [permits, claims, publisher?, Option.elim, zero_add] at b
    exact p.conducts_joiner h hs b

end Switchboard
