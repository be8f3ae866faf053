import Switchboard.Proofs.Act

/-!
# Runs of the pipeline

`Engine.Opening` is an engine before the first connection, with threads that have not done anything
yet. What every deed keeps holds after every run from such an engine, which is
`Engine.Opening.induct`; for a single connection `Engine.Opening.induct_connection` asks for less:
what holds when the connection is let in, and what each of its acts keeps.

`Engine.sample` is a small engine with two connections, to look at.
-/

namespace Switchboard

variable {i : Chance} {p q : Pipeline} {t : Thread} {m : Move Pipeline Thread} {k : ℕ}
  {done due rest : Multiset Errand}

/-! ### What a deed leaves alone -/

/-- What a pipeline was built with: who is told of everything that is published, how the gate is
asked, and how to drain. -/
def Pipeline.manners (p : Pipeline) : List Observer × Bool × Bool × Drain :=
  (p.queue.observers, p.reverseLookup, p.caseSensitive, p.drain)

/-- Nothing that a thread does changes what the pipeline was built with. -/
theorem Deed.manners_eq (h : Deed i p t done due q) : q.manners = p.manners := by
  have still : ∀ {p' : Pipeline}, q.still = p'.still → p'.manners = p.manners →
      q.manners = p.manners := fun hq hp' => (congrArg Pipeline.manners hq :).trans hp'
  cases h with
  | drop closed same hq => exact still hq (by rw [Pipeline.foldl_release]; rfl)
  | convert ht he awaited run hq =>
    refine still hq ?_
    rename Conversion => result
    cases result <;> rfl
  | convertInVain ht he left run hq =>
    refine still hq ?_
    rename Conversion => result
    cases result <;> rfl
  | handle ht he run hq =>
    refine still hq ?_
    rename HandlerEnd => e
    cases e <;> rfl
  | _ =>
    rename_i hq
    exact still hq rfl

theorem Deed.observers_eq (h : Deed i p t done due q) :
    q.queue.observers = p.queue.observers := congrArg Prod.fst h.manners_eq

/-- An act hands over nothing but the result of the connection's own job. -/
theorem Act.handOver_ready {line : Line} {counts : List Counter} {notes : List Note}
    (h : Act i p k t done due line counts notes) {c : Conversion}
    (hc : line.handOver = .ready c) : (p.ledger.line k).handOver = .ready c ∨
      c.reply? = none ∨ c.reply? = some k := by
  cases h with
  | drop => exact Or.inl (Line.handOver_foldl_drop hc)
  | discard | giveUp | refuse => exact Or.inl (Line.handOver_drop hc)
  | begins | poll | dispatch | pass | report => exact Or.inl hc
  | @convert _ job ht he hk awaited =>
    obtain rfl : job.result = c := HandOver.ready.inj hc
    exact Or.inr (hk ▸ job.reply?_result)
  | convertInVain ht he hk left =>
    split at hc
    · exact Or.inl hc
    · exact Or.inl hc
  | malformed =>
    split at hc <;> cases hc
  | deny | grant => cases hc
  | noRoute | die => exact Or.inl hc
  | handle => exact Or.inl ((Line.handOver_treat _ _).symm.trans hc)

theorem Charted.deed (hc : Charted p (done + rest)) (h : Deed i p t done due q) :
    Charted q (due + rest) := by
  cases h.case hc with
  | carry ht hq =>
    rw [zero_add] at hc ⊢
    exact ⟨(Deed.of_still hq).1 ▸ hc.entered, (Deed.of_still hq).1 ▸ hc.handed⟩
  | fault hin hq =>
    rw [zero_add] at hc ⊢
    have hl : q.ledger = p.ledger := (Deed.of_still hq).1
    exact ⟨hl ▸ hc.entered, hl ▸ hc.handed⟩
  | @enter output ending binding latch incoming _ hin hq =>
    have hl : q.ledger = (p.ledger.enter { output }).1 := (Deed.of_still hq).1
    have hlen : q.ledger.length = p.ledger.length + 1 := by rw [hl]; simp [Ledger.enter]
    constructor
    · intro a ha
      rcases Multiset.mem_add.mp ha with ha | ha
      · refine ⟨p.ledger.length, ?_, by omega⟩
        simp only [Multiset.insert_eq_cons, Multiset.mem_cons, Multiset.mem_singleton] at ha
        rcases ha with rfl | rfl <;> rfl
      · obtain ⟨k, hk, hlt⟩ := hc.entered a (by rw [zero_add]; exact ha)
        exact ⟨k, hk, by omega⟩
    · intro k c hk
      rw [hl, Ledger.line_enter] at hk
      split at hk
      · cases hk
      · exact hc.handed k c hk
  | act h =>
    constructor
    · intro a ha
      rcases Multiset.mem_add.mp ha with ha | ha
      · exact ⟨_, h.errands a (Multiset.mem_add.mpr (Or.inr ha)), h.ledger.length_eq ▸ h.lt⟩
      · obtain ⟨j, hj, hlt⟩ := hc.entered a (Multiset.mem_add.mpr (Or.inr ha))
        exact ⟨j, hj, h.ledger.length_eq ▸ hlt⟩
    · exact hc.handed.of_becomes h.ledger fun c => h.act.handOver_ready

/-! ### From the beginning -/

/-- A thread that has not done anything yet. -/
inductive Thread.Fresh : Thread → Prop where
  | acceptor : Fresh (.acceptor .looping)
  | dispatcher : Fresh (.dispatcher (.consuming .checking))
  | quitter : Fresh (.quitter .flipping)
  | closer : Fresh (.closer .marking)
  | joiner : Fresh (.joiner .waiting)

namespace Engine

/-- An engine before the first connection, with any number of threads of every sort that have not
done anything yet. -/
structure Opening (g : Engine) : Prop where
  ring : ∃ capacity, Ring.ofCapacity capacity = .ok g.shared.queue.ring
  ledger : g.shared.ledger = []
  threads : ∀ t ∈ g.threads, t.Fresh

/-- What is so of an engine at any time: the ring is balanced against what the threads have in their
hands, the threads are sane, and all that is to be done concerns connections that were let in. -/
structure Sound (g : Engine) : Prop where
  balanced : g.shared.queue.ring.Balanced (g.threads.map Thread.permits).sum
    (g.threads.map Thread.claims).sum
  sane : ∀ t ∈ g.threads, t.Sane g.shared
  charted : Charted g.shared g.errands

/-- At the beginning there is nothing to be done. -/
theorem Opening.errands_eq {g : Engine} (h : g.Opening) : g.errands = 0 := by
  obtain ⟨capacity, hring⟩ := h.ring
  rw [errands, (Ring.balanced_ofCapacity hring).2, Multiset.map_zero, add_zero]
  refine List.sum_eq_zero ?_
  simp only [List.mem_map, forall_exists_index, and_imp, forall_apply_eq_imp_iff₂]
  intro t ht
  cases h.threads t ht <;> rfl

theorem Opening.sound {g : Engine} (h : g.Opening) : g.Sound := by
  obtain ⟨capacity, hring⟩ := h.ring
  have hnone : ∀ t ∈ g.threads, t.permits = 0 ∧ t.claims = 0 := fun t ht => by
    cases h.threads t ht <;> exact ⟨rfl, rfl⟩
  refine ⟨?_, fun t ht => ?_, ?_, fun k c hc => ?_⟩
  · rw [List.sum_eq_zero (by simpa using fun t ht => (hnone t ht).1),
      List.sum_eq_zero (by simpa using fun t ht => (hnone t ht).2)]
    exact (Ring.balanced_ofCapacity hring).1
  · cases h.threads t ht with
    | closer => exact Or.inl rfl
    | acceptor | dispatcher | quitter | joiner => trivial
  · rw [h.errands_eq]
    exact fun a ha => absurd ha (Multiset.notMem_zero a)
  · rw [h.ledger] at hc
    cases hc

/-- One move: the engine stays sound, and some of its errands give way to others by a deed. -/
theorem Sound.move {before after : List Thread} (h : Sound ⟨p, before ++ t :: after⟩)
    (hm : t.move i p = some m) :
    Sound ⟨m.shared, before ++ m.self.toList ++ after ++ m.started⟩ ∧ p.Advances m.shared ∧
      ∃ done due rest, Deed i p t done due m.shared ∧
        errands ⟨p, before ++ t :: after⟩ = done + rest ∧
        errands ⟨m.shared, before ++ m.self.toList ++ after ++ m.started⟩ = due + rest := by
  have hb := h.balanced
  simp only [List.map_append, List.map_cons, List.sum_append, List.sum_cons] at hb
  rw [add_left_comm, add_left_comm _ t.claims] at hb
  obtain ⟨hb', hs', hadv, done, due, rest, hdeed, hdone, hdue⟩ :=
    Thread.conducts hm (h.sane t (by simp)) h.charted.handed hb
  have hobs := hdeed.observers_eq
  have hbefore : errands ⟨p, before ++ t :: after⟩ =
      done + (rest + ((before ++ after).map (Thread.errands p.queue.observers)).sum) := by
    rw [← add_assoc, ← hdone, errands]
    simp only [List.map_append, List.map_cons, List.sum_append, List.sum_cons]
    abel
  have hafter : errands ⟨m.shared, before ++ m.self.toList ++ after ++ m.started⟩ =
      due + (rest + ((before ++ after).map (Thread.errands p.queue.observers)).sum) := by
    rw [← add_assoc, ← hdue, errands, hobs]
    simp only [Move.errands, Move.heirs, List.map_append, List.sum_append]
    abel
  refine ⟨⟨?_, ?_, ?_⟩, hadv, done, due, _, hdeed, hbefore, hafter⟩
  · convert hb' using 1
    · simp only [Move.permits, Move.heirs, List.map_append, List.sum_append]
      ring
    · simp only [Move.claims, Move.heirs, List.map_append, List.sum_append]
      abel
  · intro u hu
    simp only [List.mem_append] at hu
    have hother : u ∈ before ∨ u ∈ after → u.Sane m.shared := fun ho =>
      (h.sane u (by simp only [List.mem_append, List.mem_cons]; tauto)).advance hadv
    have hheir : u ∈ m.self.toList ∨ u ∈ m.started → u.Sane m.shared := fun ho =>
      hs' u (List.mem_append.mpr ho)
    tauto
  · rw [hafter]
    exact Charted.deed (hbefore ▸ h.charted) hdeed

theorem Opening.sound_of_run {g d : Engine} (h : g.Opening)
    {turns : List (Turn Chance Pipeline Thread)} (run : Crowd.Run Thread.move g turns d) :
    d.Sound :=
  run.keeps (P := fun _ d => Sound d) h.sound fun _ _ hm hsound => (hsound.move hm).1

/-- What every deed keeps holds after every run from the beginning. What is kept may speak of the
moves made so far, of the pipeline, and of all that is still to be done. -/
theorem Opening.induct {g d : Engine} (h : g.Opening)
    {P : List (Turn Chance Pipeline Thread) → Pipeline → Multiset Errand → Prop}
    (start : P [] g.shared 0)
    (step : ∀ {turns i p t q} {done due rest : Multiset Errand}, p.Advances q →
      Charted p (done + rest) → Deed i p t done due q → P turns p (done + rest) →
      P (turns ++ [⟨i, t, p, q⟩]) q (due + rest))
    {turns : List (Turn Chance Pipeline Thread)} (run : Crowd.Run Thread.move g turns d) :
    P turns d.shared d.errands := by
  suffices hP : d.Sound ∧ P turns d.shared d.errands from hP.2
  refine run.keeps (P := fun turns d => Sound d ∧ P turns d.shared (errands d)) ?_ ?_
  · exact ⟨h.sound, h.errands_eq ▸ start⟩
  · rintro turns i p t m before after hm ⟨hsound, hP⟩
    obtain ⟨hsound', hadv, done, due, rest, hdeed, hdone, hdue⟩ := hsound.move hm
    exact ⟨hsound', hdue ▸ step hadv (hdone ▸ hsound.charted) hdeed (hdone ▸ hP)⟩

end Engine

/-! ### One connection -/

/-- A connection that the input offers. -/
structure Offer where
  output : Output
  ending : JobEnd
  binding : Binding
  latch : Option String

namespace Offer

/-- The conversion of an offered connection, once that has a number. -/
def job (o : Offer) (connection : ℕ) : Job :=
  { connection, ending := o.ending, binding := o.binding, latch := o.latch }

/-- The arrival of an offered connection. -/
def arrival (o : Offer) : Arrival := .connection o.output o.ending o.binding o.latch

/-- The connection that an arrival offers. -/
def ofArrival : Arrival → Option Offer
  | .connection output ending binding latch => some { output, ending, binding, latch }
  | .fault => none

end Offer

/-- The connections that the input still offers, in order. -/
def Pipeline.offers (p : Pipeline) : List Offer := p.incoming.filterMap Offer.ofArrival

/-- The errands that concern a connection. -/
def errandsOf (k : ℕ) (es : Multiset Errand) : Multiset Errand :=
  es.filter fun a => a.event.connection? = some k

@[simp] theorem errandsOf_add (k : ℕ) (es es' : Multiset Errand) :
    errandsOf k (es + es') = errandsOf k es + errandsOf k es' := Multiset.filter_add _ _ _

theorem errandsOf_eq_self {es : Multiset Errand} (h : ∀ a ∈ es, a.event.connection? = some k) :
    errandsOf k es = es := Multiset.filter_eq_self.mpr h

theorem errandsOf_eq_zero {es : Multiset Errand} (h : ∀ a ∈ es, a.event.connection? ≠ some k) :
    errandsOf k es = 0 := Multiset.filter_eq_nil.mpr h

theorem errandsOf_of_ne {es : Multiset Errand} {j : ℕ}
    (h : ∀ a ∈ es, a.event.connection? = some j) (hj : j ≠ k) : errandsOf k es = 0 :=
  errandsOf_eq_zero fun a ha hk => hj (Option.some.inj ((h a ha).symm.trans hk))

/-- Nothing is to be done yet for a connection that was not let in. -/
theorem Charted.errandsOf_of_le {es : Multiset Errand} (hc : Charted p es)
    (hk : p.ledger.length ≤ k) : errandsOf k es = 0 := by
  refine errandsOf_eq_zero fun a ha hk' => ?_
  obtain ⟨j, hj, hlt⟩ := hc.entered a ha
  obtain rfl : j = k := Option.some.inj (hj.symm.trans hk')
  exact absurd hk (not_le.mpr hlt)

/-- The errands of a connection that is let in are its own. -/
theorem Offer.connection?_errands (o : Offer) (connection : ℕ) (observers : List Observer) :
    ∀ a ∈ ({.pending (.conversion (o.job connection)) observers,
      .pending (.middleware connection) observers} : Multiset Errand),
      a.event.connection? = some connection := by
  intro a ha
  simp only [Multiset.insert_eq_cons, Multiset.mem_cons, Multiset.mem_singleton] at ha
  rcases ha with rfl | rfl <;> rfl

/-- A move that does nothing to a connection: it is made for another one, or it only passes
something on. -/
inductive Turn.Idle (k : ℕ) (u : Turn Chance Pipeline Thread) : Prop where
  | elsewhere (h : u.thread.connection? u.before ≠ some k)
  | carries (h : u.thread.Carries u.before) (counters : u.after.counters = u.before.counters)
    (notes : u.after.notes = u.before.notes)

theorem Turn.Idle.of_ne {u : Turn Chance Pipeline Thread} {j : ℕ}
    (h : u.thread.connection? u.before = some j) (hj : j ≠ k) : u.Idle k :=
  .elsewhere fun hk => hj (Option.some.inj (h.symm.trans hk))

/-- What is so of a connection at any time of a run, for a law that its acts keep: the input still
offers the connections that were not let in; until the connection is let in, every move is idle for
it; and from then on the law holds. -/
structure Tracked (offers : List Offer) (k : ℕ)
    (P : List (Turn Chance Pipeline Thread) → Line → Multiset Errand → Prop)
    (turns : List (Turn Chance Pipeline Thread)) (p : Pipeline) (es : Multiset Errand) : Prop where
  offers_eq : p.offers = offers.drop p.ledger.length
  before : p.ledger.length ≤ k → ∀ u ∈ turns, u.Idle k
  after : k < p.ledger.length → P turns (p.ledger.line k) (errandsOf k es)

namespace Tracked

variable {offers : List Offer} {turns : List (Turn Chance Pipeline Thread)}
  {P : List (Turn Chance Pipeline Thread) → Line → Multiset Errand → Prop}
  {es es' : Multiset Errand}

/-- A move that is idle for the connection and leaves its line alone. -/
theorem idle (h : Tracked offers k P turns p es)
    (step : ∀ {turns u line es}, u.Idle k → P turns line es → P (turns ++ [u]) line es)
    (hidle : Turn.Idle k ⟨i, t, p, q⟩) (hlen : q.ledger.length = p.ledger.length)
    (hoffers : q.offers = p.offers) (hline : q.ledger.line k = p.ledger.line k)
    (herr : errandsOf k es' = errandsOf k es) :
    Tracked offers k P (turns ++ [⟨i, t, p, q⟩]) q es' where
  offers_eq := by rw [hoffers, hlen, h.offers_eq]
  before hle u hu := by
    rw [hlen] at hle
    rcases List.mem_append.mp hu with hu | hu
    · exact h.before hle u hu
    · rw [List.mem_singleton.mp hu]
      exact hidle
  after hlt := by
    rw [hlen] at hlt
    rw [hline, herr]
    exact step hidle (h.after hlt)

/-- A connection is let in: this one or another. -/
theorem enter {o : Offer} {incoming : List Arrival} (h : Tracked offers k P turns p rest)
    (hc : Charted p rest)
    (first : k = p.ledger.length → (∀ u ∈ turns, u.Idle k) → offers[k]? = some o →
      P (turns ++ [⟨i, .acceptor .listening, p, q⟩]) { output := o.output }
        {.pending (.conversion (o.job k)) p.queue.observers,
          .pending (.middleware k) p.queue.observers})
    (step : ∀ {turns u line es}, u.Idle k → P turns line es → P (turns ++ [u]) line es)
    (hin : p.incoming = o.arrival :: incoming) (hi : q.incoming = incoming)
    (hl : q.ledger = (p.ledger.enter { output := o.output }).1) :
    Tracked offers k P (turns ++ [⟨i, .acceptor .listening, p, q⟩]) q
      ({.pending (.conversion (o.job p.ledger.length)) p.queue.observers,
        .pending (.middleware p.ledger.length) p.queue.observers} + rest) := by
  have hlen : q.ledger.length = p.ledger.length + 1 := by rw [hl]; simp [Ledger.enter]
  have hconn : (Thread.acceptor .listening).connection? p = some p.ledger.length := by
    simp [Thread.connection?, hin, Offer.arrival]
  have hoffer : offers.drop p.ledger.length = o :: q.offers := by
    rw [← h.offers_eq, Pipeline.offers, Pipeline.offers, hin, hi]
    rfl
  have hline := p.ledger.line_enter k { output := o.output }
  rw [← hl] at hline
  have howns := o.connection?_errands p.ledger.length p.queue.observers
  refine ⟨?_, fun hle u hu => ?_, fun hlt => ?_⟩
  · rw [hlen, ← List.drop_drop, hoffer]
    rfl
  · rcases List.mem_append.mp hu with hu | hu
    · exact h.before (by omega) u hu
    · rw [List.mem_singleton.mp hu]
      exact .of_ne hconn (by omega)
  · rw [errandsOf_add]
    obtain rfl | hne := eq_or_ne k p.ledger.length
    · rw [if_pos rfl] at hline
      rw [hline, hc.errandsOf_of_le le_rfl, add_zero, errandsOf_eq_self howns]
      refine first rfl (h.before le_rfl) ?_
      have hhead := congrArg (fun l : List Offer => l[0]?) hoffer
      rwa [List.getElem?_drop] at hhead
    · rw [if_neg hne] at hline
      rw [hline, errandsOf_of_ne howns hne.symm, zero_add]
      exact step (.of_ne hconn hne.symm) (h.after (by omega))

/-- An act of the connection. -/
theorem act {line : Line} {counts : List Counter} {notes : List Note}
    (h : Tracked offers k P turns p (done + rest))
    (hacts : Deed.Acts i p t done due q k line counts notes)
    (step : P turns (p.ledger.line k) (done + errandsOf k rest) →
      P (turns ++ [⟨i, t, p, q⟩]) line (due + errandsOf k rest)) :
    Tracked offers k P (turns ++ [⟨i, t, p, q⟩]) q (due + rest) := by
  have hl := hacts.ledger
  have hlt := hacts.lt
  have hdone : errandsOf k done = done :=
    errandsOf_eq_self fun a ha => hacts.errands a (Multiset.mem_add.mpr (Or.inl ha))
  have hdue : errandsOf k due = due :=
    errandsOf_eq_self fun a ha => hacts.errands a (Multiset.mem_add.mpr (Or.inr ha))
  refine ⟨?_, fun hle => ?_, fun _ => ?_⟩
  · rw [Pipeline.offers, hacts.incoming, hl.length_eq]
    exact h.offers_eq
  · rw [hl.length_eq] at hle
    omega
  · have hafter := h.after hlt
    rw [errandsOf_add, hdone] at hafter
    rw [hl.line_self, errandsOf_add, hdue]
    exact step hafter

end Tracked

/-- A law about one connection of a run: if it holds when the connection is let in, and every act of
the connection keeps it, then it holds, unless the connection was not let in yet. -/
theorem Engine.Opening.induct_connection {g d : Engine} (h : g.Opening)
    {turns : List (Turn Chance Pipeline Thread)} (run : Crowd.Run Thread.move g turns d)
    {P : List (Turn Chance Pipeline Thread) → Line → Multiset Errand → Prop}
    (enter : ∀ {turns i p q} {o : Offer} {incoming : List Arrival}, (∀ u ∈ turns, u.Idle k) →
      p.ledger.length = k → p.incoming = o.arrival :: incoming → g.shared.offers[k]? = some o →
      q.counters = p.counters.bump .accepted → q.notes = p.notes →
      P (turns ++ [⟨i, .acceptor .listening, p, q⟩]) { output := o.output }
        {.pending (.conversion (o.job k)) p.queue.observers,
          .pending (.middleware k) p.queue.observers})
    (idle : ∀ {turns u line es}, u.Idle k → P turns line es → P (turns ++ [u]) line es)
    (act : ∀ {turns i p t q} {done due rest : Multiset Errand} {line counts notes},
      p.Advances q → Deed.Acts i p t done due q k line counts notes →
      P turns (p.ledger.line k) (done + rest) →
      P (turns ++ [⟨i, t, p, q⟩]) line (due + rest)) :
    (d.shared.ledger.length ≤ k ∧ errandsOf k d.errands = 0 ∧ ∀ u ∈ turns, u.Idle k) ∨
      (k < d.shared.ledger.length ∧
        P turns (d.shared.ledger.line k) (errandsOf k d.errands)) := by
  suffices hP : Tracked g.shared.offers k P turns d.shared d.errands by
    rcases Nat.lt_or_ge k d.shared.ledger.length with hk | hk
    · exact Or.inr ⟨hk, hP.after hk⟩
    · exact Or.inl ⟨hk, (h.sound_of_run run).charted.errandsOf_of_le hk, hP.before hk⟩
  refine h.induct (P := Tracked g.shared.offers k P) ?_ ?_ run
  · refine ⟨?_, by simp, ?_⟩
    · rw [h.ledger]
      rfl
    · rw [h.ledger]
      simp
  intro turns i p t q done due rest hadv hc hdeed hP
  cases hdeed.case hc with
  | carry ht hq =>
    obtain ⟨hl, hco, hn, hi⟩ := Deed.of_still hq
    exact hP.idle idle (.carries ht hco hn) (by rw [hl]) (by rw [Pipeline.offers, hi]; rfl)
      (by rw [hl]) rfl
  | fault hin hq =>
    obtain ⟨hl, -, -, hi⟩ := Deed.of_still hq
    have hl : q.ledger = p.ledger := hl
    refine hP.idle idle (.elsewhere ?_) (by rw [hl]) ?_ (by rw [hl]) rfl
    · simp [Thread.connection?, hin]
    · rw [Pipeline.offers, Pipeline.offers, hi, hin]
      rfl
  | @enter output ending binding latch incoming _ hin hq =>
    obtain ⟨hl, hco, hn, hi⟩ := Deed.of_still hq
    rw [zero_add] at hP hc
    exact hP.enter (o := ⟨output, ending, binding, latch⟩) hc
      (fun hk hidle ho => enter hidle hk.symm hin ho hco hn) idle hin hi hl
  | @act _ _ _ _ j line counts notes hacts =>
    obtain rfl | hj := eq_or_ne j k
    · exact hP.act hacts (act hadv hacts)
    · have hl := hacts.ledger
      refine hP.idle idle (.of_ne hacts.connection hj) hl.length_eq ?_ (hl.line_of_ne k hj.symm) ?_
      · rw [Pipeline.offers, Pipeline.offers, hacts.incoming]
      · have howns := fun a ha => hacts.errands a ha
        rw [errandsOf_add, errandsOf_add,
          errandsOf_of_ne (fun a ha => howns a (Multiset.mem_add.mpr (Or.inr ha))) hj,
          errandsOf_of_ne (fun a ha => howns a (Multiset.mem_add.mpr (Or.inl ha))) hj]

/-! ### A small engine -/

namespace Engine

/-- A list that admits everybody. -/
def sampleList : AllowList where
  patterns := [{ source := "", sensitive := .empty, insensitive := .empty }]
  timeToLive := 1

/-- Two connections, of which one sends a request and the other cannot be read, and one handler,
which serves everything, behind a gate that admits everybody. -/
def sample : Engine where
  shared :=
    { gate :=
        { source := .inline [], canaries := [], timeToLive := 1, current := some sampleList }
      roster := (Roster.empty 0 0).register defaultCommand default
      memo := .ofCapacity 1
      queue :=
        { ring := { slots := Array.replicate 2 { envelope := .empty }, free := 2 },
          observers := [{ tag := "log" }] }
      incoming :=
        [.connection .reliable (.request { path := "/", source := "a" }) .early none,
          .connection .reliable (.malformed "unreadable" true) .late none] }
  threads := [.acceptor .looping, .dispatcher (.consuming .checking)]

theorem opening_sample : sample.Opening where
  ring := ⟨2, rfl⟩
  ledger := rfl
  threads := by
    simp only [sample, List.mem_cons, List.not_mem_nil, or_false, forall_eq_or_imp, forall_eq]
    exact ⟨.acceptor, .dispatcher⟩

theorem returns_sample : ∀ o ∈ sample.shared.offers, o.output.Returns := by
  intro o ho
  have hmem : o ∈ [Offer.mk .reliable (.request { path := "/", source := "a" }) .early none,
      ⟨.reliable, .malformed "unreadable" true, .late, none⟩] := ho
  simp only [List.mem_cons, List.not_mem_nil, or_false] at hmem
  rcases hmem with rfl | rfl <;> simp [Output.Returns, Output.reliable]

/-- Everybody in turn, for long enough. -/
def sampleRun : List (Turn Chance Pipeline Thread) × Engine :=
  sample.follow Thread.move {} (List.replicate 36 [0, 1, 2, 3, 4, 5]).flatten

theorem run_sample : Crowd.Run Thread.move sample sampleRun.1 sampleRun.2 :=
  Crowd.run_follow _ _ _ _

end Engine

end Switchboard
