import Switchboard.Proofs.Fate

/-!
# The books

Every connection that is accepted is to be counted in exactly one of seven ends. What bears the
fate of a connection is its middleware, later its dispatch, then its handler; whoever executes or
drops one of these is to count an end, unless the conversion has failed, which was counted then.
`Books` is the balance of one connection, which every act keeps.

The books do not always come out even, and `Engine.Opening.counted_once_iff` says exactly when. A
connection is counted nowhere if what bears its fate is dropped without a count and its conversion
does not fail. It is counted twice if its conversion fails and its middleware, which was to notice
that, has given it up for the shutdown.
-/

namespace Switchboard

/-! ### The balance of a connection -/

variable {i : Chance} {p q : Pipeline} {t : Thread} {k : ℕ} {done due rest : Multiset Errand}
  {line : Line} {counts : List Counter} {notes : List Note}
  {turns : List (Turn Chance Pipeline Thread)} {u : Turn Chance Pipeline Thread}

/-- What is so of a connection at any time: its fate is still borne, or counted, or lost, or its
conversion has failed; that happens once at most, and not if the connection got further. -/
structure Books (turns : List (Turn Chance Pipeline Thread)) (k : ℕ) (line : Line)
    (es : Multiset Errand) : Prop where
  accepted : countOf k .accepted turns = 1
  counted : countOf k .conversionFailure turns = tallyOf Thread.failures k turns
  fate : weight Event.bears es + laterOf k turns + tallyOf Thread.losses k turns ≤ 1
  spent : weight Event.bears es + laterOf k turns + tallyOf Thread.losses k turns = 0 →
    tallyOf Thread.failures k turns = 1
  converts : weight Event.converts es + tallyOf Thread.failures k turns ≤ 1
  waits : weight Event.waits es ≤ 1
  failed : line.handOver.Failed → tallyOf Thread.failures k turns = 1
  left : line.handOver = .noReceiver → weight Event.waits es = 0
  deserted : tallyOf Thread.desertions k turns ≤ laterOf k turns
  further : line.handOver.Unfailing ∨ 0 < weight Event.lates es ∨
      tallyOf Thread.desertions k turns < laterOf k turns →
    weight Event.converts es + tallyOf Thread.failures k turns = 0

namespace Books

/-- Every act keeps the books. -/
theorem act (h : Books turns k (p.ledger.line k) (done + rest))
    (hact : Deed.Acts i p t done due q k line counts notes) :
    Books (turns ++ [⟨i, t, p, q⟩]) k line (due + rest) := by
  have even := hact.act.even
  have hlosses : tallyOf Thread.losses k (turns ++ [⟨i, t, p, q⟩]) =
      tallyOf Thread.losses k turns + t.losses p := hact.tallyOf_snoc
  have hfailures : tallyOf Thread.failures k (turns ++ [⟨i, t, p, q⟩]) =
      tallyOf Thread.failures k turns + t.failures p := hact.tallyOf_snoc
  have hdesertions : tallyOf Thread.desertions k (turns ++ [⟨i, t, p, q⟩]) =
      tallyOf Thread.desertions k turns + t.desertions p := hact.tallyOf_snoc
  have hlater : laterOf k (turns ++ [⟨i, t, p, q⟩]) =
      laterOf k turns + counts.countP Counter.isLater := hact.laterOf_snoc
  have hfate := h.fate
  have hspent := h.spent
  have hconverts := h.converts
  have hwaits := h.waits
  have hleft := h.left
  have hdeserted := h.deserted
  have hfurther := h.further
  have hless := even.converts
  have hfewer := even.waits
  have hdeserts := even.deserts
  simp only [weight_add] at hfate hspent hconverts hwaits hleft hfurther
  refine ⟨?_, ?_, ?_, ?_, ?_, ?_, ?_, ?_, ?_, ?_⟩
  · rw [hact.countOf_snoc, h.accepted, hact.act.count_accepted]
  · rw [hact.countOf_snoc, hfailures, h.counted, even.counted]
  · rw [weight_add, hlater, hlosses]
    rcases even.fate with he | ⟨-, he⟩ <;> omega
  · rw [weight_add, hlater, hlosses, hfailures]
    intro hz
    -- what bore the fate is gone either before this act or in it, and then it knew of the failure
    rcases even.fate with he | ⟨hf, -⟩
    · have := hspent (by omega)
      omega
    · have := h.failed hf
      omega
  · rw [weight_add, hfailures]
    omega
  · rw [weight_add]
    omega
  · rw [hfailures]
    intro hf
    rcases even.hand.failed hf with hf | hf
    · have := h.failed hf
      omega
    · omega
  · rw [weight_add]
    intro hr
    have hgoes := even.hand
    rw [hr] at hgoes
    rcases hgoes.waits with hr | ⟨hdone, hdue⟩
    · have := hleft hr
      omega
    · omega
  · rw [hdesertions, hlater]
    omega
  · rw [weight_add, weight_add, hfailures, hdesertions, hlater]
    -- whatever shows that the conversion cannot fail any more, showed before, or this act is it
    rintro (hu | hl | hd)
    · rcases even.hand.unfailing hu with hu | ⟨hdone, hdue, hn⟩
      · have := hfurther (Or.inl hu)
        omega
      · omega
    · rcases even.lates with hle | hu
      · have := hfurther (Or.inr (Or.inl (by omega)))
        omega
      · have := hfurther (Or.inl hu)
        omega
    · rcases even.ends with he | hu | hl | ⟨hr, hpos⟩
      · have := hfurther (Or.inr (Or.inr (by omega)))
        omega
      · have := hfurther (Or.inl hu)
        omega
      · have := hfurther (Or.inr (Or.inl (by omega)))
        omega
      · have := hleft hr
        omega

/-- A move that is idle for the connection keeps its books. -/
theorem idle {es : Multiset Errand} (h : Books turns k line es) (hu : u.Idle k) :
    Books (turns ++ [u]) k line es := by
  have hlater : laterOf k (turns ++ [u]) = laterOf k turns := by
    simp only [laterOf, hu.countOf_snoc]
  have hlosses : tallyOf Thread.losses k (turns ++ [u]) = tallyOf Thread.losses k turns :=
    hu.tallyOf_snoc spares_losses
  have hfailures : tallyOf Thread.failures k (turns ++ [u]) = tallyOf Thread.failures k turns :=
    hu.tallyOf_snoc spares_failures
  have hdesertions : tallyOf Thread.desertions k (turns ++ [u]) =
      tallyOf Thread.desertions k turns := hu.tallyOf_snoc spares_desertions
  exact {
    accepted := by rw [hu.countOf_snoc]; exact h.accepted
    counted := by rw [hu.countOf_snoc, hfailures]; exact h.counted
    fate := by rw [hlater, hlosses]; exact h.fate
    spent := by rw [hlater, hlosses, hfailures]; exact h.spent
    converts := by rw [hfailures]; exact h.converts
    waits := h.waits
    failed := by rw [hfailures]; exact h.failed
    left := h.left
    deserted := by rw [hdesertions, hlater]; exact h.deserted
    further := by rw [hlater, hfailures, hdesertions]; exact h.further }

/-- The books of a connection that was just let in. -/
theorem enter {o : Offer} {incoming : List Arrival} {observers : List Observer}
    (hidle : ∀ u ∈ turns, u.Idle k) (hlen : p.ledger.length = k)
    (hin : p.incoming = o.arrival :: incoming)
    (counters : q.counters = p.counters.bump .accepted) (notes : q.notes = p.notes) :
    Books (turns ++ [⟨i, .acceptor .listening, p, q⟩]) k { output := o.output }
      {.pending (.conversion (o.job k)) observers, .pending (.middleware k) observers} := by
  obtain ⟨hcount, -, -, -⟩ := record_enter (i := i) hidle hlen hin counters notes
  have hlater : laterOf k (turns ++ [⟨i, .acceptor .listening, p, q⟩]) = 0 := by
    simp [laterOf, hcount]
  have hlosses : tallyOf Thread.losses k (turns ++ [⟨i, .acceptor .listening, p, q⟩]) = 0 :=
    tallyOf_enter spares_losses (fun _ => rfl) hidle
  have hfailures : tallyOf Thread.failures k (turns ++ [⟨i, .acceptor .listening, p, q⟩]) = 0 :=
    tallyOf_enter spares_failures (fun _ => rfl) hidle
  have hdesertions : tallyOf Thread.desertions k (turns ++ [⟨i, .acceptor .listening, p, q⟩]) = 0 :=
    tallyOf_enter spares_desertions (fun _ => rfl) hidle
  refine ⟨?_, ?_, ?_, ?_, ?_, ?_, ?_, ?_, ?_, ?_⟩
  · simp [hcount]
  · simp [hcount, hfailures]
  · simp [hlater, hlosses, Event.bears]
  · simp [Event.bears]
  · simp [hfailures, Event.converts]
  · simp [Event.waits]
  · rintro ⟨e, he⟩
    cases he
  · intro he
    cases he
  · rw [hdesertions]
    exact Nat.zero_le _
  · rintro ((hx | ⟨x, hx⟩) | hl | ha)
    · cases hx
    · cases hx
    · simp [Event.lates] at hl
    · simp [hlater] at ha

end Books

/-- What is so of a connection that was let in, at any time of a run. -/
theorem Engine.Opening.books {g d : Engine} (h : g.Opening)
    (run : Crowd.Run Thread.move g turns d) (hk : k < d.shared.ledger.length) :
    Books turns k (d.shared.ledger.line k) (errandsOf k d.errands) := by
  refine (h.induct_connection run (k := k) (P := fun turns => Books turns k) ?_ ?_ ?_).elim
    ?_ And.right
  · exact fun hidle hlen hin _ hcounters hnotes => .enter hidle hlen hin hcounters hnotes
  · exact fun hidle h => h.idle hidle
  · exact fun _ hacts h => h.act hacts
  · exact fun ⟨hle, _⟩ => absurd hk (not_lt.mpr hle)

/-! ### When the books come out even -/

/-- A connection is in no end: what bore its fate was lost, and its conversion did not fail. -/
def Missing (k : ℕ) (turns : List (Turn Chance Pipeline Thread)) : Prop :=
  0 < tallyOf Thread.losses k turns ∧ tallyOf Thread.failures k turns = 0

/-- A connection is in two ends: its conversion failed, and its middleware, which did not wait for
the result, gave it up for the shutdown. -/
def Doubled (k : ℕ) (turns : List (Turn Chance Pipeline Thread)) : Prop :=
  0 < tallyOf Thread.failures k turns ∧ 0 < tallyOf Thread.desertions k turns

instance (k : ℕ) : DecidablePred (Missing k) := fun _ => inferInstanceAs (Decidable (_ ∧ _))

instance (k : ℕ) : DecidablePred (Doubled k) := fun _ => inferInstanceAs (Decidable (_ ∧ _))

/-- The ends of a connection for which nothing is left to be done. -/
theorem Books.endsOf_eq (h : Books turns k line 0) :
    endsOf k turns + (if Missing k turns then 1 else 0) =
      1 + (if Doubled k turns then 1 else 0) := by
  have hfate := h.fate
  have hspent := h.spent
  have hconverts := h.converts
  have hdeserted := h.deserted
  have hfurther : tallyOf Thread.desertions k turns < laterOf k turns →
      weight Event.converts 0 + tallyOf Thread.failures k turns = 0 :=
    fun hlt => h.further (Or.inr (Or.inr hlt))
  simp only [weight_zero, zero_add] at hfate hspent hconverts hfurther
  rw [endsOf, h.counted]
  by_cases hm : Missing k turns
  · have hd : ¬ Doubled k turns := fun hd => absurd hm.2 hd.1.ne'
    obtain ⟨hlost, hf⟩ := hm
    rw [if_pos ⟨hlost, hf⟩, if_neg hd]
    omega
  · by_cases hd : Doubled k turns
    · rw [if_neg hm, if_pos hd]
      obtain ⟨hf, ha⟩ := hd
      omega
    · rw [if_neg hm, if_neg hd]
      rw [Missing, not_and_or] at hm
      rw [Doubled, not_and_or] at hd
      omega

theorem Missing.not_doubled (hm : Missing k turns) : ¬ Doubled k turns := by
  intro hd
  have := hm.2
  have := hd.1
  omega

/-- The seven ends count what the connections come to. -/
theorem Engine.Opening.settled_eq {g d : Engine} (h : g.Opening) (fresh : g.shared.counters = {})
    (run : Crowd.Run Thread.move g turns d) :
    d.shared.counters.settled =
      ∑ k ∈ Finset.range d.shared.ledger.length, endsOf k turns := by
  have hget : ∀ c ≠ Counter.acceptError, d.shared.counters.get c =
      ∑ k ∈ Finset.range d.shared.ledger.length, countOf k c turns := by
    intro c hc
    rw [h.get_counters run hc, fresh]
    cases c <;> exact Nat.zero_add _
  calc d.shared.counters.settled
      = d.shared.counters.get .conversionFailure + d.shared.counters.get .denied +
        d.shared.counters.get .unrouted + d.shared.counters.get .completed +
        d.shared.counters.get .handlerFailure + d.shared.counters.get .handlerPanic +
        d.shared.counters.get .abandoned := rfl
    _ = ∑ k ∈ Finset.range d.shared.ledger.length, endsOf k turns := by
        simp only [endsOf, laterOf, Finset.sum_add_distrib]
        rw [hget _ (by simp), hget _ (by simp), hget _ (by simp), hget _ (by simp),
          hget _ (by simp), hget _ (by simp), hget _ (by simp)]
        omega

/-- Every connection that is let in is counted as accepted. -/
theorem Engine.Opening.accepted_eq {g d : Engine} (h : g.Opening) (fresh : g.shared.counters = {})
    (run : Crowd.Run Thread.move g turns d) :
    d.shared.counters.accepted = d.shared.ledger.length := by
  have hone : ∀ k ∈ Finset.range d.shared.ledger.length, countOf k .accepted turns = 1 :=
    fun k hk => (h.books run (Finset.mem_range.mp hk)).accepted
  calc d.shared.counters.accepted
      = d.shared.counters.get .accepted := rfl
    _ = 0 + ∑ k ∈ Finset.range d.shared.ledger.length, countOf k .accepted turns := by
        rw [h.get_counters run (by simp), fresh]
        rfl
    _ = d.shared.ledger.length := by
        rw [Finset.sum_congr rfl hone]
        simp

/-- **The books at shutdown.** Once nothing is left to be done, every connection was accepted once,
and it was counted in exactly one of the seven ends unless it is `Missing`, and then in none, or
`Doubled`, and then in two. So the ends come to the number of accepted connections if there are as
many of these as of those. -/
theorem Engine.Opening.counted_once_iff {g d : Engine} (h : g.Opening)
    (fresh : g.shared.counters = {}) (run : Crowd.Run Thread.move g turns d)
    (finished : d.errands = 0) :
    (∀ k < d.shared.ledger.length, countOf k .accepted turns = 1 ∧
      (endsOf k turns = 1 ↔ ¬ Missing k turns ∧ ¬ Doubled k turns) ∧
      (Missing k turns → endsOf k turns = 0) ∧ (Doubled k turns → endsOf k turns = 2)) ∧
    d.shared.counters.accepted = d.shared.ledger.length ∧
    d.shared.counters.settled +
        ((Finset.range d.shared.ledger.length).filter (Missing · turns)).card =
      d.shared.counters.accepted +
        ((Finset.range d.shared.ledger.length).filter (Doubled · turns)).card := by
  have hbooks : ∀ k < d.shared.ledger.length, Books turns k (d.shared.ledger.line k) 0 := by
    intro k hk
    have hk := h.books run hk
    rwa [finished] at hk
  have haccepted := h.accepted_eq fresh run
  refine ⟨fun k hk => ?_, haccepted, ?_⟩
  · have hends := (hbooks k hk).endsOf_eq
    refine ⟨(hbooks k hk).accepted, ⟨fun h1 => ?_, fun ⟨hm, hd⟩ => ?_⟩, fun hm => ?_, fun hd => ?_⟩
    · refine ⟨fun hm => ?_, fun hd => ?_⟩
      · rw [if_pos hm, if_neg hm.not_doubled] at hends
        omega
      · rw [if_pos hd, if_neg fun hm => hm.not_doubled hd] at hends
        omega
    · rw [if_neg hm, if_neg hd] at hends
      exact hends
    · rw [if_pos hm, if_neg hm.not_doubled] at hends
      omega
    · rw [if_pos hd, if_neg fun hm => hm.not_doubled hd] at hends
      exact hends
  · rw [h.settled_eq fresh run, haccepted, Finset.card_filter, Finset.card_filter,
      ← Finset.sum_add_distrib,
      Finset.sum_congr rfl fun k hk => (hbooks k (Finset.mem_range.mp hk)).endsOf_eq,
      Finset.sum_add_distrib]
    simp

namespace Engine

/-- Both connections of the sample are in one end. -/
theorem counted_once_sample : errands sampleRun.2 = 0 ∧ ∀ k < 2, endsOf k sampleRun.1 = 1 := by
  have hfinished : errands sampleRun.2 = 0 := by decide +kernel
  have hlength : sampleRun.2.shared.ledger.length = 2 := by decide +kernel
  have hregular : ∀ k < 2, ¬ Missing k sampleRun.1 ∧ ¬ Doubled k sampleRun.1 := by decide +kernel
  have hbooks := opening_sample.counted_once_iff rfl run_sample hfinished
  refine ⟨hfinished, fun k hk => ?_⟩
  obtain ⟨-, hiff, -, -⟩ := hbooks.1 k (by omega)
  exact hiff.mpr (hregular k hk)

/-- The sample with a connection that cannot be read, and with someone who makes the server quit. -/
def flawed : Engine where
  shared :=
    { sample.shared with
      incoming := [.connection .reliable (.malformed "unreadable" true) .late none] }
  threads := sample.threads ++ [.quitter .flipping]

/-- The books need not come out even. If the server quits while the two events of the connection
are under way, the connection is in two ends; if it quits while they are in the queue, in none. -/
theorem books_uneven :
    (∃ turns d, Crowd.Run Thread.move flawed turns d ∧ errands d = 0 ∧
      d.shared.counters.accepted = 1 ∧ d.shared.counters.settled = 2) ∧
    (∃ turns d, Crowd.Run Thread.move flawed turns d ∧ errands d = 0 ∧
      d.shared.counters.accepted = 1 ∧ d.shared.counters.settled = 0) := by
  refine ⟨⟨_, _, Crowd.run_follow _ {} (List.replicate 15 0 ++ List.replicate 8 1 ++ [2] ++
      (List.replicate 14 [0, 1, 2, 3, 4]).flatten) _, ?_, ?_, ?_⟩,
    ⟨_, _, Crowd.run_follow _ {} (List.replicate 15 0 ++ (List.replicate 14 [2, 0, 1]).flatten) _,
      ?_, ?_, ?_⟩⟩
  all_goals decide +kernel

end Engine

end Switchboard
