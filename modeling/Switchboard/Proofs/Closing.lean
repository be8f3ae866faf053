import Switchboard.Proofs.Traffic

/-!
# Closing a queue

Whatever was published was consumed, or was discarded by someone who closed the queue, or is in the
hands of one of them, or lies in the ring (`Traffic.Settled`).

Main statements: `EventQueue.settled`. If someone begins to close the queue, or goes on with it,
when no permit is handed out any more and no publisher stands between its permit and its slot, then
nothing lies in the ring once it is through, and nothing will. `Traffic.closing_strands`: without
that condition something may be left, for who closes does not wait for publishers that have a
permit.
-/

namespace Switchboard

namespace Ring

variable {ε : Type} {r : Ring ε} {permits : ℕ}

theorem Calm.loads_eq {r' : Ring ε} (h : r.Calm r') : r'.loads = r.loads := by
  unfold loads
  rw [h.slots]

end Ring

namespace Traffic

variable {ε : Type} [Payload ε] {t t' : Traffic ε} {p p' : Party ε}
  {c d : Crowd (Traffic ε) (Party ε)}

/-! ### What becomes of envelopes -/

/-- What was dealt with so far, by the consumer and by discarding it. -/
def disposed (t : Traffic ε) : Multiset (ε × List Observer) :=
  ↑(t.consumed.map Envelope.load) + ↑(t.discarded.map Envelope.load)

omit [Payload ε] in
theorem coe_map_load_snoc (es : List (Envelope ε)) (e : Envelope ε) :
    (↑((es ++ [e]).map Envelope.load) : Multiset (ε × List Observer)) =
      ↑(es.map Envelope.load) + {e.load} := by
  rw [List.map_append, ← Multiset.coe_add]
  rfl

/-- The books of a queue are **settled**: what was published was dealt with, or is in the hands of
who took it, or is in the ring, and observers were told of what was discarded. -/
structure Settled (d : Crowd (Traffic ε) (Party ε)) : Prop where
  published_eq : d.shared.published =
    d.shared.disposed + (d.threads.map Party.spoils).sum + d.shared.ring.loads
  notes_eq : d.shared.notes = EventQueue.discardNotes d.shared.discarded

theorem Deal.published_eq (h : Deal t p t' p') {n : ℕ} {cs : Multiset ℕ}
    (b : t.ring.Balanced (p.permits + n) (p.claims + cs)) {rest : Multiset (ε × List Observer)}
    (hp : t.published = t.disposed + (p.spoils + rest) + t.ring.loads) :
    t'.published = t'.disposed + (p'.spoils + rest) + t'.ring.loads := by
  cases h with
  | pass calm _ _ _ spoils =>
    rw [spoils, ring_withRing, calm.loads_eq]
    exact hp
  | acquire hp' =>
    obtain rfl | rfl := hp' <;> exact hp
  | claim => exact hp
  | @write e s =>
    have b : t.ring.Balanced n (s ::ₘ cs) := by
      simpa [Party.permits, Party.claims, Publisher.permits, Publisher.claims] using b
    have hwritten : (({ t with written := t.written ++ [(s, e)] } : Traffic ε).withRing
        (t.ring.write s e)).published = t.published + {e.load} := by
      simp [published, ← Multiset.coe_add]
    rw [hwritten, hp, ring_withRing, b.loads_write, add_assoc _ t.ring.loads]
    rfl
  | @take _ _ r e found _ _ _ spoils =>
    rw [Ring.loads_tryNext found] at hp
    rw [ring_withRing, spoils]
    refine Eq.trans hp ?_
    change t.disposed + (p.spoils + rest) + (r.loads + {e.load}) =
      t.disposed + (p.spoils + {e.load} + rest) + r.loads
    abel
  | @consume e =>
    have hconsumed : ({ t with consumed := t.consumed ++ [e] } : Traffic ε).disposed =
        t.disposed + {e.load} := by
      simp only [disposed, coe_map_load_snoc]
      abel
    rw [hconsumed]
    refine Eq.trans hp ?_
    change t.disposed + ({e.load} + rest) + t.ring.loads =
      t.disposed + {e.load} + (0 + rest) + t.ring.loads
    abel
  | @discard e left =>
    have hdiscarded : ({ t with
        discarded := t.discarded ++ [e]
        notes := t.notes ++ e.notes .abandoned } : Traffic ε).disposed =
        t.disposed + {e.load} := by
      simp only [disposed, coe_map_load_snoc, add_assoc]
    have hspoils : (Party.closer (.drained (e :: left))).spoils =
        {e.load} + (Party.closer (.drained left)).spoils := rfl
    rw [hdiscarded]
    rw [hspoils] at hp
    refine Eq.trans hp ?_
    change t.disposed + ({e.load} + _ + rest) + t.ring.loads =
      t.disposed + {e.load} + (_ + rest) + t.ring.loads
    abel

theorem Deal.notes_eq (h : Deal t p t' p') (hn : t.notes = EventQueue.discardNotes t.discarded) :
    t'.notes = EventQueue.discardNotes t'.discarded := by
  cases h with
  | @discard e left =>
    unfold EventQueue.discardNotes at hn ⊢
    rw [List.flatMap_append, ← hn]
    simp
  | pass | acquire | claim | write | take | consume => exact hn

theorem Settled.step {capacity : ℕ} {offered : Multiset (ε × List Observer)}
    (hc : Sound capacity offered c) (h : Settled c) (step : Crowd.Step move c d) : Settled d := by
  obtain ⟨p, p', before, after, hthreads, hthreads', -, deal⟩ := deal_of_step step
  have hb := hc.balanced
  have hp := h.published_eq
  simp only [hthreads, Crowd.sum_map_thread] at hb hp
  refine ⟨?_, deal.notes_eq h.notes_eq⟩
  simpa only [hthreads', Crowd.sum_map_thread] using deal.published_eq hb hp

/-! ### The last to close -/

/-- No permit is handed out any more, and no publisher stands between its permit and its slot. -/
structure Quiet (d : Crowd (Traffic ε) (Party ε)) : Prop where
  sealed : d.shared.ring.permitsClosed = true
  idle : ∀ p ∈ d.threads, p.permits = 0 ∧ p.claims = 0

/-- A deal of a party with empty hands puts nothing into the ring of which no permit is handed
out. -/
theorem Deal.quiet (h : Deal t p t' p') (sealed : t.ring.permitsClosed = true)
    (idle : p.permits = 0 ∧ p.claims = 0) :
    t'.ring.permitsClosed = true ∧ (p'.permits = 0 ∧ p'.claims = 0) ∧
      (t.ring.loads = 0 → t'.ring.loads = 0) := by
  cases h with
  | pass calm permits claims =>
    refine ⟨calm.permitsClosed sealed, ⟨permits.trans idle.1, claims.trans idle.2⟩, fun h => ?_⟩
    exact calm.loads_eq.trans h
  | acquire _ unsealed => cases unsealed.symm.trans sealed
  | claim => cases idle.1
  | @write e s => exact absurd idle.2 (Multiset.singleton_ne_zero s)
  | @take _ _ r e found permits claims =>
    have hflags := t.ring.flags_tryNext.1
    rw [found] at hflags
    refine ⟨hflags.trans sealed, ⟨permits.2, claims.2⟩, fun h => ?_⟩
    exact (add_eq_zero.mp ((Ring.loads_tryNext found).symm.trans h)).1
  | consume | discard => exact ⟨sealed, ⟨rfl, rfl⟩, id⟩

theorem Quiet.step (h : Quiet c) (step : Crowd.Step move c d) : Quiet d := by
  obtain ⟨p, p', before, after, hthreads, hthreads', -, deal⟩ := deal_of_step step
  obtain ⟨hsealed, hidle', -⟩ := deal.quiet h.sealed (h.idle p (by simp [hthreads]))
  refine ⟨hsealed, fun q hq => ?_⟩
  rw [hthreads'] at hq
  rcases List.mem_append.mp hq with hq | hq
  · exact h.idle q (by simp [hthreads, hq])
  · rcases List.mem_cons.mp hq with rfl | hq
    · exact hidle'
    · exact h.idle q (by simp [hthreads, hq])

omit [Payload ε] in
theorem Quiet.claims_eq (h : Quiet c) : (c.threads.map Party.claims).sum = 0 :=
  List.sum_eq_zero (by simpa using fun p hp => (h.idle p hp).2)

/-- The ring is empty, or the party at this place is still about to drain it. -/
def Emptying (n : ℕ) (d : Crowd (Traffic ε) (Party ε)) : Prop :=
  d.shared.ring.loads = 0 ∨
    ∃ q, d.threads[n]? = some (.closer q) ∧ ∀ left, q ≠ .drained left

theorem Emptying.step {capacity n : ℕ} {offered : Multiset (ε × List Observer)}
    (hc : Sound capacity offered c) (quiet : Quiet c) (h : Emptying n c)
    (step : Crowd.Step move c d) : Emptying n d := by
  obtain ⟨p, p', before, after, hthreads, hthreads', hm, deal⟩ := deal_of_step step
  obtain ⟨-, -, hkept⟩ := deal.quiet quiet.sealed (quiet.idle p (by simp [hthreads]))
  rcases h with hempty | ⟨q, hq, hleft⟩
  · exact .inl (hkept hempty)
  · rw [hthreads] at hq
    have hplace := Crowd.getElem?_of_moved p' [] hq
    rw [List.append_nil, ← hthreads'] at hplace
    rcases hplace with ⟨rfl, hp'⟩ | hplace
    · cases q with
      | marking =>
        unfold move Closer.step Ring.markClosed at hm
        cases hclosed : c.shared.ring.closed <;> simp [hclosed] at hm <;>
          exact .inr ⟨_, hm.2 ▸ hp', by simp⟩
      | sealing | notifying =>
        have hself := congrArg (fun m => m.bind Move.self) hm
        obtain rfl := Option.some.inj hself
        exact .inr ⟨_, hp', by simp⟩
      | draining taken =>
        have hself := congrArg (fun m => m.bind Move.self) hm
        rcases hnext : c.shared.ring.tryNext with ⟨r, _ | e⟩
        · refine .inl (hkept ?_)
          obtain ⟨-, hunfilled⟩ | ⟨slot, -, -, hslot⟩ := c.shared.ring.tryNext_cases
          · exact (quiet.claims_eq ▸ hc.balanced).loads_eq_zero hunfilled
          · cases (Prod.mk.inj (hslot.symm.trans hnext)).2
        · simp only [move, Closer.step, hnext] at hself
          obtain rfl := Option.some.inj hself
          exact .inr ⟨_, hp', by simp⟩
      | drained left => exact absurd rfl (hleft left)
    · exact .inr ⟨q, hplace, hleft⟩

/-- A queue that was made just now has nothing on its books. -/
theorem settled_ofCapacity {capacity : ℕ} {observers : List Observer} {queue : EventQueue ε}
    (hqueue : EventQueue.ofCapacity capacity observers = .ok queue) {parties : List (Party ε)}
    (fresh : ∀ p ∈ parties, p.Fresh) : Settled ⟨{ queue }, parties⟩ := by
  have hspoils : (parties.map Party.spoils).sum = 0 := by
    refine List.sum_eq_zero fun x hx => ?_
    obtain ⟨p, hp, rfl⟩ := List.mem_map.mp hx
    cases fresh p hp <;> rfl
  refine ⟨?_, rfl⟩
  rw [hspoils]
  change _ = _ + 0 + queue.ring.loads
  rw [(Ring.balanced_ofCapacity (EventQueue.ring_ofCapacity hqueue)).2]
  rfl

end Traffic

/-- **Settling the books.** There is a queue of every power of two. Whatever was published is
accounted for at any time. If no permit is handed out any more, no publisher stands between its
permit and its slot, and someone who closes the queue has yet to find it empty, then nothing is left
in the ring once that is done. -/
theorem EventQueue.settled {ε : Type} [Payload ε] (k : ℕ) (observers : List Observer)
    {parties : List (Party ε)} (fresh : ∀ p ∈ parties, p.Fresh) :
    ∃ queue, EventQueue.ofCapacity (2 ^ k) observers = .ok queue ∧
      ∀ c, Crowd.Reaches Traffic.move ⟨{ queue }, parties⟩ c → Traffic.Settled c ∧
        ∀ (n : ℕ) (q : Closer ε), Traffic.Quiet c → c.threads[n]? = some (.closer q) →
          (∀ left, q ≠ .drained left) →
          ∀ d left, Crowd.Reaches Traffic.move c d →
            d.threads[n]? = some (.closer (.drained left)) → d.shared.ring.loads = 0 := by
  obtain ⟨queue, hqueue⟩ : ∃ queue : EventQueue ε, _ :=
    EventQueue.exists_ofCapacity k observers
  have hsound := Traffic.sound_ofCapacity hqueue fresh
  refine ⟨queue, hqueue, fun c reach => ⟨?_, fun n q hquiet hq hleft d left hreach hdrained => ?_⟩⟩
  · refine (reach.keeps (P := fun c => Traffic.Sound _ _ c ∧ Traffic.Settled c)
      ⟨hsound, Traffic.settled_ofCapacity hqueue fresh⟩ fun step h => ?_).2
    exact ⟨h.1.step step, .step h.1 h.2 step⟩
  · obtain ⟨-, -, hempty | ⟨q', hq', hleft'⟩⟩ := hreach.keeps
      (P := fun c => Traffic.Sound _ _ c ∧ Traffic.Quiet c ∧ Traffic.Emptying n c)
      ⟨hsound.reaches reach, hquiet, .inr ⟨q, hq, hleft⟩⟩
      fun step h => ⟨h.1.step step, h.2.1.step step, .step h.1 h.2.1 h.2.2 step⟩
    · exact hempty
    · cases hdrained.symm.trans hq'
      exact absurd rfl (hleft' left)

namespace Traffic

/-- A publisher and someone who closes the queue meanwhile. -/
def strandingParties : List (Party EventKind) :=
  [.publisher (.waiting { event := .conversion, observers := [{ tag := "a" }] }), .closer .marking]

/-- **Closing may strand an envelope.** A publisher that has a permit when the queue is closed and
drained fills its slot afterwards. It has published its envelope, all are through, and the envelope
stays in the ring without anyone being told. -/
theorem closing_strands :
    ∃ queue, EventQueue.ofCapacity 1 [] = .ok queue ∧
      ∃ d, Crowd.Reaches move ⟨{ queue }, strandingParties⟩ d ∧
        d.threads = [.publisher .published, .closer (.drained [])] ∧
        d.shared.ring.length = 1 ∧ d.shared.taken = [] ∧ d.shared.notes = [] := by
  refine ⟨_, rfl, _, Crowd.reaches_iff_exists_run.mpr
    ⟨_, Crowd.run_follow move () [0, 1, 1, 1, 1, 0, 0, 0] _⟩, ?_⟩
  decide

end Traffic

end Switchboard
