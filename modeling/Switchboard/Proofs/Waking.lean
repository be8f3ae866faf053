import Switchboard.Proofs.Traffic

/-!
# Waking the consumer

The consumer looks whether the ring is closed, then for an envelope, and only then waits for a
notification; publishers and closers first change the ring and only then notify. Many notifications
may become one, and one may come for a slot that is not the next, so that the consumer looks around
for nothing; but what it waits for is never kept from it (`Traffic.Alert`): if it has seen the ring
open, or the next slot unfilled, and that has changed since, then a notification is stored or
somebody is about to notify.

Main statement: `EventQueue.wakes_consumer`. Among any number of publishers and closers, a consumer
that sleeps without a stored notification has nothing to see, unless somebody is about to wake it.
-/

namespace Switchboard

variable {ε : Type}

/-- The slot under the read cursor is filled. -/
def Ring.HasNext (r : Ring ε) : Prop := r.FilledAt (r.index r.nextRead)

/-! ### What a consumer waits for -/

namespace Consumer

/-- The consumer has seen the ring open and is to be told of its closing. -/
def awaitsClosing (r : Ring ε) : Consumer ε → Bool
  | trying | listening => true
  | parked => r.parked
  | checking | holding _ | finished => false

/-- The consumer has seen the next slot unfilled and is to be told when it is filled. -/
def awaitsFilling (r : Ring ε) : Consumer ε → Bool
  | listening => true
  | parked => r.parked
  | checking | trying | holding _ | finished => false

theorem awaitsClosing_congr {r r' : Ring ε} (h : r'.parked = r.parked) (c : Consumer ε) :
    c.awaitsClosing r' = c.awaitsClosing r := by
  cases c <;> first | rfl | exact h

theorem awaitsFilling_congr {r r' : Ring ε} (h : r'.parked = r.parked) (c : Consumer ε) :
    c.awaitsFilling r' = c.awaitsFilling r := by
  cases c <;> first | rfl | exact h

end Consumer

namespace Party

/-- Whether a party is a consumer. -/
def isConsumer : Party ε → Bool
  | consumer _ => true
  | publisher _ | attempt _ | closer _ => false

/-- Whether a party has closed the ring and has yet to notify the consumer. -/
def tellsClosed : Party ε → Bool
  | closer .sealing | closer .notifying => true
  | _ => false

/-- Whether a party has filled a slot and has yet to notify the consumer. -/
def tellsFilled : Party ε → Bool
  | publisher .written => true
  | _ => false

/-! ### What the others do -/

/-- What a move of a party that is no consumer means for the consumer: `p.Stir r r' p'` leads from
a ring and the party to what becomes of both. -/
inductive Stir (p : Party ε) (r : Ring ε) : Ring ε → Party ε → Prop where
  /-- Nobody is notified. What is closed or filled by the move is still to be told, and so is what
  was still to be told before. -/
  | silent {r' : Ring ε} {p' : Party ε} (parked : r'.parked = r.parked)
    (notified : r'.notified = r.notified)
    (closed : r'.closed = true → r.closed = true ∨ p'.tellsClosed = true)
    (filled : r'.HasNext → r.HasNext ∨ p'.tellsFilled = true)
    (tellsClosed : p.tellsClosed = true → p'.tellsClosed = true)
    (tellsFilled : p.tellsFilled = true → p'.tellsFilled = true) : p.Stir r r' p'
  | notify {p' : Party ε} : p.Stir r r.notify p'

/-- A party that has nothing to tell and leaves the ring alone. -/
theorem Stir.refl (r : Ring ε) {p : Party ε} (p' : Party ε) (hclosed : p.tellsClosed = false)
    (hfilled : p.tellsFilled = false) : p.Stir r r p' :=
  .silent rfl rfl .inl .inl (by simp [hclosed]) (by simp [hfilled])

variable [Payload ε] {r r' : Ring ε}

omit [Payload ε] in
/-- A permit is no matter for the consumer. -/
theorem stir_acquire {p p' : Party ε} (h : r.acquire = .ok r') (hclosed : p.tellsClosed = false)
    (hfilled : p.tellsFilled = false) : p.Stir r r' p' := by
  unfold Ring.acquire at h
  split_ifs at h
  obtain rfl := Except.ok.inj h
  exact .silent rfl rfl .inl .inl (by simp [hclosed]) (by simp [hfilled])

theorem stir_publisher {q q' : Publisher ε} (h : q.step r = some (r', q')) :
    Stir (.publisher q) r r' (.publisher q') := by
  cases q with
  | waiting e =>
    unfold Publisher.step at h
    cases hr : r.acquire with
    | ok r₁ =>
      rw [hr] at h
      obtain ⟨rfl, rfl⟩ := Prod.mk.inj (Option.some.inj h)
      exact stir_acquire hr rfl rfl
    | error error =>
      rw [hr] at h
      cases error with
      | full => cases h
      | closed | invalidCapacity n =>
        obtain ⟨rfl, rfl⟩ := Prod.mk.inj (Option.some.inj h)
        exact .refl _ _ rfl rfl
  | permitted e =>
    obtain ⟨rfl, rfl⟩ := Prod.mk.inj (Option.some.inj h)
    exact .silent rfl rfl .inl .inl nofun nofun
  | claimed e s =>
    -- whatever slot is filled, the publisher goes on to tell
    obtain ⟨rfl, rfl⟩ := Prod.mk.inj (Option.some.inj h)
    exact .silent rfl rfl .inl (fun _ => .inr rfl) nofun nofun
  | written =>
    obtain ⟨rfl, rfl⟩ := Prod.mk.inj (Option.some.inj h)
    exact .notify
  | published | refused e error => cases h

/-- Who takes an envelope away leaves nothing to tell of that was not there before. -/
theorem stir_taker {q q' : Closer ε} (h : r.tryNext.1 = r')
    (hclosed : (Party.closer q).tellsClosed = false) :
    Stir (.closer q) r r' (.closer q') := by
  obtain ⟨hnext, -⟩ | ⟨slot, hslot, hfilled, hnext⟩ := r.tryNext_cases
  · rw [hnext] at h
    obtain rfl := h
    exact .refl _ _ hclosed rfl
  · rw [hnext] at h
    obtain rfl := h
    exact .silent rfl rfl .inl (fun _ => .inl ⟨slot, hslot, hfilled⟩) (by simp [hclosed]) nofun

theorem stir_closer {q q' : Closer ε} (h : q.step r = some (r', q')) :
    Stir (.closer q) r r' (.closer q') := by
  cases q with
  | marking =>
    unfold Closer.step Ring.markClosed at h
    cases hc : r.closed with
    | true =>
      rw [hc] at h
      obtain ⟨rfl, rfl⟩ := Prod.mk.inj (Option.some.inj h)
      exact .silent rfl rfl (fun _ => .inl hc) .inl nofun nofun
    | false =>
      rw [hc] at h
      obtain ⟨rfl, rfl⟩ := Prod.mk.inj (Option.some.inj h)
      exact .silent rfl rfl (fun _ => .inr rfl) .inl nofun nofun
  | sealing =>
    obtain ⟨rfl, rfl⟩ := Prod.mk.inj (Option.some.inj h)
    exact .silent rfl rfl .inl .inl (fun _ => rfl) nofun
  | notifying =>
    obtain ⟨rfl, rfl⟩ := Prod.mk.inj (Option.some.inj h)
    exact .notify
  | draining es =>
    unfold Closer.step at h
    rcases hnext : r.tryNext with ⟨r₁, _ | e⟩ <;> rw [hnext] at h <;>
      obtain ⟨rfl, rfl⟩ := Prod.mk.inj (Option.some.inj h) <;>
      exact stir_taker (congrArg Prod.fst hnext) rfl
  | drained es => cases h

end Party

/-! ### Nothing is kept from the consumer -/

namespace Consumer

/-- A consumer is **alert**: nobody else waits for notifications, and if what it has seen of the
ring is so no longer, a notification is stored, or somebody is about to notify because of the
closing or of a filled slot. -/
structure Alert (q : Consumer ε) (r : Ring ε) (closing filling : Bool) : Prop where
  parked : r.parked = true → q = .parked
  closing : q.awaitsClosing r = true → r.closed = true → r.notified = true ∨ closing = true
  filling : q.awaitsFilling r = true → r.HasNext → r.notified = true ∨ filling = true

variable {q q' : Consumer ε} {r r' : Ring ε} {closing filling : Bool}

/-- Where the consumer waits for nothing, and nobody waits for notifications, it is alert. -/
theorem Alert.of_busy (hparked : r.parked = false) (hclosing : q.awaitsClosing r = false)
    (hfilling : q.awaitsFilling r = false) : q.Alert r closing filling :=
  ⟨by simp [hparked], by simp [hclosing], by simp [hfilling]⟩

/-- A notification reaches the consumer, wherever it is. -/
theorem Alert.notify (h : q.Alert r closing filling) (closing' filling' : Bool) :
    q.Alert r.notify closing' filling' := by
  unfold Ring.notify
  cases hr : r.parked with
  | true =>
    obtain rfl := h.parked hr
    exact .of_busy rfl rfl rfl
  | false => exact ⟨by simp, fun _ _ => .inl rfl, fun _ _ => .inl rfl⟩

/-- What others do leaves the consumer alert. -/
theorem Alert.stir {p p' : Party ε} (h : q.Alert r (p.tellsClosed || closing)
    (p.tellsFilled || filling)) (stir : p.Stir r r' p') :
    q.Alert r' (p'.tellsClosed || closing) (p'.tellsFilled || filling) := by
  cases stir with
  | notify => exact h.notify _ _
  | silent parked notified closed filled tellsClosed tellsFilled =>
    refine ⟨by rw [parked]; exact h.parked, fun hawaits hclosed => ?_, fun hawaits hnext => ?_⟩
    · rw [awaitsClosing_congr parked] at hawaits
      rw [notified, Bool.or_eq_true]
      obtain hclosed | htells := closed hclosed
      · have := h.closing hawaits hclosed
        rw [Bool.or_eq_true] at this
        exact this.imp_right (.imp_left tellsClosed)
      · exact .inr (.inl htells)
    · rw [awaitsFilling_congr parked] at hawaits
      rw [notified, Bool.or_eq_true]
      obtain hnext | htells := filled hnext
      · have := h.filling hawaits hnext
        rw [Bool.or_eq_true] at this
        exact this.imp_right (.imp_left tellsFilled)
      · exact .inr (.inl htells)

variable [Payload ε]

/-- The consumer stays alert itself: it begins to wait only for what it has just seen to be
missing, and only where no notification is stored. -/
theorem Alert.step (h : q.Alert r closing filling) (step : q.step r = some (r', q')) :
    q'.Alert r' closing filling := by
  have hparked : q ≠ .parked → r.parked = false := fun hq =>
    Bool.eq_false_iff.mpr fun hr => hq (h.parked hr)
  cases q with
  | checking =>
    obtain ⟨rfl, rfl⟩ := Prod.mk.inj (Option.some.inj step)
    cases hr : r.closed with
    | true => exact .of_busy (hparked nofun) rfl rfl
    | false => exact ⟨by simp [hparked], by simp [hr], nofun⟩
  | trying =>
    unfold Consumer.step at step
    obtain ⟨hnext, hnone⟩ | ⟨slot, -, -, hnext⟩ := r.tryNext_cases
    · rw [hnext] at step
      obtain ⟨rfl, rfl⟩ := Prod.mk.inj (Option.some.inj step)
      exact ⟨by simp [hparked], fun _ => h.closing rfl, fun _ hsome => absurd hsome hnone⟩
    · rw [hnext] at step
      obtain ⟨rfl, rfl⟩ := Prod.mk.inj (Option.some.inj step)
      exact .of_busy (hparked nofun) rfl rfl
  | listening =>
    unfold Consumer.step Ring.await at step
    by_cases hr : r.notified = true
    · rw [if_pos hr] at step
      obtain ⟨rfl, rfl⟩ := Prod.mk.inj (Option.some.inj step)
      exact .of_busy (hparked nofun) rfl rfl
    · rw [if_neg hr] at step
      obtain ⟨rfl, rfl⟩ := Prod.mk.inj (Option.some.inj step)
      exact ⟨fun _ => rfl, fun _ => h.closing rfl, fun _ => h.filling rfl⟩
  | parked =>
    unfold Consumer.step at step
    cases hr : r.parked with
    | true => simp [hr] at step
    | false =>
      simp only [hr, Bool.false_eq_true, if_false] at step
      obtain ⟨rfl, rfl⟩ := Prod.mk.inj (Option.some.inj step)
      exact .of_busy hr rfl rfl
  | holding e | finished => cases step

end Consumer

namespace Traffic

variable [Payload ε] {t : Traffic ε} {p p' : Party ε} {c d : Crowd (Traffic ε) (Party ε)}

/-- A move of a party that is no consumer, and does not become one. -/
theorem stir_of_move {m : Move (Traffic ε) (Party ε)} (h : move () t p = some m)
    (hself : m.self = some p') (hp : p.isConsumer = false) :
    p.Stir t.ring m.shared.ring p' ∧ p'.isConsumer = false := by
  cases p with
  | consumer q => cases hp
  | publisher q =>
    obtain ⟨⟨r, q'⟩, hq, rfl⟩ := Option.map_eq_some_iff.mp h
    obtain rfl := Option.some.inj hself
    exact ⟨Party.stir_publisher hq, rfl⟩
  | attempt e =>
    unfold move at h
    cases hr : t.ring.acquire with
    | ok r =>
      simp only [hr] at h
      obtain rfl := Option.some.inj h
      obtain rfl := Option.some.inj hself
      exact ⟨Party.stir_acquire hr rfl rfl, rfl⟩
    | error error =>
      simp only [hr] at h
      obtain rfl := Option.some.inj h
      obtain rfl := Option.some.inj hself
      exact ⟨.refl _ _ rfl rfl, rfl⟩
  | closer q =>
    cases q with
    | drained es =>
      cases es with
      | nil => cases h
      | cons e left =>
        obtain rfl := Option.some.inj h
        obtain rfl := Option.some.inj hself
        exact ⟨.refl _ _ rfl rfl, rfl⟩
    | _ =>
      unfold move at h
      obtain ⟨⟨r, q'⟩, hq, rfl⟩ := Option.map_eq_some_iff.mp h
      obtain rfl := Option.some.inj hself
      exact ⟨Party.stir_closer hq, rfl⟩

/-- A queue has one consumer at most, and that is alert. -/
structure Alert (d : Crowd (Traffic ε) (Party ε)) : Prop where
  alone : d.threads.countP Party.isConsumer ≤ 1
  alert : ∀ q, .consumer q ∈ d.threads → q.Alert d.shared.ring
    (d.threads.any Party.tellsClosed) (d.threads.any Party.tellsFilled)

omit [Payload ε] in
theorem any_thread (f : Party ε → Bool) (before after : List (Party ε)) (p : Party ε) :
    (before ++ p :: after).any f = (f p || (before ++ after).any f) := by
  simp [Bool.or_left_comm]

/-- A move of the consumer keeps it alert. -/
theorem alert_of_move {q : Consumer ε} {closing filling : Bool} {m : Move (Traffic ε) (Party ε)}
    (h : q.Alert t.ring closing filling) (hm : move () t (.consumer q) = some m)
    (hself : m.self = some p') :
    ∃ q', p' = .consumer q' ∧ q'.Alert m.shared.ring closing filling := by
  cases q with
  | holding e =>
    obtain rfl := Option.some.inj hm
    obtain rfl := Option.some.inj hself
    exact ⟨_, rfl, .of_busy (Bool.eq_false_iff.mpr fun hr => nomatch h.parked hr) rfl rfl⟩
  | _ =>
    unfold move at hm
    obtain ⟨⟨r, q'⟩, hq, rfl⟩ := Option.map_eq_some_iff.mp hm
    obtain rfl := Option.some.inj hself
    exact ⟨q', rfl, h.step hq⟩

theorem Alert.step (h : Alert c) (step : Crowd.Step move c d) : Alert d := by
  obtain ⟨p, p', before, after, hthreads, hthreads', hm, -⟩ := deal_of_step step
  obtain ⟨alone, alert⟩ := h
  simp only [hthreads, any_thread, List.perm_middle.mem_iff, List.mem_cons] at alert
  rw [hthreads, List.perm_middle.countP_eq, List.countP_cons] at alone
  have halone : p'.isConsumer = p.isConsumer → d.threads.countP Party.isConsumer ≤ 1 := by
    intro hp
    rwa [hthreads', List.perm_middle.countP_eq, List.countP_cons, hp]
  cases hp : p.isConsumer with
  | false =>
    obtain ⟨stir, hp'⟩ := stir_of_move hm rfl hp
    refine ⟨halone (hp'.trans hp.symm), fun q hq => ?_⟩
    rw [hthreads', List.perm_middle.mem_iff, List.mem_cons] at hq
    rw [hthreads', any_thread, any_thread]
    refine (alert q (.inr (hq.resolve_left ?_))).stir stir
    rintro rfl
    cases hp'
  | true =>
    cases p with
    | publisher _ | attempt _ | closer _ => cases hp
    | consumer q =>
      obtain ⟨q', rfl, halert⟩ := alert_of_move (alert q (.inl rfl)) hm rfl
      refine ⟨halone rfl, fun q₁ hq₁ => ?_⟩
      rw [hthreads', List.perm_middle.mem_iff, List.mem_cons] at hq₁
      have hothers : (before ++ after).countP Party.isConsumer = 0 := by
        rw [hp, if_pos rfl] at alone
        omega
      obtain hq₁ | hq₁ := hq₁
      · obtain rfl := Party.consumer.inj hq₁
        rw [hthreads', any_thread, any_thread]
        exact halert
      · exact absurd rfl (List.countP_eq_zero.mp hothers _ hq₁)

/-- A queue that was made just now, with parties that have not done anything yet. -/
theorem alert_ofCapacity {capacity : ℕ} {observers : List Observer} {queue : EventQueue ε}
    (hqueue : EventQueue.ofCapacity capacity observers = .ok queue) {parties : List (Party ε)}
    (fresh : ∀ p ∈ parties, p.Fresh) (alone : parties.countP Party.isConsumer ≤ 1) :
    Alert ⟨{ queue }, parties⟩ := by
  refine ⟨alone, fun q hq => ?_⟩
  have hparked : queue.ring.parked = false := by
    have hring := EventQueue.ring_ofCapacity hqueue
    unfold Ring.ofCapacity at hring
    split_ifs at hring
    rw [← Except.ok.inj hring]
  cases fresh _ hq
  exact .of_busy hparked rfl rfl

/-! ### Sleeping -/

/-- The consumer of a queue **sleeps**: it waits for a notification, and none is stored. -/
structure Sleeps (d : Crowd (Traffic ε) (Party ε)) : Prop where
  consumer : .consumer .parked ∈ d.threads
  parked : d.shared.ring.parked = true
  notified : d.shared.ring.notified = false

end Traffic

/-- **No wake-up is lost.** There is a queue of every power of two. Whatever publishers, closers and
one consumer do with it in whatever order, when the consumer sleeps and the ring is closed, whoever
closed it has yet to notify; and when the consumer sleeps and the next slot is filled, a publisher
that has filled its slot has yet to notify. -/
theorem EventQueue.wakes_consumer [Payload ε] (k : ℕ) (observers : List Observer)
    {parties : List (Party ε)} (fresh : ∀ p ∈ parties, p.Fresh)
    (alone : parties.countP Party.isConsumer ≤ 1) :
    ∃ queue, EventQueue.ofCapacity (2 ^ k) observers = .ok queue ∧
      ∀ d, Crowd.Reaches Traffic.move ⟨{ queue }, parties⟩ d → Traffic.Sleeps d →
        (d.shared.ring.closed = true → ∃ p ∈ d.threads, p.tellsClosed = true) ∧
        (d.shared.ring.HasNext → ∃ p ∈ d.threads, p.tellsFilled = true) := by
  obtain ⟨queue, hqueue⟩ : ∃ queue : EventQueue ε, _ :=
    EventQueue.exists_ofCapacity k observers
  refine ⟨queue, hqueue, fun d reach sleeps => ?_⟩
  have halert : Traffic.Alert d :=
    reach.keeps (Traffic.alert_ofCapacity hqueue fresh alone) fun step h => h.step step
  obtain ⟨-, closing, filling⟩ := halert.alert _ sleeps.consumer
  have hnotified : ¬ d.shared.ring.notified = true := by simp [sleeps.notified]
  constructor
  · intro hclosed
    exact List.any_eq_true.mp ((closing sleeps.parked hclosed).resolve_left hnotified)
  · intro hnext
    exact List.any_eq_true.mp ((filling sleeps.parked hnext).resolve_left hnotified)

namespace Traffic

/-- Two publishers, a consumer and a closer. -/
def sleeperParties : List (Party EventKind) :=
  [.publisher (.waiting { event := .conversion }), .publisher (.waiting { event := .middleware }),
    .consumer .checking, .closer .marking]

/-- A run with two slots: the consumer goes to sleep, is woken for the second slot, and goes to
sleep again, before the first slot is filled and the ring is closed. -/
def sleeperRun : Crowd (Traffic EventKind) (Party EventKind) :=
  (Crowd.follow move () ([2, 2, 2] ++ [0, 0, 1, 1, 1, 1] ++ [2, 2, 2, 2] ++ [0, 3])
    ⟨{ queue := { ring := { slots := Array.replicate 2 { envelope := .empty }, free := 2 } } },
      sleeperParties⟩).2

/-- The consumer sleeps while the ring is closed and the next slot is filled, and both the publisher
and the closer have yet to notify. -/
theorem wakes_consumer_sample :
    (∀ p ∈ sleeperParties, p.Fresh) ∧ sleeperParties.countP Party.isConsumer ≤ 1 ∧
      Sleeps sleeperRun ∧ sleeperRun.shared.ring.closed = true ∧ sleeperRun.shared.ring.HasNext ∧
      (∃ p ∈ sleeperRun.threads, p.tellsClosed = true) ∧
      ∃ p ∈ sleeperRun.threads, p.tellsFilled = true := by
  have hfresh : ∀ p ∈ sleeperParties, p.Fresh := by
    simp only [sleeperParties, List.mem_cons, List.not_mem_nil, or_false]
    rintro p (rfl | rfl | rfl | rfl) <;> constructor
  have halone : sleeperParties.countP Party.isConsumer ≤ 1 := by decide
  have hsleeps : Sleeps sleeperRun := ⟨by decide, by decide, by decide⟩
  have hclosed : sleeperRun.shared.ring.closed = true := by decide
  have hnext : sleeperRun.shared.ring.HasNext := ⟨_, rfl, by decide⟩
  obtain ⟨queue, hqueue, h⟩ := EventQueue.wakes_consumer 1 [] hfresh halone
  obtain rfl : _ = queue := Except.ok.inj hqueue
  obtain ⟨closing, filling⟩ :=
    h sleeperRun (Crowd.reaches_iff_exists_run.mpr ⟨_, Crowd.run_follow ..⟩) hsleeps
  exact ⟨hfresh, halone, hsleeps, hclosed, hnext, closing hclosed, filling hnext⟩

end Traffic

end Switchboard
