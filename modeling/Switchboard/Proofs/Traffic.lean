import Switchboard.Proofs.Interleaving
import Switchboard.Proofs.Ring
import Switchboard.Queue.Traffic

/-!
# Order in the traffic of a ring

Any number of publishers, consumers and closers work with one ring, each at any of its steps.
`Ring.Filed` says what the record of their work has to do with the ring: the envelopes that were
taken are those with the least sequence numbers, each as it was written, and those that were written
and not taken lie in their slots. `Traffic.Deal` lists what a move can do to ring and record, and
`Traffic.Sound` is what all of them keep, with the permits and sequence numbers that are in hands.

Main statement: `EventQueue.orderly`. From a queue of any power of two, whatever the parties do in
whatever order, no publisher meets an envelope in its slot, and every envelope is taken once, in the
order of the sequence numbers, as it was published.
-/

namespace Switchboard

variable {ε : Type}

/-- An envelope as it lies in a slot: stamped when it was published. -/
def Envelope.stamp (e : Envelope ε) : Envelope ε := { e with stamped := true }

/-- The capacities are the powers of two. -/
theorem isPowerOfTwo_two_pow (k : ℕ) : isPowerOfTwo (2 ^ k) = true := by
  simp [isPowerOfTwo, Nat.log2_two_pow, Nat.one_shiftLeft]

namespace Ring

variable {r : Ring ε} {permits : ℕ} {claims : Multiset ℕ} {written taken : List (ℕ × Envelope ε)}

/-! ### Steps that move nothing -/

/-- Nothing is put into the ring or taken out of it, and what was closed stays closed. -/
structure Calm (r r' : Ring ε) : Prop where
  slots : r'.slots = r.slots
  free : r'.free = r.free
  nextRead : r'.nextRead = r.nextRead
  nextWrite : r'.nextWrite = r.nextWrite
  permitsClosed : r.permitsClosed = true → r'.permitsClosed = true

theorem Calm.refl (r : Ring ε) : r.Calm r := ⟨rfl, rfl, rfl, rfl, id⟩

theorem calm_notify (r : Ring ε) : r.Calm r.notify := by
  unfold Ring.notify
  split <;> exact ⟨rfl, rfl, rfl, rfl, id⟩

theorem calm_await (r : Ring ε) : r.Calm r.await.1 := by
  unfold Ring.await
  split <;> exact ⟨rfl, rfl, rfl, rfl, id⟩

/-! ### What is on file -/

/-- A record of what was written and taken is **filed** in a ring, with these sequence numbers drawn
and not yet written. -/
structure Filed (r : Ring ε) (claims : Multiset ℕ) (written taken : List (ℕ × Envelope ε)) :
    Prop where
  /-- The numbers were taken in their order, without a gap. -/
  numbers : taken.map Prod.fst = List.range r.nextRead
  nodup : (written.map Prod.fst).Nodup
  /-- The numbers written are those that were drawn but for the ones in hands. -/
  mem_written : ∀ s, s ∈ written.map Prod.fst ↔ s < r.nextWrite ∧ s ∉ claims
  /-- What was taken under a number was written under it. -/
  of_taken : ∀ x ∈ taken, ∃ e, (x.1, e) ∈ written ∧ x.2 = e.stamp
  /-- What was written and not taken lies in its slot. -/
  kept : ∀ x ∈ written, r.nextRead ≤ x.1 →
    r.slots[r.index x.1]? = some { envelope := x.2.stamp, filled := true }

namespace Filed

/-- Where neither slots nor cursors change the record stays filed. -/
theorem congr {r' : Ring ε} (f : r.Filed claims written taken) (hslots : r'.slots = r.slots)
    (hread : r'.nextRead = r.nextRead) (hwrite : r'.nextWrite = r.nextWrite) :
    r'.Filed claims written taken where
  numbers := by rw [hread]; exact f.numbers
  nodup := f.nodup
  mem_written := by rw [hwrite]; exact f.mem_written
  of_taken := f.of_taken
  kept := by
    have hindex : ∀ s, r'.index s = r.index s := fun s => by simp [index, capacity, hslots]
    simpa only [hread, hslots, hindex] using f.kept

/-- A number that is drawn is in hands. -/
theorem claim (f : r.Filed claims written taken) :
    r.claim.1.Filed (r.nextWrite ::ₘ claims) written taken where
  numbers := f.numbers
  nodup := f.nodup
  mem_written s := by
    change s ∈ written.map Prod.fst ↔ s < r.nextWrite + 1 ∧ s ∉ r.nextWrite ::ₘ claims
    rw [f.mem_written, Multiset.mem_cons, not_or]
    constructor
    · rintro ⟨hs, hc⟩
      exact ⟨by omega, by omega, hc⟩
    · rintro ⟨hs, hne, hc⟩
      exact ⟨by omega, hc⟩
  of_taken := f.of_taken
  kept := f.kept

/-- A number that was written lies between the cursors unless it was taken. -/
theorem lt_nextWrite (f : r.Filed claims written taken) {x : ℕ × Envelope ε} (hx : x ∈ written) :
    x.1 < r.nextWrite := ((f.mem_written x.1).mp (List.mem_map_of_mem hx)).1

variable [Payload ε]

/-- What is written under a number in hands is filed under it, and no other envelope is touched. -/
theorem write {s : ℕ} (f : r.Filed (s ::ₘ claims) written taken)
    (b : r.Balanced permits (s ::ₘ claims)) (e : Envelope ε) :
    (r.write s e).Filed claims (written ++ [(s, e)]) taken where
  numbers := f.numbers
  nodup := by
    rw [List.map_append, List.nodup_append]
    refine ⟨f.nodup, List.nodup_singleton _, fun t ht u hu => ?_⟩
    rintro rfl
    obtain rfl : t = s := List.mem_singleton.mp hu
    exact ((f.mem_written t).mp ht).2 (Multiset.mem_cons_self t claims)
  mem_written t := by
    have hs := b.mem_window s (Multiset.mem_cons_self s claims)
    have hnot := (Multiset.nodup_cons.mp b.nodup).1
    change t ∈ (written ++ [(s, e)]).map Prod.fst ↔ t < r.nextWrite ∧ t ∉ claims
    rw [List.map_append, List.mem_append, f.mem_written, Multiset.mem_cons, not_or]
    constructor
    · rintro (⟨ht, -, hc⟩ | ht)
      · exact ⟨ht, hc⟩
      · obtain rfl : t = s := List.mem_singleton.mp ht
        exact ⟨hs.2, hnot⟩
    · rintro ⟨ht, hc⟩
      by_cases hts : t = s
      · exact Or.inr (List.mem_singleton.mpr hts)
      · exact Or.inl ⟨ht, hts, hc⟩
  of_taken x hx := by
    obtain ⟨w, hw, he⟩ := f.of_taken x hx
    exact ⟨w, List.mem_append_left _ hw, he⟩
  kept x hx hread := by
    have hread : r.nextRead ≤ x.1 := hread
    have hs := b.mem_window s (Multiset.mem_cons_self s claims)
    have hindex : (r.write s e).index x.1 = r.index x.1 := by simp [index]
    rw [hindex, slots_write, getElem?_modify_slots]
    rcases List.mem_append.mp hx with hx | hx
    · -- another number between the cursors has another slot
      have hne : r.index s ≠ r.index x.1 := by
        intro heq
        have hxs : x.1 = s := b.eq_of_index_eq ⟨hread, f.lt_nextWrite hx⟩ hs heq.symm
        have hmem := (f.mem_written x.1).mp (List.mem_map_of_mem hx)
        exact hmem.2 (hxs ▸ Multiset.mem_cons_self s claims)
      rw [if_neg hne]
      exact f.kept x hx hread
    · obtain rfl : x = (s, e) := List.mem_singleton.mp hx
      obtain ⟨t, ht⟩ : ∃ t, r.slots[r.index s]? = some t :=
        ⟨_, Array.getElem?_eq_getElem (b.index_lt s)⟩
      rw [if_pos rfl, ht]
      rfl

/-- What is taken next was written under the number of the read cursor. -/
theorem tryNext {q : Ring ε} {e : Envelope ε} (f : r.Filed claims written taken)
    (b : r.Balanced permits claims) (h : r.tryNext = (q, some e)) :
    q.Filed claims written (taken ++ [(r.nextRead, e)]) := by
  obtain ⟨he, -⟩ | ⟨slot, hslot, hf, he⟩ := r.tryNext_cases
  · rw [he] at h
    cases h
  rw [he] at h
  obtain ⟨hq, rfl⟩ : _ = q ∧ slot.envelope = e := by simpa using h
  obtain ⟨hlt, hnot⟩ := b.nextRead_of_filledAt ⟨slot, hslot, hf⟩
  obtain ⟨w, hw, hslotw⟩ : ∃ w, (r.nextRead, w) ∈ written ∧ slot.envelope = w.stamp := by
    obtain ⟨x, hx, hxr⟩ := List.mem_map.mp ((f.mem_written r.nextRead).mpr ⟨hlt, hnot⟩)
    have hkept := f.kept x hx hxr.ge
    rw [hxr, hslot] at hkept
    exact ⟨x.2, hxr ▸ hx, congrArg Slot.envelope (Option.some.inj hkept)⟩
  have hread : q.nextRead = r.nextRead + 1 := by rw [← hq]
  have hwrite : q.nextWrite = r.nextWrite := by rw [← hq]
  refine ⟨?_, f.nodup, ?_, ?_, fun x hx hle => ?_⟩
  · rw [hread, List.range_succ, List.map_append, f.numbers]
    rfl
  · rw [hwrite]
    exact f.mem_written
  · intro x hx
    rcases List.mem_append.mp hx with hx | hx
    · exact f.of_taken x hx
    · obtain rfl := List.mem_singleton.mp hx
      exact ⟨w, hw, hslotw⟩
  · -- the slot that was emptied is that of another number
    rw [hread] at hle
    have hne : r.index r.nextRead ≠ r.index x.1 := by
      intro heq
      have := b.eq_of_index_eq ⟨le_rfl, hlt⟩ ⟨by omega, f.lt_nextWrite hx⟩ heq
      omega
    have hindex : q.index x.1 = r.index x.1 := by simp [← hq, index, capacity]
    rw [hindex, ← hq, Array.getElem?_setIfInBounds_ne hne]
    exact f.kept x hx (by omega)

end Filed

theorem capacity_ofCapacity [Payload ε] {capacity : ℕ} (h : Ring.ofCapacity capacity = .ok r) :
    r.capacity = capacity := by
  unfold Ring.ofCapacity at h
  split at h
  · obtain rfl := Except.ok.inj h
    exact Array.size_replicate
  · cases h

/-- On an empty record a new ring is filed. -/
theorem filed_ofCapacity [Payload ε] {capacity : ℕ} (h : Ring.ofCapacity capacity = .ok r) :
    r.Filed 0 [] [] := by
  unfold Ring.ofCapacity at h
  split at h
  · obtain rfl := Except.ok.inj h
    exact ⟨rfl, List.nodup_nil, by simp, by simp, by simp⟩
  · cases h

end Ring

/-! ### What the parties have in their hands -/

namespace Party

/-- The permits in the hands of a party. -/
def permits : Party ε → ℕ
  | publisher p => p.permits
  | _ => 0

/-- The sequence numbers that a party has drawn and not yet written. -/
def claims : Party ε → Multiset ℕ
  | publisher p => p.claims
  | _ => 0

/-- What a party wants to publish and has not written. -/
def wares : Party ε → Multiset (ε × List Observer)
  | publisher p => p.loads
  | attempt e => {e.load}
  | _ => 0

/-- What a party has taken out of the ring and not dealt with. -/
def spoils : Party ε → Multiset (ε × List Observer)
  | consumer c => c.loads
  | closer c => c.loads
  | _ => 0

/-- A party that has not done anything yet. Who is draining at the beginning drains the ring
without closing it. -/
inductive Fresh : Party ε → Prop where
  | publisher (e : Envelope ε) : Fresh (.publisher (.waiting e))
  | attempt (e : Envelope ε) : Fresh (.attempt e)
  | consumer : Fresh (.consumer .checking)
  | closer : Fresh (.closer .marking)
  | drainer : Fresh (.closer (.draining []))

end Party

/-! ### A new queue -/

/-- There is a queue of every power of two. -/
theorem EventQueue.exists_ofCapacity [Payload ε] (k : ℕ) (observers : List Observer) :
    ∃ queue : EventQueue ε, EventQueue.ofCapacity (2 ^ k) observers = .ok queue := by
  unfold EventQueue.ofCapacity Ring.ofCapacity
  rw [if_pos (isPowerOfTwo_two_pow k)]
  exact ⟨_, rfl⟩

theorem EventQueue.ring_ofCapacity [Payload ε] {capacity : ℕ} {observers : List Observer}
    {queue : EventQueue ε} (h : EventQueue.ofCapacity capacity observers = .ok queue) :
    Ring.ofCapacity capacity = .ok queue.ring := by
  unfold EventQueue.ofCapacity at h
  cases hr : (Ring.ofCapacity capacity : Except QueueError (Ring ε)) with
  | error e => rw [hr] at h; cases h
  | ok ring => rw [hr] at h; rw [← Except.ok.inj h]

/-! ### What a move can do -/

namespace Traffic

@[simp] theorem ring_withRing (t : Traffic ε) (r : Ring ε) : (t.withRing r).ring = r := rfl

@[simp] theorem written_withRing (t : Traffic ε) (r : Ring ε) :
    (t.withRing r).written = t.written := rfl

@[simp] theorem taken_withRing (t : Traffic ε) (r : Ring ε) : (t.withRing r).taken = t.taken := rfl

variable [Payload ε] {t t' : Traffic ε} {p p' : Party ε} {n : ℕ} {cs : Multiset ℕ}

/-- What a move of a party does: `Deal t p t' p'` leads from a queue with its record and a party to
what becomes of both. -/
inductive Deal (t : Traffic ε) : Party ε → Traffic ε → Party ε → Prop where
  /-- A party goes on and nothing passes through the ring. -/
  | pass {p p' : Party ε} {r : Ring ε} (calm : t.ring.Calm r) (permits : p'.permits = p.permits)
    (claims : p'.claims = p.claims) (wares : p'.wares = p.wares) (spoils : p'.spoils = p.spoils) :
    Deal t p (t.withRing r) p'
  /-- A permit is taken. -/
  | acquire {p : Party ε} {e : Envelope ε} (hp : p = .publisher (.waiting e) ∨ p = .attempt e)
    (unsealed : t.ring.permitsClosed = false) (room : t.ring.free ≠ 0) :
    Deal t p (t.withRing { t.ring with free := t.ring.free - 1 }) (.publisher (.permitted e))
  /-- A sequence number is drawn. -/
  | claim {e : Envelope ε} : Deal t (.publisher (.permitted e)) (t.withRing t.ring.claim.1)
    (.publisher (.claimed e t.ring.nextWrite))
  /-- A slot is filled. -/
  | write {e : Envelope ε} {s : ℕ} : Deal t (.publisher (.claimed e s))
    ({ t with written := t.written ++ [(s, e)] }.withRing (t.ring.write s e)) (.publisher .written)
  /-- An envelope is taken. -/
  | take {p p' : Party ε} {r : Ring ε} {e : Envelope ε} (found : t.ring.tryNext = (r, some e))
    (permits : p.permits = 0 ∧ p'.permits = 0) (claims : p.claims = 0 ∧ p'.claims = 0)
    (wares : p.wares = 0 ∧ p'.wares = 0) (spoils : p'.spoils = p.spoils + {e.load}) :
    Deal t p ({ t with taken := t.taken ++ [(t.ring.nextRead, e)] }.withRing r) p'
  /-- The consumer is through with an envelope. -/
  | consume {e : Envelope ε} : Deal t (.consumer (.holding e))
    { t with consumed := t.consumed ++ [e] } (.consumer .checking)
  /-- An envelope is discarded. -/
  | discard {e : Envelope ε} {left : List (Envelope ε)} : Deal t (.closer (.drained (e :: left)))
    { t with discarded := t.discarded ++ [e], notes := t.notes ++ e.notes .abandoned }
    (.closer (.drained left))

theorem deal_publisher {q q' : Publisher ε} {r : Ring ε} (h : q.step t.ring = some (r, q')) :
    Deal t (.publisher q) ((t.recordWrite q).withRing r) (.publisher q') := by
  cases q with
  | waiting e =>
    unfold Publisher.step Ring.acquire at h
    by_cases hc : t.ring.permitsClosed = true
    · rw [if_pos hc] at h
      obtain ⟨rfl, rfl⟩ := Prod.mk.inj (Option.some.inj h)
      exact .pass (.refl _) rfl rfl rfl rfl
    · rw [if_neg hc] at h
      by_cases hf : t.ring.free = 0
      · rw [if_pos hf] at h
        cases h
      · rw [if_neg hf] at h
        obtain ⟨rfl, rfl⟩ := Prod.mk.inj (Option.some.inj h)
        exact .acquire (Or.inl rfl) (Bool.eq_false_iff.mpr hc) hf
  | permitted e =>
    obtain ⟨rfl, rfl⟩ := Prod.mk.inj (Option.some.inj h)
    exact .claim
  | claimed e s =>
    obtain ⟨rfl, rfl⟩ := Prod.mk.inj (Option.some.inj h)
    exact .write
  | written =>
    obtain ⟨rfl, rfl⟩ := Prod.mk.inj (Option.some.inj h)
    exact .pass t.ring.calm_notify rfl rfl rfl rfl
  | published | refused e error => cases h

theorem deal_attempt {e : Envelope ε} {m : Move (Traffic ε) (Party ε)}
    (h : move () t (.attempt e) = some m) :
    ∃ p', m = ⟨m.shared, some p', []⟩ ∧ Deal t (.attempt e) m.shared p' := by
  unfold move Ring.acquire at h
  by_cases hc : t.ring.permitsClosed = true
  · rw [if_pos hc] at h
    obtain rfl := Option.some.inj h
    exact ⟨_, rfl, .pass (.refl _) rfl rfl rfl rfl⟩
  · rw [if_neg hc] at h
    by_cases hf : t.ring.free = 0
    · rw [if_pos hf] at h
      obtain rfl := Option.some.inj h
      exact ⟨_, rfl, .pass (.refl _) rfl rfl rfl rfl⟩
    · rw [if_neg hf] at h
      obtain rfl := Option.some.inj h
      exact ⟨_, rfl, .acquire (Or.inr rfl) (Bool.eq_false_iff.mpr hc) hf⟩

/-- The record of a look at the ring that finds an envelope. -/
theorem recordTake_of_some {r : Ring ε} {e : Envelope ε} (h : t.ring.tryNext = (r, some e)) :
    t.recordTake = { t with taken := t.taken ++ [(t.ring.nextRead, e)] } := by
  rw [recordTake, h]

theorem recordTake_of_none {r : Ring ε} (h : t.ring.tryNext = (r, none)) : t.recordTake = t := by
  rw [recordTake, h]

theorem deal_consumer {c c' : Consumer ε} {r : Ring ε} (h : c.step t.ring = some (r, c')) :
    Deal t (.consumer c) ((t.recordConsumer c).withRing r) (.consumer c') := by
  cases c with
  | checking =>
    obtain ⟨rfl, rfl⟩ := Prod.mk.inj (Option.some.inj h)
    refine .pass (.refl _) rfl rfl rfl ?_
    cases t.ring.closed <;> rfl
  | trying =>
    unfold Consumer.step at h
    cases hq : t.ring.tryNext with
    | mk q found =>
      rw [hq] at h
      cases found with
      | none =>
        obtain ⟨rfl, rfl⟩ := Prod.mk.inj (Option.some.inj h)
        rw [recordConsumer, recordTake_of_none hq, Ring.eq_of_tryNext_none hq]
        exact .pass (.refl _) rfl rfl rfl rfl
      | some e =>
        obtain ⟨rfl, rfl⟩ := Prod.mk.inj (Option.some.inj h)
        rw [recordConsumer, recordTake_of_some hq]
        exact .take hq ⟨rfl, rfl⟩ ⟨rfl, rfl⟩ ⟨rfl, rfl⟩ (zero_add _).symm
  | listening =>
    have hcalm := t.ring.calm_await
    unfold Consumer.step at h
    cases hq : t.ring.await with
    | mk q stored =>
      rw [hq] at h hcalm
      cases stored <;> obtain ⟨rfl, rfl⟩ := Prod.mk.inj (Option.some.inj h) <;>
        exact .pass hcalm rfl rfl rfl rfl
  | parked =>
    simp only [Consumer.step] at h
    split at h
    · cases h
    · obtain ⟨rfl, rfl⟩ := Prod.mk.inj (Option.some.inj h)
      exact .pass (.refl _) rfl rfl rfl rfl
  | holding e => cases h
  | finished => cases h

theorem deal_closer {c c' : Closer ε} {r : Ring ε} (h : c.step t.ring = some (r, c')) :
    Deal t (.closer c) ((t.recordCloser c).withRing r) (.closer c') := by
  cases c with
  | marking =>
    unfold Closer.step Ring.markClosed at h
    cases hc : t.ring.closed <;> rw [hc] at h <;>
      obtain ⟨rfl, rfl⟩ := Prod.mk.inj (Option.some.inj h) <;>
      exact .pass ⟨rfl, rfl, rfl, rfl, id⟩ rfl rfl rfl rfl
  | sealing =>
    obtain ⟨rfl, rfl⟩ := Prod.mk.inj (Option.some.inj h)
    exact .pass ⟨rfl, rfl, rfl, rfl, fun _ => rfl⟩ rfl rfl rfl rfl
  | notifying =>
    obtain ⟨rfl, rfl⟩ := Prod.mk.inj (Option.some.inj h)
    exact .pass t.ring.calm_notify rfl rfl rfl rfl
  | draining es =>
    unfold Closer.step at h
    cases hq : t.ring.tryNext with
    | mk q found =>
      rw [hq] at h
      cases found with
      | none =>
        obtain ⟨rfl, rfl⟩ := Prod.mk.inj (Option.some.inj h)
        rw [recordCloser, recordTake_of_none hq, Ring.eq_of_tryNext_none hq]
        exact .pass (.refl _) rfl rfl rfl rfl
      | some e =>
        obtain ⟨rfl, rfl⟩ := Prod.mk.inj (Option.some.inj h)
        rw [recordCloser, recordTake_of_some hq]
        refine .take hq ⟨rfl, rfl⟩ ⟨rfl, rfl⟩ ⟨rfl, rfl⟩ ?_
        simp [Party.spoils, Closer.loads, ← Multiset.coe_add]
  | drained es => cases h

/-- Every move is a deal, after which the party goes on. -/
theorem deal_of_move {u : Unit} {m : Move (Traffic ε) (Party ε)} (h : move u t p = some m) :
    ∃ p', m = ⟨m.shared, some p', []⟩ ∧ Deal t p m.shared p' := by
  cases p with
  | publisher q =>
    obtain ⟨⟨r, q'⟩, hq, rfl⟩ := Option.map_eq_some_iff.mp h
    exact ⟨_, rfl, deal_publisher hq⟩
  | attempt e => exact deal_attempt h
  | consumer c =>
    cases c with
    | holding e =>
      obtain rfl := Option.some.inj h
      exact ⟨_, rfl, .consume⟩
    | _ =>
      unfold move at h
      obtain ⟨⟨r, c'⟩, hc, rfl⟩ := Option.map_eq_some_iff.mp h
      exact ⟨_, rfl, deal_consumer hc⟩
  | closer c =>
    cases c with
    | drained es =>
      cases es with
      | nil => cases h
      | cons e left =>
        obtain rfl := Option.some.inj h
        exact ⟨_, rfl, .discard⟩
    | _ =>
      unfold move at h
      obtain ⟨⟨r, c'⟩, hc, rfl⟩ := Option.map_eq_some_iff.mp h
      exact ⟨_, rfl, deal_closer hc⟩

/-- A step is a deal of one party, who keeps its place. -/
theorem deal_of_step {c d : Crowd (Traffic ε) (Party ε)} (h : Crowd.Step move c d) :
    ∃ p p' before after, c.threads = before ++ p :: after ∧ d.threads = before ++ p' :: after ∧
      move () c.shared p = some ⟨d.shared, some p', []⟩ ∧ Deal c.shared p d.shared p' := by
  obtain ⟨before, after, hm⟩ := h
  obtain ⟨p', hp', deal⟩ := deal_of_move hm
  rw [hp'] at hm ⊢
  exact ⟨_, p', before, after, rfl, by simp, hm, deal⟩

/-! ### What every deal keeps -/

/-- What was written so far. -/
def published (t : Traffic ε) : Multiset (ε × List Observer) := ↑(t.written.map fun w => w.2.load)

namespace Deal

variable (h : Deal t p t' p')

include h

theorem balanced (b : t.ring.Balanced (p.permits + n) (p.claims + cs)) :
    t'.ring.Balanced (p'.permits + n) (p'.claims + cs) := by
  cases h with
  | pass calm permits claims =>
    rw [permits, claims]
    exact b.congr calm.slots calm.free calm.nextRead calm.nextWrite
  | acquire hp _ room =>
    have hp : p.permits = 0 ∧ p.claims = 0 := by rcases hp with rfl | rfl <;> exact ⟨rfl, rfl⟩
    rw [hp.1, hp.2, zero_add, zero_add] at b
    have := b.acquire room
    rwa [add_comm, ← zero_add cs] at this
  | claim =>
    have b : t.ring.Balanced (n + 1) cs := by
      simpa [Party.permits, Party.claims, Publisher.permits, Publisher.claims, add_comm] using b
    have := b.claim
    rwa [← zero_add n, ← Multiset.singleton_add] at this
  | @write e s =>
    have b : t.ring.Balanced n (s ::ₘ cs) := by
      simpa [Party.permits, Party.claims, Publisher.permits, Publisher.claims] using b
    simpa [Party.permits, Party.claims, Publisher.permits, Publisher.claims] using b.write e
  | take found permits claims =>
    rw [permits.1, claims.1] at b
    rw [permits.2, claims.2]
    have := b.tryNext
    rwa [found] at this
  | consume | discard => exact b

theorem filed (b : t.ring.Balanced (p.permits + n) (p.claims + cs))
    (f : t.ring.Filed (p.claims + cs) t.written t.taken) :
    t'.ring.Filed (p'.claims + cs) t'.written t'.taken := by
  cases h with
  | pass calm _ claims =>
    rw [claims]
    exact f.congr calm.slots calm.nextRead calm.nextWrite
  | acquire hp =>
    have hp : p.claims = 0 := by rcases hp with rfl | rfl <;> rfl
    rw [hp] at f
    exact f.congr rfl rfl rfl
  | claim =>
    have f : t.ring.Filed cs t.written t.taken := by
      simpa [Party.claims, Publisher.claims] using f
    have := f.claim
    rwa [← Multiset.singleton_add] at this
  | @write e s =>
    have b : t.ring.Balanced n (s ::ₘ cs) := by
      simpa [Party.permits, Party.claims, Publisher.permits, Publisher.claims] using b
    have f : t.ring.Filed (s ::ₘ cs) t.written t.taken := by
      simpa [Party.claims, Publisher.claims] using f
    simpa [Party.claims, Publisher.claims] using f.write b e
  | take found _ claims =>
    rw [claims.1] at b f
    rw [claims.2]
    exact f.tryNext b found
  | consume | discard => exact f

theorem capacity_eq : t'.ring.capacity = t.ring.capacity := by
  cases h with
  | pass calm => exact congrArg Array.size calm.slots
  | @write e s => exact Ring.capacity_write t.ring s e
  | @take _ _ r e found =>
    obtain ⟨he, -⟩ | ⟨s, -, -, he⟩ := t.ring.tryNext_cases
    · cases (Prod.mk.inj (he.symm.trans found)).2
    · rw [← (Prod.mk.inj (he.symm.trans found)).1]
      exact Array.size_setIfInBounds
  | acquire | claim | consume | discard => rfl

/-- What a party lets go of was written. -/
theorem published_add_wares : t'.published + p'.wares = t.published + p.wares := by
  cases h with
  | pass _ _ _ wares => rw [wares]; rfl
  | acquire hp => rcases hp with rfl | rfl <;> rfl
  | @write e s =>
    change (↑((t.written ++ [(s, e)]).map fun w => w.2.load) : Multiset _) + 0 =
      ↑(t.written.map fun w => w.2.load) + {e.load}
    rw [List.map_append, ← Multiset.coe_add, add_zero]
    rfl
  | take _ _ _ wares => rw [wares.1, wares.2]; rfl
  | claim | consume | discard => rfl

end Deal

/-! ### At any time -/

/-- What is so of a queue at any time: the ring is balanced against what is in the parties' hands,
what was written and taken is on file, and everything offered was written once or is in hands. -/
structure Sound (capacity : ℕ) (offered : Multiset (ε × List Observer))
    (d : Crowd (Traffic ε) (Party ε)) : Prop where
  balanced : d.shared.ring.Balanced (d.threads.map Party.permits).sum
    (d.threads.map Party.claims).sum
  filed : d.shared.ring.Filed (d.threads.map Party.claims).sum d.shared.written d.shared.taken
  capacity_eq : d.shared.ring.capacity = capacity
  offered_eq : d.shared.published + (d.threads.map Party.wares).sum = offered

/-- A move keeps a queue sound. -/
theorem Sound.step {capacity : ℕ} {offered : Multiset (ε × List Observer)}
    {c d : Crowd (Traffic ε) (Party ε)} (h : Sound capacity offered c)
    (step : Crowd.Step Traffic.move c d) : Sound capacity offered d := by
  obtain ⟨p, p', before, after, hc, hd, -, deal⟩ := deal_of_step step
  obtain ⟨hb, hf, hcap, ho⟩ := h
  simp only [hc, Crowd.sum_map_thread] at hb hf ho
  constructor
  · simpa only [hd, Crowd.sum_map_thread] using deal.balanced hb
  · simpa only [hd, Crowd.sum_map_thread] using deal.filed hb hf
  · exact deal.capacity_eq.trans hcap
  · simp only [hd, Crowd.sum_map_thread]
    rw [← add_assoc, deal.published_add_wares, add_assoc]
    exact ho

theorem Sound.reaches {capacity : ℕ} {offered : Multiset (ε × List Observer)}
    {c d : Crowd (Traffic ε) (Party ε)} (h : Sound capacity offered c)
    (reach : Crowd.Reaches Traffic.move c d) : Sound capacity offered d :=
  reach.keeps h fun step h => h.step step

/-- A queue that was made just now, with parties that have not done anything yet. -/
theorem sound_ofCapacity {capacity : ℕ} {observers : List Observer} {queue : EventQueue ε}
    (hqueue : EventQueue.ofCapacity capacity observers = .ok queue) {parties : List (Party ε)}
    (fresh : ∀ p ∈ parties, p.Fresh) :
    Sound capacity (parties.map Party.wares).sum ⟨{ queue }, parties⟩ := by
  have hring := EventQueue.ring_ofCapacity hqueue
  have hnone : ∀ p ∈ parties, p.permits = 0 ∧ p.claims = 0 := fun p hp => by
    cases fresh p hp <;> exact ⟨rfl, rfl⟩
  have hpermits : (parties.map Party.permits).sum = 0 :=
    List.sum_eq_zero (by simpa using fun p hp => (hnone p hp).1)
  have hclaims : (parties.map Party.claims).sum = 0 :=
    List.sum_eq_zero (by simpa using fun p hp => (hnone p hp).2)
  constructor
  · rw [hpermits, hclaims]
    exact (Ring.balanced_ofCapacity hring).1
  · rw [hclaims]
    exact Ring.filed_ofCapacity hring
  · exact Ring.capacity_ofCapacity hring
  · exact zero_add _

/-! ### Order -/

/-- The traffic of a queue of so many slots, where this was offered for publication, is in
**order**. -/
structure Orderly (capacity : ℕ) (offered : Multiset (ε × List Observer))
    (d : Crowd (Traffic ε) (Party ε)) : Prop where
  /-- A publisher finds the slot of its number unfilled. -/
  unfilled : ∀ e s, .publisher (.claimed e s) ∈ d.threads → ∃ slot,
    d.shared.ring.slots[d.shared.ring.index s]? = some slot ∧ slot.filled = false
  /-- Everything offered was written once or is in the hands of who offered it. -/
  offered_eq : d.shared.published + (d.threads.map Party.wares).sum = offered
  /-- No number was written twice. -/
  nodup : (d.shared.written.map Prod.fst).Nodup
  /-- The numbers were taken one after the other. -/
  numbers : d.shared.taken.map Prod.fst = List.range d.shared.ring.nextRead
  /-- What was taken under a number is what was written under it. -/
  mem_taken_iff : ∀ s e, (s, e) ∈ d.shared.taken ↔
    s < d.shared.ring.nextRead ∧ ∃ w, (s, w) ∈ d.shared.written ∧ e = w.stamp
  /-- What was written and not taken lies in its slot. -/
  kept : ∀ s w, (s, w) ∈ d.shared.written → d.shared.ring.nextRead ≤ s →
    d.shared.ring.slots[d.shared.ring.index s]? = some { envelope := w.stamp, filled := true }
  /-- The slots claimed and not taken are those of the permits in hands and of the numbers between
  the cursors. -/
  length_eq : d.shared.ring.length = (d.threads.map Party.permits).sum +
    (d.shared.ring.nextWrite - d.shared.ring.nextRead)
  length_le : d.shared.ring.length ≤ capacity

omit [Payload ε] in
theorem orderly_of_sound {capacity : ℕ} {offered : Multiset (ε × List Observer)}
    {d : Crowd (Traffic ε) (Party ε)} (h : Sound capacity offered d) :
    Orderly capacity offered d where
  unfilled e s hp := by
    have hs : s ∈ (d.threads.map Party.claims).sum := by
      obtain ⟨before, after, hsplit⟩ := List.append_of_mem hp
      rw [hsplit, Crowd.sum_map_thread]
      exact Multiset.mem_add.mpr (Or.inl (Multiset.mem_singleton_self s))
    have hlt := h.balanced.index_lt s
    refine ⟨_, Array.getElem?_eq_getElem hlt, Bool.eq_false_iff.mpr fun hf => ?_⟩
    exact h.balanced.not_filledAt_of_mem hs ⟨_, Array.getElem?_eq_getElem hlt, hf⟩
  offered_eq := h.offered_eq
  nodup := h.filed.nodup
  numbers := h.filed.numbers
  mem_taken_iff s e := by
    have hnumber : ∀ x ∈ d.shared.taken, x.1 < d.shared.ring.nextRead := fun x hx => by
      have := List.mem_map_of_mem (f := Prod.fst) hx
      rwa [h.filed.numbers, List.mem_range] at this
    constructor
    · exact fun hx => ⟨hnumber _ hx, h.filed.of_taken _ hx⟩
    · rintro ⟨hs, w, hw, rfl⟩
      rw [← List.mem_range, ← h.filed.numbers] at hs
      obtain ⟨x, hx, rfl⟩ := List.mem_map.mp hs
      obtain ⟨v, hv, hxv⟩ := h.filed.of_taken x hx
      -- a number was written once
      obtain rfl : v = w :=
        (Prod.mk.inj (List.inj_on_of_nodup_map h.filed.nodup hv hw rfl)).2
      rwa [← hxv]
  kept s w hw := h.filed.kept (s, w) hw
  length_eq := by
    have := h.balanced.permits_eq
    unfold Ring.length
    omega
  length_le := h.capacity_eq ▸ Nat.sub_le _ _

end Traffic

/-- **Order in the traffic.** There is a queue of every power of two. Whatever publishers, consumers
and closers do with it in whatever order, a publisher finds its slot unfilled, every envelope is
taken once, in the order of the sequence numbers and as its publisher wrote it, and no more slots
are claimed than there are. -/
theorem EventQueue.orderly [Payload ε] (k : ℕ) (observers : List Observer)
    {parties : List (Party ε)} (fresh : ∀ p ∈ parties, p.Fresh) :
    ∃ queue, EventQueue.ofCapacity (2 ^ k) observers = .ok queue ∧
      ∀ d, Crowd.Reaches Traffic.move ⟨{ queue }, parties⟩ d →
        Traffic.Orderly (2 ^ k) (parties.map Party.wares).sum d := by
  obtain ⟨queue, hqueue⟩ : ∃ queue : EventQueue ε, _ :=
    EventQueue.exists_ofCapacity k observers
  have hsound := Traffic.sound_ofCapacity hqueue fresh
  exact ⟨queue, hqueue, fun d reach => Traffic.orderly_of_sound (hsound.reaches reach)⟩

namespace Traffic

/-- Three publishers, one who does not wait, a consumer and a closer. -/
def sampleParties : List (Party EventKind) :=
  [.publisher (.waiting { event := .conversion, observers := [{ tag := "a" }] }),
    .publisher (.waiting { event := .middleware }), .publisher (.waiting { event := .dispatch }),
    .attempt { event := .handler }, .consumer .checking, .closer .marking]

/-- A run with two slots: the first two publishers finish in the other order, there is no room for
the one who does not wait, and the third publisher uses the first slot again. -/
def sampleRun : Crowd (Traffic EventKind) (Party EventKind) :=
  (Crowd.follow move () ([0, 1, 1, 0, 0, 3, 1] ++ [4, 4, 4, 2, 2, 4, 4, 4] ++ [2, 2, 5, 5, 5, 5, 5])
    ⟨{ queue := { ring := { slots := Array.replicate 2 { envelope := .empty }, free := 2 } } },
      sampleParties⟩).2

/-- The sample is in order, although it was written out of order. -/
theorem orderly_sample :
    (∀ p ∈ sampleParties, p.Fresh) ∧
      sampleRun.shared.written.map Prod.fst = [1, 0, 2] ∧
      sampleRun.shared.taken.map (fun x => (x.1, x.2.event)) =
        [(0, .middleware), (1, .conversion), (2, .dispatch)] ∧
      Orderly 2 (sampleParties.map Party.wares).sum sampleRun := by
  have hfresh : ∀ p ∈ sampleParties, p.Fresh := by
    simp only [sampleParties, List.mem_cons, List.not_mem_nil, or_false]
    rintro p (rfl | rfl | rfl | rfl | rfl | rfl) <;> constructor
  obtain ⟨queue, hqueue, h⟩ := EventQueue.orderly 1 [] hfresh
  obtain rfl : _ = queue := Except.ok.inj hqueue
  exact ⟨hfresh, by decide, by decide,
    h _ (Crowd.reaches_iff_exists_run.mpr ⟨_, Crowd.run_follow ..⟩)⟩

end Traffic

end Switchboard
