import Mathlib.Tactic
import Switchboard.Queue.Parties

/-!
# The balance of a ring

A ring whose publishers and consumers are at any of their steps. `Ring.Balanced` ties the permits,
the sequence numbers and the marks of the slots together: every slot is free, promised to a
publisher, or filled and between the two cursors. From it follows that a publisher writes into an
unfilled slot and that nothing gets lost on the way:

* `Publisher.step_spec`, `Consumer.step_spec`, `Closer.step_spec`: every step of a party keeps the
  balance, and what ring and party carry together stays what it is.
-/

namespace Switchboard

variable {ε : Type}

/-- What an envelope carries, whether or not it was stamped. -/
def Envelope.load (e : Envelope ε) : ε × List Observer := (e.event, e.observers)

/-- What a slot carries: nothing unless it is filled. -/
def Slot.loads (s : Slot ε) : Multiset (ε × List Observer) :=
  if s.filled then {s.envelope.load} else 0

namespace Ring

variable {r : Ring ε} {permits : ℕ} {claims : Multiset ℕ}

/-- What the slots carry. -/
def loads (r : Ring ε) : Multiset (ε × List Observer) := (r.slots.toList.map Slot.loads).sum

/-- Whether the slot of an index is filled. -/
def FilledAt (r : Ring ε) (i : ℕ) : Prop := ∃ s, r.slots[i]? = some s ∧ s.filled = true

/-- A ring is **balanced** with so many permits in hands and these sequence numbers drawn but not
yet written: each slot is free, promised, or between the cursors, and the filled slots are those
between the cursors whose number was written. -/
structure Balanced (r : Ring ε) (permits : ℕ) (claims : Multiset ℕ) : Prop where
  capacity_pos : 0 < r.capacity
  read_le_write : r.nextRead ≤ r.nextWrite
  permits_eq : r.free + permits + (r.nextWrite - r.nextRead) = r.capacity
  nodup : claims.Nodup
  mem_window : ∀ s ∈ claims, r.nextRead ≤ s ∧ s < r.nextWrite
  filled_iff : ∀ i < r.capacity, r.FilledAt i ↔
    ∃ s, r.nextRead ≤ s ∧ s < r.nextWrite ∧ s ∉ claims ∧ s % r.capacity = i

/-! ### Sequence numbers and slots -/

/-- Between the cursors no two sequence numbers share a slot. -/
theorem Balanced.eq_of_index_eq (h : r.Balanced permits claims) {s t : ℕ}
    (hs : r.nextRead ≤ s ∧ s < r.nextWrite) (ht : r.nextRead ≤ t ∧ t < r.nextWrite)
    (he : s % r.capacity = t % r.capacity) : s = t := by
  have hw := h.permits_eq
  wlog hle : s ≤ t generalizing s t
  · exact (this ht hs he.symm (by omega)).symm
  have hd : r.capacity ∣ t - s := Nat.dvd_of_mod_eq_zero (Nat.sub_mod_eq_zero_of_mod_eq he.symm)
  have := Nat.eq_zero_of_dvd_of_lt hd (by omega)
  omega

theorem Balanced.index_lt (h : r.Balanced permits claims) (s : ℕ) : r.index s < r.capacity :=
  Nat.mod_lt _ h.capacity_pos

/-- The slot of a number that was drawn but not written is unfilled: a publisher never overruns an
envelope that was not taken. -/
theorem Balanced.not_filledAt_of_mem (h : r.Balanced permits claims) {s : ℕ} (hs : s ∈ claims) :
    ¬ r.FilledAt (r.index s) := by
  rw [h.filled_iff _ (h.index_lt s)]
  rintro ⟨t, h1, h2, ht, he⟩
  exact ht (h.eq_of_index_eq ⟨h1, h2⟩ (h.mem_window s hs) he ▸ hs)

/-- If the slot under the read cursor is filled, its number was drawn and written. -/
theorem Balanced.nextRead_of_filledAt (h : r.Balanced permits claims)
    (hf : r.FilledAt (r.index r.nextRead)) : r.nextRead < r.nextWrite ∧ r.nextRead ∉ claims := by
  obtain ⟨t, h1, h2, ht, he⟩ := (h.filled_iff _ (h.index_lt _)).mp hf
  obtain rfl : t = r.nextRead := h.eq_of_index_eq ⟨h1, h2⟩ ⟨le_rfl, by omega⟩ he
  exact ⟨h2, ht⟩

/-- With no number in hands, a ring whose next slot is unfilled carries nothing. -/
theorem Balanced.loads_eq_zero (b : r.Balanced permits 0)
    (h : ¬ r.FilledAt (r.index r.nextRead)) : r.loads = 0 := by
  have hnone : ∀ i < r.capacity, ¬ r.FilledAt i := by
    intro i hi hf
    obtain ⟨s, hread, hwrite, -⟩ := (b.filled_iff i hi).mp hf
    refine h ((b.filled_iff _ (b.index_lt _)).mpr ⟨r.nextRead, le_rfl, ?_, by simp, rfl⟩)
    omega
  refine List.sum_eq_zero fun load hload => ?_
  obtain ⟨s, hs, rfl⟩ := List.mem_map.mp hload
  obtain ⟨i, hi, his⟩ := List.getElem_of_mem hs
  have hi : i < r.slots.size := by simpa using hi
  refine if_neg fun hf => hnone i hi ⟨s, ?_, hf⟩
  rw [Array.getElem?_eq_getElem hi, ← his, Array.getElem_toList]

/-- If no slot is claimed, nobody has a permit or a number, and nothing is carried. -/
theorem Balanced.of_length_eq_zero (h : r.Balanced permits claims) (hlength : r.length = 0) :
    permits = 0 ∧ claims = 0 ∧ r.loads = 0 := by
  have hp := h.permits_eq
  have hr := h.read_le_write
  have hl : r.capacity - r.free = 0 := hlength
  have hclaims : claims = 0 := Multiset.eq_zero_of_forall_notMem fun s hs => by
    have := h.mem_window s hs
    omega
  subst hclaims
  refine ⟨by omega, rfl, h.loads_eq_zero fun hf => ?_⟩
  have := (h.nextRead_of_filledAt hf).1
  omega

/-! ### Changing one slot -/

/-- What a list of slots carries changes with the slot that is changed. -/
theorem sum_loads_modify {l : List (Slot ε)} {i : ℕ} {s : Slot ε} (h : l[i]? = some s)
    (f : Slot ε → Slot ε) :
    ((l.modify i f).map Slot.loads).sum + s.loads =
      (l.map Slot.loads).sum + (f s).loads := by
  obtain ⟨hi, hs⟩ := List.getElem?_eq_some_iff.mp h
  have hl : l.take i ++ s :: l.drop (i + 1) = l := by
    rw [← hs, List.cons_getElem_drop_succ, List.take_append_drop]
  have hsum : (l.map Slot.loads).sum =
      ((l.take i ++ s :: l.drop (i + 1)).map Slot.loads).sum := by rw [hl]
  rw [List.modify_eq_take_cons_drop hi, hs, hsum]
  simp only [List.map_append, List.map_cons, List.sum_append, List.sum_cons]
  abel

theorem getElem?_modify_slots (r : Ring ε) (i j : ℕ) (f : Slot ε → Slot ε) :
    (r.slots.modify i f)[j]? = if i = j then r.slots[j]?.map f else r.slots[j]? :=
  Array.getElem?_modify

/-! ### Steps that leave the slots alone -/

theorem Balanced.acquire (h : r.Balanced permits claims) (hfree : r.free ≠ 0) :
    Balanced { r with free := r.free - 1 } (permits + 1) claims where
  capacity_pos := h.capacity_pos
  read_le_write := h.read_le_write
  permits_eq := by
    have := h.permits_eq
    change r.free - 1 + (permits + 1) + (r.nextWrite - r.nextRead) = r.capacity
    omega
  nodup := h.nodup
  mem_window := h.mem_window
  filled_iff := h.filled_iff

theorem Balanced.claim (h : r.Balanced (permits + 1) claims) :
    r.claim.1.Balanced permits (r.nextWrite ::ₘ claims) where
  capacity_pos := h.capacity_pos
  read_le_write := Nat.le_succ_of_le h.read_le_write
  permits_eq := by
    have hp := h.permits_eq
    have hr := h.read_le_write
    change r.free + permits + (r.nextWrite + 1 - r.nextRead) = r.capacity
    omega
  nodup := Multiset.nodup_cons.mpr ⟨fun hc => by
    have := h.mem_window _ hc
    omega, h.nodup⟩
  mem_window s hs := by
    change r.nextRead ≤ s ∧ s < r.nextWrite + 1
    have hr := h.read_le_write
    rcases Multiset.mem_cons.mp hs with rfl | hs
    · omega
    · have := h.mem_window s hs
      omega
  filled_iff i hi := by
    have h0 := h.filled_iff i hi
    refine h0.trans ?_
    constructor
    · rintro ⟨s, h1, h2, hs, he⟩
      have hne : s ≠ r.nextWrite := by omega
      exact ⟨s, h1, Nat.lt_succ_of_lt h2, by simp [hne, hs], he⟩
    · rintro ⟨s, h1, h2, hs, he⟩
      rw [Multiset.mem_cons, not_or] at hs
      have h2 : s < r.nextWrite + 1 := h2
      exact ⟨s, h1, by omega, hs.2, he⟩

/-- What does not concern slots, permits or cursors keeps the balance. -/
theorem Balanced.congr {r' : Ring ε} (h : r.Balanced permits claims) (hslots : r'.slots = r.slots)
    (hfree : r'.free = r.free) (hread : r'.nextRead = r.nextRead)
    (hwrite : r'.nextWrite = r.nextWrite) : r'.Balanced permits claims := by
  have hcap : r'.capacity = r.capacity := by simp [capacity, hslots]
  refine ⟨?_, ?_, ?_, h.nodup, ?_, fun i hi => ?_⟩
  · rw [hcap]; exact h.capacity_pos
  · rw [hread, hwrite]; exact h.read_le_write
  · rw [hfree, hread, hwrite, hcap]; exact h.permits_eq
  · rw [hread, hwrite]; exact h.mem_window
  · rw [hcap] at hi ⊢
    rw [hread, hwrite, ← h.filled_iff i hi, FilledAt, FilledAt, hslots]

theorem Balanced.notify (h : r.Balanced permits claims) : r.notify.Balanced permits claims := by
  unfold Ring.notify
  split <;> exact h.congr rfl rfl rfl rfl

@[simp] theorem loads_notify (r : Ring ε) : r.notify.loads = r.loads := by
  unfold Ring.notify
  split <;> rfl

@[simp] theorem permitsClosed_notify (r : Ring ε) :
    r.notify.permitsClosed = r.permitsClosed := by
  unfold Ring.notify
  split <;> rfl

@[simp] theorem closed_notify (r : Ring ε) : r.notify.closed = r.closed := by
  unfold Ring.notify
  split <;> rfl

variable [Payload ε]

/-! ### Writing -/

/-- The slots after a write. -/
theorem slots_write (r : Ring ε) (s : ℕ) (e : Envelope ε) :
    (r.write s e).slots = r.slots.modify (r.index s) fun t =>
      { envelope := (t.envelope.become e).1, filled := true } := rfl

@[simp] theorem capacity_write (r : Ring ε) (s : ℕ) (e : Envelope ε) :
    (r.write s e).capacity = r.capacity := by
  simp [capacity, slots_write]

/-- After a write the slot of its number is filled, and the others are as they were. -/
theorem filledAt_write {s : ℕ} (hs : r.index s < r.capacity) (e : Envelope ε) (i : ℕ) :
    (r.write s e).FilledAt i ↔ i = r.index s ∨ r.FilledAt i := by
  rw [FilledAt, slots_write, getElem?_modify_slots]
  by_cases hi : r.index s = i
  · subst hi
    obtain ⟨t, ht⟩ : ∃ t, r.slots[r.index s]? = some t := ⟨_, Array.getElem?_eq_getElem hs⟩
    simp [ht]
  · rw [if_neg hi]
    exact ⟨Or.inr, fun h => h.resolve_left (Ne.symm hi)⟩

/-- Writing under a number that was drawn keeps the balance. -/
theorem Balanced.write {s : ℕ} (h : r.Balanced permits (s ::ₘ claims)) (e : Envelope ε) :
    (r.write s e).Balanced permits claims where
  capacity_pos := by simpa using h.capacity_pos
  read_le_write := h.read_le_write
  permits_eq := (capacity_write r s e).symm ▸ h.permits_eq
  nodup := (Multiset.nodup_cons.mp h.nodup).2
  mem_window t ht := h.mem_window t (Multiset.mem_cons_of_mem ht)
  filled_iff i hi := by
    rw [capacity_write] at hi ⊢
    have hs := h.mem_window s (Multiset.mem_cons_self s claims)
    have hnot := (Multiset.nodup_cons.mp h.nodup).1
    rw [filledAt_write (h.index_lt s), h.filled_iff i hi]
    constructor
    · rintro (rfl | ⟨t, h1, h2, ht, he⟩)
      · exact ⟨s, hs.1, hs.2, hnot, rfl⟩
      · exact ⟨t, h1, h2, fun hc => ht (Multiset.mem_cons_of_mem hc), he⟩
    · rintro ⟨t, h1, h2, ht, he⟩
      by_cases hts : t = s
      · exact Or.inl (hts ▸ he.symm)
      · exact Or.inr ⟨t, h1, h2, by simp [hts, ht], he⟩

/-- A write under a number that was drawn adds its envelope to what the ring carries. -/
theorem Balanced.loads_write {s : ℕ} (h : r.Balanced permits (s ::ₘ claims)) (e : Envelope ε) :
    (r.write s e).loads = r.loads + {e.load} := by
  have hs := h.not_filledAt_of_mem (Multiset.mem_cons_self s claims)
  obtain ⟨t, ht⟩ : ∃ t, r.slots[r.index s]? = some t :=
    ⟨_, Array.getElem?_eq_getElem (h.index_lt s)⟩
  have hget : r.slots.toList[r.index s]? = some t := by rw [Array.getElem?_toList, ht]
  have hempty : t.loads = 0 := if_neg fun hf => hs ⟨t, ht, hf⟩
  have hsum := sum_loads_modify hget fun t =>
    { envelope := (t.envelope.become e).1, filled := true }
  rw [hempty, add_zero] at hsum
  rw [loads, slots_write, Array.toList_modify, hsum]
  rfl

/-! ### Taking -/

/-- What taking the next envelope comes to: either the slot under the read cursor is unfilled and
nothing happens, or its envelope is taken and the slot is free again. -/
theorem tryNext_cases (r : Ring ε) :
    (r.tryNext = (r, none) ∧ ¬ r.FilledAt (r.index r.nextRead)) ∨
    ∃ s, r.slots[r.index r.nextRead]? = some s ∧ s.filled = true ∧
      r.tryNext = ({ r with
        slots := r.slots.setIfInBounds (r.index r.nextRead) { envelope := .empty, filled := false }
        nextRead := r.nextRead + 1
        free := r.free + 1 }, some s.envelope) := by
  unfold tryNext
  cases hs : r.slots[r.index r.nextRead]? with
  | none => exact Or.inl ⟨rfl, by simp [FilledAt, hs]⟩
  | some s =>
    cases hf : s.filled with
    | true => exact Or.inr ⟨s, rfl, hf, by simp [hf, Envelope.take]⟩
    | false => exact Or.inl ⟨by simp [hf], by simp [FilledAt, hs, hf]⟩

/-- Taking the next envelope keeps the balance. -/
theorem Balanced.tryNext (h : r.Balanced permits claims) :
    r.tryNext.1.Balanced permits claims := by
  obtain ⟨he, -⟩ | ⟨s, hs, hf, he⟩ := r.tryNext_cases
  · rw [he]; exact h
  rw [he]
  obtain ⟨hlt, hnot⟩ := h.nextRead_of_filledAt ⟨s, hs, hf⟩
  set r' : Ring ε := { r with
    slots := r.slots.setIfInBounds (r.index r.nextRead) { envelope := .empty, filled := false }
    nextRead := r.nextRead + 1
    free := r.free + 1 } with hr'
  have hcap : r'.capacity = r.capacity := by simp [hr', capacity]
  have hfilled : ∀ i, r'.FilledAt i ↔ i ≠ r.index r.nextRead ∧ r.FilledAt i := by
    intro i
    have hidx : r.index r.nextRead < r.slots.size := h.index_lt _
    simp only [FilledAt, hr', Array.getElem?_setIfInBounds]
    by_cases hi : r.index r.nextRead = i
    · subst hi
      simp [hidx]
    · simp [hi, Ne.symm hi]
  refine ⟨?_, hlt, ?_, h.nodup, fun t ht => ?_, fun i hi => ?_⟩
  · rw [hcap]; exact h.capacity_pos
  · have hp := h.permits_eq
    change r.free + 1 + permits + (r.nextWrite - (r.nextRead + 1)) = r'.capacity
    omega
  · have hw := h.mem_window t ht
    have hne : t ≠ r.nextRead := fun hc => hnot (hc ▸ ht)
    change r.nextRead + 1 ≤ t ∧ t < r.nextWrite
    omega
  · rw [hcap] at hi ⊢
    rw [hfilled, h.filled_iff i hi]
    constructor
    · rintro ⟨hne, t, h1, h2, ht, rfl⟩
      have hr : t ≠ r.nextRead := fun hc => hne (hc ▸ rfl)
      exact ⟨t, by change r.nextRead + 1 ≤ t; omega, h2, ht, rfl⟩
    · rintro ⟨t, h1, h2, ht, rfl⟩
      have h1 : r.nextRead + 1 ≤ t := h1
      have h2 : t < r.nextWrite := h2
      refine ⟨fun hc => ?_, t, by omega, h2, ht, rfl⟩
      have := h.eq_of_index_eq ⟨by omega, h2⟩ ⟨le_rfl, hlt⟩ hc
      omega

/-- What was taken is what the ring carries no longer. -/
theorem loads_tryNext {q : Ring ε} {e : Envelope ε} (h : r.tryNext = (q, some e)) :
    r.loads = q.loads + {e.load} := by
  obtain ⟨he, -⟩ | ⟨s, hs, hf, he⟩ := r.tryNext_cases
  · rw [he] at h
    cases h
  · rw [he] at h
    obtain ⟨rfl, rfl⟩ : _ = q ∧ s.envelope = e := by simpa using h
    have hget : r.slots.toList[r.index r.nextRead]? = some s := by
      rw [Array.getElem?_toList, hs]
    have hsum := sum_loads_modify hget fun _ => { envelope := .empty, filled := false }
    have hempty : Slot.loads { envelope := (.empty : Envelope ε), filled := false } = 0 := rfl
    have hfull : s.loads = {s.envelope.load} := if_pos hf
    rw [hempty, add_zero, hfull] at hsum
    rw [loads, ← hsum, loads, Array.toList_setIfInBounds, List.set_eq_modify]

/-- Where nothing is taken the ring stays what it is. -/
theorem eq_of_tryNext_none {q : Ring ε} (h : r.tryNext = (q, none)) : q = r := by
  obtain ⟨he, -⟩ | ⟨s, -, -, he⟩ := r.tryNext_cases
  · rw [he] at h
    exact (Prod.mk.inj h).1.symm
  · rw [he] at h
    cases (Prod.mk.inj h).2

/-- Taking does not close anything. -/
theorem flags_tryNext (r : Ring ε) :
    r.tryNext.1.permitsClosed = r.permitsClosed ∧ r.tryNext.1.closed = r.closed := by
  obtain ⟨he, -⟩ | ⟨s, -, -, he⟩ := r.tryNext_cases <;> rw [he] <;> exact ⟨rfl, rfl⟩

/-! ### The empty ring -/

/-- A new ring is balanced and carries nothing. -/
theorem balanced_ofCapacity {capacity : ℕ} (h : Ring.ofCapacity capacity = .ok r) :
    r.Balanced 0 0 ∧ r.loads = 0 := by
  unfold Ring.ofCapacity at h
  split at h
  · rename_i hc
    obtain rfl := Except.ok.inj h
    have hpos : 0 < capacity := by
      rcases Nat.eq_zero_or_pos capacity with rfl | hpos
      · cases hc
      · exact hpos
    have hsize : (Array.replicate capacity ({ envelope := .empty } : Slot ε)).size = capacity :=
      Array.size_replicate
    refine ⟨⟨?_, le_rfl, ?_, Multiset.nodup_zero, by simp, fun i hi => ?_⟩, ?_⟩
    · rw [Ring.capacity, hsize]; exact hpos
    · rw [Ring.capacity, hsize]; rfl
    · constructor
      · rintro ⟨s, hs, hf⟩
        obtain ⟨hi', rfl⟩ := Array.getElem?_eq_some_iff.mp hs
        rw [Array.getElem_replicate] at hf
        cases hf
      · rintro ⟨s, -, h2, -⟩
        exact absurd h2 (Nat.not_lt_zero s)
    · simp [loads, Slot.loads]
  · cases h

end Ring

/-! ### The parties -/

variable [Payload ε]

namespace Publisher

/-- The permits in the hands of a publisher. -/
def permits : Publisher ε → ℕ
  | permitted _ => 1
  | _ => 0

/-- The sequence numbers that a publisher has drawn and not yet written. -/
def claims : Publisher ε → Multiset ℕ
  | claimed _ sequence => {sequence}
  | _ => 0

/-- What a publisher still has in its hands. -/
def loads : Publisher ε → Multiset (ε × List Observer)
  | waiting e | permitted e | claimed e _ | refused e _ => {e.load}
  | written | published => 0

/-- A publisher gets hold of nothing new. -/
theorem loads_subset_of_step {p p' : Publisher ε} {r r' : Ring ε} (h : p.step r = some (r', p')) :
    p'.loads ⊆ p.loads := by
  cases p with
  | waiting e =>
    simp only [step] at h
    split at h
    · obtain ⟨rfl, rfl⟩ := Prod.mk.inj (Option.some.inj h)
      exact Multiset.Subset.refl _
    · cases h
    · obtain ⟨rfl, rfl⟩ := Prod.mk.inj (Option.some.inj h)
      exact Multiset.Subset.refl _
  | permitted e =>
    obtain ⟨rfl, rfl⟩ := Prod.mk.inj (Option.some.inj h)
    exact Multiset.Subset.refl _
  | claimed e s | written =>
    obtain ⟨rfl, rfl⟩ := Prod.mk.inj (Option.some.inj h)
    exact Multiset.zero_subset _
  | published | refused e error => cases h

/-- A step of a publisher keeps the balance, and what it lets go of is in the ring. It is only
turned away by a ring whose permits are closed. -/
theorem step_spec {p p' : Publisher ε} {r r' : Ring ε} (h : p.step r = some (r', p')) {n : ℕ}
    {cs : Multiset ℕ} (b : r.Balanced (p.permits + n) (p.claims + cs)) :
    r'.Balanced (p'.permits + n) (p'.claims + cs) ∧ r'.loads + p'.loads = r.loads + p.loads ∧
      r'.permitsClosed = r.permitsClosed ∧ r'.closed = r.closed ∧
      ∀ e error, p' = .refused e error → r'.permitsClosed = true := by
  cases p with
  | waiting e =>
    simp only [permits, claims, zero_add] at b
    unfold step Ring.acquire at h
    by_cases hc : r.permitsClosed = true
    · rw [if_pos hc] at h
      obtain ⟨rfl, rfl⟩ := Prod.mk.inj (Option.some.inj h)
      exact ⟨by simpa [permits, claims] using b, rfl, rfl, rfl, fun _ _ _ => hc⟩
    · rw [if_neg hc] at h
      by_cases hf : r.free = 0
      · rw [if_pos hf] at h
        cases h
      · rw [if_neg hf] at h
        obtain ⟨rfl, rfl⟩ := Prod.mk.inj (Option.some.inj h)
        refine ⟨?_, rfl, rfl, rfl, by simp⟩
        simpa [permits, claims, add_comm] using b.acquire hf
  | permitted e =>
    obtain ⟨rfl, rfl⟩ := Prod.mk.inj (Option.some.inj h)
    refine ⟨?_, rfl, rfl, rfl, by simp⟩
    have b : r.Balanced (n + 1) cs := by simpa [permits, claims, add_comm] using b
    have := b.claim
    rw [← zero_add n, ← Multiset.singleton_add] at this
    exact this
  | claimed e s =>
    obtain ⟨rfl, rfl⟩ := Prod.mk.inj (Option.some.inj h)
    have b : r.Balanced n (s ::ₘ cs) := by simpa [permits, claims] using b
    refine ⟨?_, ?_, rfl, rfl, by simp⟩
    · simpa [permits, claims] using b.write e
    · rw [b.loads_write e]
      exact add_zero _
  | written =>
    obtain ⟨rfl, rfl⟩ := Prod.mk.inj (Option.some.inj h)
    exact ⟨b.notify, by rw [Ring.loads_notify]; rfl, r.permitsClosed_notify, r.closed_notify,
      by simp⟩
  | published => cases h
  | refused e error => cases h

end Publisher

namespace Consumer

/-- What the consumer has in its hands. -/
def loads : Consumer ε → Multiset (ε × List Observer)
  | holding e => {e.load}
  | _ => 0

/-- A step of the consumer keeps the balance, and what it takes was in the ring. -/
theorem step_spec {c c' : Consumer ε} {r r' : Ring ε} (h : c.step r = some (r', c')) {n : ℕ}
    {cs : Multiset ℕ} (b : r.Balanced n cs) :
    r'.Balanced n cs ∧ r'.loads + c'.loads = r.loads + c.loads ∧
      r'.permitsClosed = r.permitsClosed ∧ r'.closed = r.closed := by
  cases c with
  | checking =>
    obtain ⟨rfl, rfl⟩ := Prod.mk.inj (Option.some.inj h)
    refine ⟨b, ?_, rfl, rfl⟩
    cases r.closed <;> rfl
  | trying =>
    have hb := b.tryNext
    obtain ⟨hp, hc⟩ := r.flags_tryNext
    unfold step at h
    cases hq : r.tryNext with
    | mk q found =>
      rw [hq] at h hb hp hc
      cases found with
      | none =>
        obtain ⟨rfl, rfl⟩ := Prod.mk.inj (Option.some.inj h)
        exact ⟨hb, by rw [Ring.eq_of_tryNext_none hq]; rfl, hp, hc⟩
      | some e =>
        obtain ⟨rfl, rfl⟩ := Prod.mk.inj (Option.some.inj h)
        exact ⟨hb, by rw [Ring.loads_tryNext hq]; exact (add_zero _).symm, hp, hc⟩
  | listening =>
    unfold step Ring.await at h
    by_cases hn : r.notified = true
    · rw [if_pos hn] at h
      obtain ⟨rfl, rfl⟩ := Prod.mk.inj (Option.some.inj h)
      exact ⟨b.congr rfl rfl rfl rfl, rfl, rfl, rfl⟩
    · rw [if_neg hn] at h
      obtain ⟨rfl, rfl⟩ := Prod.mk.inj (Option.some.inj h)
      exact ⟨b.congr rfl rfl rfl rfl, rfl, rfl, rfl⟩
  | parked =>
    simp only [step] at h
    by_cases hp : r.parked = true
    · rw [if_pos hp] at h
      cases h
    · rw [if_neg hp] at h
      obtain ⟨rfl, rfl⟩ := Prod.mk.inj (Option.some.inj h)
      exact ⟨b, rfl, rfl, rfl⟩
  | holding e => cases h
  | finished => cases h

end Consumer

namespace Closer

/-- What someone who closes has in its hands. -/
def loads : Closer ε → Multiset (ε × List Observer)
  | draining taken | drained taken => ↑(taken.map Envelope.load)
  | _ => 0

/-- A step of closing keeps the balance, and what is drained was in the ring. Whoever is past the
first step has closed the ring or found it closed. -/
theorem step_spec {c c' : Closer ε} {r r' : Ring ε} (h : c.step r = some (r', c')) {n : ℕ}
    {cs : Multiset ℕ} (b : r.Balanced n cs) :
    r'.Balanced n cs ∧ r'.loads + c'.loads = r.loads + c.loads ∧
      (r.permitsClosed = true → r'.permitsClosed = true) ∧ (r.closed = true → r'.closed = true) ∧
      (c = .marking ∨ r.closed = true → r'.closed = true) := by
  cases c with
  | marking =>
    have hr : r' = r.markClosed.1 ∧ c'.loads = 0 := by
      unfold step Ring.markClosed at h
      cases hc : r.closed <;> rw [hc] at h <;>
        obtain ⟨rfl, rfl⟩ := Prod.mk.inj (Option.some.inj h) <;> exact ⟨rfl, rfl⟩
    obtain ⟨rfl, hl⟩ := hr
    exact ⟨b.congr rfl rfl rfl rfl, by rw [hl]; rfl, id, fun _ => rfl, fun _ => rfl⟩
  | sealing =>
    obtain ⟨rfl, rfl⟩ := Prod.mk.inj (Option.some.inj h)
    exact ⟨b.congr rfl rfl rfl rfl, rfl, fun _ => rfl, id, fun hc => hc.resolve_left (by simp)⟩
  | notifying =>
    obtain ⟨rfl, rfl⟩ := Prod.mk.inj (Option.some.inj h)
    refine ⟨b.notify, by rw [Ring.loads_notify]; rfl, ?_, ?_, fun hc => ?_⟩
    · rw [Ring.permitsClosed_notify]; exact id
    · rw [Ring.closed_notify]; exact id
    · rw [Ring.closed_notify]; exact hc.resolve_left (by simp)
  | draining taken =>
    have hb := b.tryNext
    obtain ⟨hp, hc⟩ := r.flags_tryNext
    unfold step at h
    cases hq : r.tryNext with
    | mk q found =>
      rw [hq] at h hb hp hc
      have hclosed : draining taken = (marking : Closer ε) ∨ r.closed = true → q.closed = true :=
        fun hd => hc.trans (hd.resolve_left (by simp))
      cases found with
      | none =>
        obtain ⟨rfl, rfl⟩ := Prod.mk.inj (Option.some.inj h)
        exact ⟨hb, by rw [Ring.eq_of_tryNext_none hq]; rfl, hp.trans, hc.trans, hclosed⟩
      | some e =>
        obtain ⟨rfl, rfl⟩ := Prod.mk.inj (Option.some.inj h)
        refine ⟨hb, ?_, hp.trans, hc.trans, hclosed⟩
        rw [Ring.loads_tryNext hq]
        simp only [loads, List.map_append, List.map_cons, List.map_nil]
        rw [← Multiset.coe_add, Multiset.coe_singleton, add_assoc]
        exact congrArg (q.loads + ·) (add_comm _ _)
  | drained taken => cases h

end Closer

end Switchboard
