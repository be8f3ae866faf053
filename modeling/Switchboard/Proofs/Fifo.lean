import Switchboard.Proofs.Traffic

/-!
# The ring as a bounded list

Whoever has a ring for himself sees a list of at most as many envelopes as there are slots: what is
published is added at the end, and the oldest is taken first. `Fifo` is that list, and `Ring.Act`
is what can be done with either. `Ring.Holds` says which list a ring holds, wherever its cursors
stand and however often its slots were used; every act keeps it and is answered alike
(`Ring.Holds.perform`). The cursors never stop counting; `Ring.index_eq_mask` says that a cursor
that starts over at a greater power of two finds the same slots.

Main statement: `Ring.answers_eq_fifo`. A ring of any power of two gives, act by act, the answers of
a list that starts out empty.
-/

namespace Switchboard

variable {ε : Type}

/-! ### The list -/

namespace Ring

/-- What is done with a ring by someone who has it for himself. -/
inductive Act (ε : Type) where
  | publish (e : Envelope ε)
  | take
  | drain
  | close
  | askLength
  | askEmpty

/-- What comes of an act. -/
inductive Answer (ε : Type) where
  | published
  | refused (error : QueueError)
  /-- The oldest envelope, if there is one. -/
  | took (e : Option (Envelope ε))
  /-- All envelopes, the oldest first. -/
  | drained (es : List (Envelope ε))
  | closed
  | length (n : ℕ)
  | empty (answer : Bool)

end Ring

/-- A bounded list of envelopes. -/
structure Fifo (ε : Type) where
  capacity : ℕ
  /-- What it holds, the oldest first, each as it was stamped when it was published. -/
  held : List (Envelope ε) := []
  closed : Bool := false

namespace Fifo

/-- An act on a list. -/
def perform (l : Fifo ε) : Ring.Act ε → Fifo ε × Ring.Answer ε
  | .publish e =>
    if l.closed then (l, .refused .closed)
    else if l.held.length = l.capacity then (l, .refused .full)
    else ({ l with held := l.held ++ [e.stamp] }, .published)
  | .take => ({ l with held := l.held.tail }, .took l.held.head?)
  | .drain => ({ l with held := [] }, .drained l.held)
  | .close => ({ l with closed := true }, .closed)
  | .askLength => (l, .length l.held.length)
  | .askEmpty => (l, .empty l.held.isEmpty)

/-- The list after one act after the other. -/
def after (l : Fifo ε) (acts : List (Ring.Act ε)) : Fifo ε :=
  acts.foldl (fun l act => (l.perform act).1) l

/-- What comes of one act after the other. -/
def answers (l : Fifo ε) : List (Ring.Act ε) → List (Ring.Answer ε)
  | [] => []
  | act :: acts => (l.perform act).2 :: answers (l.perform act).1 acts

/-- A list never holds more than its capacity. -/
theorem length_perform (l : Fifo ε) (h : l.held.length ≤ l.capacity) (act : Ring.Act ε) :
    (l.perform act).1.held.length ≤ (l.perform act).1.capacity := by
  cases act with
  | publish e =>
    simp only [perform]
    split_ifs with hclosed hfull
    · exact h
    · exact h
    · simp only [List.length_append, List.length_singleton]
      omega
  | take =>
    simp only [perform, List.length_tail]
    omega
  | drain => exact Nat.zero_le _
  | close => exact h
  | askLength => exact h
  | askEmpty => exact h

theorem capacity_perform (l : Fifo ε) (act : Ring.Act ε) :
    (l.perform act).1.capacity = l.capacity := by
  cases act with
  | publish e =>
    simp only [perform]
    split_ifs <;> rfl
  | take | drain | close | askLength | askEmpty => rfl

theorem length_after {l : Fifo ε} (h : l.held.length ≤ l.capacity) (acts : List (Ring.Act ε)) :
    (l.after acts).held.length ≤ l.capacity := by
  induction acts generalizing l with
  | nil => exact h
  | cons act acts ih =>
    have hstep := l.length_perform h act
    rw [← l.capacity_perform act]
    exact ih hstep

end Fifo

namespace Ring

variable {r : Ring ε} {l : Fifo ε}

/-! ### Slots -/

/-- The slot of a sequence number is found by masking, and just as well from a cursor that starts
over at some greater power of two. -/
theorem index_eq_mask {k w : ℕ} (hcapacity : r.capacity = 2 ^ k) (hw : k ≤ w) (sequence : ℕ) :
    r.index sequence = (sequence % 2 ^ w) &&& (2 ^ k - 1) := by
  rw [Nat.and_two_pow_sub_one_eq_mod, Nat.mod_mod_of_dvd _ (pow_dvd_pow 2 hw), index, hcapacity]

/-- A ring **holds** a list: the envelopes of the list lie in the slots from the read cursor on, the
other slots are free, and both are open or both closed. -/
structure Holds (r : Ring ε) (l : Fifo ε) : Prop where
  balanced : r.Balanced 0 0
  capacity_eq : r.capacity = l.capacity
  nextWrite_eq : r.nextWrite = r.nextRead + l.held.length
  slot_eq : ∀ i e, l.held[i]? = some e →
    r.slots[r.index (r.nextRead + i)]? = some { envelope := e, filled := true }
  closed_eq : r.closed = l.closed
  permitsClosed_eq : r.permitsClosed = l.closed

namespace Holds

/-- The free slots are those that the list leaves. -/
theorem free_add_length (h : r.Holds l) : r.free + l.held.length = l.capacity := by
  have hpermits := h.balanced.permits_eq
  rw [h.nextWrite_eq, h.capacity_eq] at hpermits
  omega

theorem length_eq (h : r.Holds l) : r.length = l.held.length := by
  have hfree := h.free_add_length
  rw [length, h.capacity_eq]
  omega

/-- Where nothing is put in or taken out the list stays, and is closed with the ring. -/
theorem of_calm {r' : Ring ε} (h : r.Holds l) (calm : r.Calm r') {closed : Bool}
    (hclosed : r'.closed = closed) (hpermits : r'.permitsClosed = closed) :
    r'.Holds { l with closed } where
  balanced := h.balanced.congr calm.slots calm.free calm.nextRead calm.nextWrite
  capacity_eq := by simpa [capacity, calm.slots] using h.capacity_eq
  nextWrite_eq := by rw [calm.nextWrite, calm.nextRead]; exact h.nextWrite_eq
  slot_eq := by simpa only [index, capacity, calm.slots, calm.nextRead] using h.slot_eq
  closed_eq := hclosed
  permitsClosed_eq := hpermits

theorem notify (h : r.Holds l) : r.notify.Holds l :=
  h.of_calm r.calm_notify (r.closed_notify.trans h.closed_eq)
    (r.permitsClosed_notify.trans h.permitsClosed_eq)

/-! ### Closing -/

/-- Closing a ring takes nothing out of it, also when it is closed already. -/
theorem close (h : r.Holds l) : r.close.Holds { l with closed := true } := by
  have hpermits := h.permitsClosed_eq.trans h.closed_eq.symm
  unfold Ring.close markClosed
  cases hclosed : r.closed with
  | true =>
    have hcalm : r.Calm { r with closed := true } := ⟨rfl, rfl, rfl, rfl, id⟩
    exact h.of_calm hcalm rfl (hpermits.trans hclosed)
  | false =>
    have hcalm : r.Calm { r with closed := true, permitsClosed := true } :=
      ⟨rfl, rfl, rfl, rfl, fun _ => rfl⟩
    exact (h.of_calm hcalm rfl rfl).notify

variable [Payload ε]

/-! ### Publishing -/

/-- A permit, the next sequence number and its slot make one more envelope at the end. -/
theorem publish (h : r.Holds l) (hfree : r.free ≠ 0) (e : Envelope ε) :
    let s : Ring ε := { r with free := r.free - 1 }
    (s.claim.1.write s.claim.2 e).Holds { l with held := l.held ++ [e.stamp] } := by
  intro s
  have hclaim : s.claim.1.Balanced 0 {r.nextWrite} := (h.balanced.acquire hfree).claim
  have hwindow : r.nextRead ≤ r.nextWrite ∧ r.nextWrite < r.nextWrite + 1 :=
    hclaim.mem_window r.nextWrite (Multiset.mem_singleton_self _)
  have hindex (n : ℕ) : (s.claim.1.write r.nextWrite e).index n = r.index n :=
    congrArg (n % ·) (capacity_write s.claim.1 r.nextWrite e)
  exact {
    balanced := hclaim.write e
    capacity_eq := (capacity_write _ _ _).trans h.capacity_eq
    nextWrite_eq := by
      have hwrite := h.nextWrite_eq
      change r.nextWrite + 1 = r.nextRead + (l.held ++ [e.stamp]).length
      rw [List.length_append, List.length_singleton]
      omega
    slot_eq := fun i x hx => by
      change (s.claim.1.write r.nextWrite e).slots[
        (s.claim.1.write r.nextWrite e).index (r.nextRead + i)]? = _
      rw [hindex, slots_write, getElem?_modify_slots]
      rcases Nat.lt_or_ge i l.held.length with hi | hi
      · -- an older envelope lies in another slot
        have hwrite := h.nextWrite_eq
        have hinside : r.nextRead ≤ r.nextRead + i ∧ r.nextRead + i < r.nextWrite + 1 := by omega
        have hne : r.index r.nextWrite ≠ r.index (r.nextRead + i) := fun heq => by
          have : r.nextWrite = r.nextRead + i := hclaim.eq_of_index_eq hwindow hinside heq
          omega
        rw [List.getElem?_append_left hi] at hx
        exact (if_neg hne).trans (h.slot_eq i x hx)
      · obtain rfl : i = l.held.length := by
          have := (List.getElem?_eq_some_iff.mp hx).1
          rw [List.length_append, List.length_singleton] at this
          omega
        obtain rfl : e.stamp = x := by simpa using hx
        obtain ⟨t, ht⟩ : ∃ t, r.slots[r.index r.nextWrite]? = some t :=
          ⟨_, Array.getElem?_eq_getElem (h.balanced.index_lt _)⟩
        rw [← h.nextWrite_eq]
        refine (if_pos rfl).trans ?_
        change (r.slots[r.index r.nextWrite]?).map _ = _
        rw [ht]
        rfl
    closed_eq := h.closed_eq
    permitsClosed_eq := h.permitsClosed_eq }

/-- Publishing is refused by a closed ring, else by a full one, and else it adds the envelope. -/
theorem tryPublish (h : r.Holds l) (e : Envelope ε) :
    (l.closed = true ∧ r.tryPublish e = .error .closed) ∨
      (l.closed = false ∧ l.held.length = l.capacity ∧ r.tryPublish e = .error .full) ∨
      (l.closed = false ∧ l.held.length ≠ l.capacity ∧
        ∃ r', r.tryPublish e = .ok r' ∧ r'.Holds { l with held := l.held ++ [e.stamp] }) := by
  have hfree := h.free_add_length
  have hpermits := h.permitsClosed_eq
  unfold Ring.tryPublish acquire
  cases hclosed : l.closed with
  | true =>
    rw [hclosed] at hpermits
    exact .inl ⟨rfl, by rw [hpermits]; rfl⟩
  | false =>
    rw [hclosed] at hpermits
    rw [if_neg (by simp [hpermits])]
    by_cases hfull : r.free = 0
    · rw [if_pos hfull]
      exact .inr (.inl ⟨rfl, by omega, rfl⟩)
    · rw [if_neg hfull]
      exact .inr (.inr ⟨rfl, by omega, _, rfl, hclosed ▸ (h.publish hfull e).notify⟩)

/-! ### Taking -/

/-- What is taken is the oldest envelope. -/
theorem tryNext (h : r.Holds l) :
    r.tryNext.2 = l.held.head? ∧ r.tryNext.1.Holds { l with held := l.held.tail } := by
  have hbalanced := h.balanced.tryNext
  obtain ⟨hnone, hfilled⟩ | ⟨s, hs, hfilled, hsome⟩ := r.tryNext_cases
  · -- an unfilled slot under the read cursor means that nothing is held
    have hheld : l.held = [] := by
      rcases hl : l.held with - | ⟨e, es⟩
      · rfl
      · exact absurd ⟨_, h.slot_eq 0 e (by simp [hl]), rfl⟩ hfilled
    rw [hnone]
    exact ⟨by simp [hheld], by rw [hheld, List.tail_nil, ← hheld]; exact h⟩
  · have hlt := (h.balanced.nextRead_of_filledAt ⟨s, hs, hfilled⟩).1
    have hwrite := h.nextWrite_eq
    obtain ⟨e, es, hl⟩ : ∃ e es, l.held = e :: es := List.exists_cons_of_length_pos (by omega)
    have hslot := h.slot_eq 0 e (by simp [hl])
    obtain rfl : s = { envelope := e, filled := true } := by
      rw [Nat.add_zero, hs] at hslot
      exact Option.some.inj hslot
    rw [hsome] at hbalanced ⊢
    rw [hl] at hwrite ⊢
    rw [List.length_cons] at hwrite
    refine ⟨rfl, hbalanced, ?_, ?_, fun i x hx => ?_, h.closed_eq, h.permitsClosed_eq⟩
    · simpa [capacity] using h.capacity_eq
    · change r.nextWrite = r.nextRead + 1 + es.length
      omega
    · -- the slot that was emptied is that of another number
      have hi : i < es.length := (List.getElem?_eq_some_iff.mp hx).1
      have hkept := h.slot_eq (i + 1) x (by rw [hl]; exact hx)
      have hne : r.index r.nextRead ≠ r.index (r.nextRead + (i + 1)) := fun heq => by
        have := h.balanced.eq_of_index_eq ⟨le_rfl, hlt⟩ ⟨by omega, by omega⟩ heq
        omega
      rw [Nat.add_comm i 1, ← Nat.add_assoc] at hkept hne
      have hindex : (r.slots.setIfInBounds (r.index r.nextRead)
          { envelope := .empty, filled := false }).size = r.capacity := Array.size_setIfInBounds
      simp only [index, capacity] at hkept hne hindex ⊢
      rw [hindex, Array.getElem?_setIfInBounds_ne hne]
      exact hkept

/-- Draining takes everything, the oldest first, if it may go on for long enough. -/
theorem drainUpTo (h : r.Holds l) {n : ℕ} (hn : l.held.length ≤ n) :
    (r.drainUpTo n).2 = l.held ∧ (r.drainUpTo n).1.Holds { l with held := [] } := by
  induction n generalizing r l with
  | zero =>
    have hheld : l.held = [] := List.eq_nil_of_length_eq_zero (Nat.le_zero.mp hn)
    exact ⟨hheld.symm, by rw [← hheld]; exact h⟩
  | succ n ih =>
    obtain ⟨hfound, hrest⟩ := h.tryNext
    unfold Ring.drainUpTo
    rcases hnext : r.tryNext with ⟨q, found⟩
    rw [hnext] at hfound hrest
    rcases hl : l.held with - | ⟨e, es⟩
    · rw [hl] at hfound hrest
      subst hfound
      exact ⟨rfl, hrest⟩
    · rw [hl] at hfound hrest hn
      subst hfound
      obtain ⟨htaken, hempty⟩ := ih hrest (Nat.le_of_succ_le_succ hn)
      exact ⟨congrArg (e :: ·) htaken, hempty⟩

theorem drain (h : r.Holds l) : r.drain.2 = l.held ∧ r.drain.1.Holds { l with held := [] } := by
  have hfree := h.free_add_length
  have hcapacity := h.capacity_eq
  exact h.drainUpTo (by omega)

end Holds

/-! ### One act after the other -/

variable [Payload ε]

/-- An act on a ring. -/
def perform (r : Ring ε) : Act ε → Ring ε × Answer ε
  | .publish e =>
    match r.tryPublish e with
    | .ok r => (r, .published)
    | .error error => (r, .refused error)
  | .take => (r.tryNext.1, .took r.tryNext.2)
  | .drain => (r.drain.1, .drained r.drain.2)
  | .close => (r.close, .closed)
  | .askLength => (r, .length r.length)
  | .askEmpty => (r, .empty r.isEmpty)

/-- What comes of one act after the other. -/
def answers (r : Ring ε) : List (Act ε) → List (Answer ε)
  | [] => []
  | act :: acts => (r.perform act).2 :: answers (r.perform act).1 acts

/-- A ring answers an act as the list that it holds, and holds afterwards what the list has
become. -/
theorem Holds.perform (h : r.Holds l) (act : Act ε) :
    (r.perform act).2 = (l.perform act).2 ∧ (r.perform act).1.Holds (l.perform act).1 := by
  cases act with
  | publish e =>
    rcases h.tryPublish e with ⟨hclosed, he⟩ | ⟨hopen, hfull, he⟩ | ⟨hopen, hroom, r', he, h'⟩
    · simp only [Ring.perform, Fifo.perform, he, if_pos hclosed]
      exact ⟨trivial, h⟩
    · simp only [Ring.perform, Fifo.perform, he, hopen, if_pos hfull]
      exact ⟨rfl, h⟩
    · simp only [Ring.perform, Fifo.perform, he, hopen, if_neg hroom, Bool.false_eq_true, if_false]
      exact ⟨trivial, hopen ▸ h'⟩
  | take =>
    obtain ⟨hfound, hrest⟩ := h.tryNext
    exact ⟨congrArg Answer.took hfound, hrest⟩
  | drain =>
    obtain ⟨htaken, hempty⟩ := h.drain
    exact ⟨congrArg Answer.drained htaken, hempty⟩
  | close => exact ⟨rfl, h.close⟩
  | askLength => exact ⟨congrArg Answer.length h.length_eq, h⟩
  | askEmpty =>
    refine ⟨congrArg Answer.empty ?_, h⟩
    rw [isEmpty, h.length_eq]
    cases l.held <;> rfl

/-- A ring answers one act after the other as the list that it holds. -/
theorem Holds.answers_eq (h : r.Holds l) (acts : List (Act ε)) :
    r.answers acts = l.answers acts := by
  induction acts generalizing r l with
  | nil => rfl
  | cons act acts ih =>
    obtain ⟨hanswer, hrest⟩ := h.perform act
    exact congrArg₂ List.cons hanswer (ih hrest)

/-- A new ring holds the empty list. -/
theorem holds_ofCapacity {capacity : ℕ} (h : Ring.ofCapacity capacity = .ok r) :
    r.Holds { capacity } := by
  have hfiled := filed_ofCapacity h
  have hcapacity := capacity_ofCapacity h
  obtain ⟨hbalanced, -⟩ := balanced_ofCapacity h
  unfold Ring.ofCapacity at h
  split at h
  · obtain rfl := Except.ok.inj h
    exact ⟨hbalanced, hcapacity, rfl, by simp, rfl, rfl⟩
  · cases h

/-- **The ring is a bounded list.** For every power of two there is a ring of that capacity.
Whatever is done with it, one act after the other, it answers as a list of at most so many
envelopes: it refuses to publish once it is closed, else exactly when the list is full, which leaves
the list as it is; what is taken or drained is what was published first, closed or not, with the
event and the observers that it was published with. -/
theorem answers_eq_fifo (k : ℕ) (acts : List (Act ε)) :
    ∃ r : Ring ε, Ring.ofCapacity (2 ^ k) = .ok r ∧
      r.answers acts = Fifo.answers { capacity := 2 ^ k } acts ∧
      (Fifo.after { capacity := 2 ^ k } acts).held.length ≤ 2 ^ k := by
  obtain ⟨r, hr⟩ : ∃ r : Ring ε, Ring.ofCapacity (2 ^ k) = .ok r :=
    ⟨_, if_pos (isPowerOfTwo_two_pow k)⟩
  exact ⟨r, hr, (holds_ofCapacity hr).answers_eq acts, Fifo.length_after (Nat.zero_le _) acts⟩

end Ring

end Switchboard
