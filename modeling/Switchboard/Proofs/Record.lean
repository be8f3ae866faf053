import Switchboard.Proofs.Run

/-!
# The record of a connection

What the moves of a run count, tell and do for one connection: `countOf`, `notesOf`, `takingsOf` and
`handlingsOf` go through the turns that are made for the connection and collect it. A turn that is
idle for the connection adds nothing, and an act of the connection adds what it says.
-/

namespace Switchboard

/-! ### One turn -/

namespace Turn

/-- Whether a move is made for a connection. -/
def Concerns (k : ℕ) (u : Turn Chance Pipeline Thread) : Prop :=
  u.thread.connection? u.before = some k

instance (k : ℕ) : DecidablePred (Concerns k) := fun _ => inferInstanceAs (Decidable (_ = _))

/-- What a move adds to a counter. -/
def counted (c : Counter) (u : Turn Chance Pipeline Thread) : ℕ :=
  u.after.counters.get c - u.before.counters.get c

/-- What is told in a move. -/
def told (u : Turn Chance Pipeline Thread) : List Note :=
  u.after.notes.drop u.before.notes.length

end Turn

/-- The path for which a thread is about to take an instance. -/
def Thread.taking? : Thread → Option String
  | task ⟨.dispatch x, _, .running⟩ => some x.request.path
  | _ => none

/-- The template whose copy a thread is about to run, with the request that it runs on. -/
def Thread.handling? : Thread → Option (ℕ × Request)
  | task ⟨.handler x inst, _, .working⟩ => some (inst.template, x.request)
  | _ => none

/-! ### All turns -/

variable (k : ℕ) (c : Counter) (turns : List (Turn Chance Pipeline Thread))

/-- The moves that are made for a connection. -/
def turnsOf : List (Turn Chance Pipeline Thread) := turns.filter (Turn.Concerns k)

/-- How often something is counted for a connection. -/
def countOf : ℕ := ((turnsOf k turns).map (Turn.counted c)).sum

/-- What the observers are told about a connection. -/
def notesOf : List Note := (turnsOf k turns).flatMap Turn.told

/-- The paths for which an instance is taken for a connection. -/
def takingsOf : List String := (turnsOf k turns).filterMap fun u => u.thread.taking?

/-- The runs of handlers for a connection. -/
def handlingsOf : List (ℕ × Request) := (turnsOf k turns).filterMap fun u => u.thread.handling?

/-! ### One turn more -/

variable {k c turns} {i : Chance} {p q : Pipeline} {t : Thread} {done due : Multiset Errand}
  {line : Line} {counts : List Counter} {notes : List Note} {u : Turn Chance Pipeline Thread}

theorem turnsOf_snoc (h : u.Concerns k) : turnsOf k (turns ++ [u]) = turnsOf k turns ++ [u] := by
  simp [turnsOf, h]

theorem turnsOf_snoc_of_not (h : ¬ u.Concerns k) : turnsOf k (turns ++ [u]) = turnsOf k turns := by
  simp [turnsOf, h]

theorem get_foldl_bump (cs : Counters) (counts : List Counter) (c : Counter) :
    (counts.foldl Counters.bump cs).get c = cs.get c + counts.count c := by
  induction counts generalizing cs with
  | nil => rfl
  | cons d counts ih =>
    rw [List.foldl_cons, ih, Counters.get_bump, List.count_cons]
    by_cases hd : c = d
    · simp [hd]
      omega
    · simp [hd, Ne.symm hd]

namespace Turn.Idle

/-- A turn that is idle for a connection adds nothing to its record. -/
theorem counted_eq (h : u.Idle k) (hu : u.Concerns k) (c : Counter) : u.counted c = 0 := by
  cases h with
  | elsewhere h => exact absurd hu h
  | carries _ hc _ => rw [counted, hc, Nat.sub_self]

theorem told_eq (h : u.Idle k) (hu : u.Concerns k) : u.told = [] := by
  cases h with
  | elsewhere h => exact absurd hu h
  | carries _ _ hn => rw [told, hn, List.drop_length]

theorem taking?_eq (h : u.Idle k) (hu : u.Concerns k) : u.thread.taking? = none := by
  cases h with
  | elsewhere h => exact absurd hu h
  | carries ht =>
    unfold Thread.taking?
    split
    · rename_i heq
      rw [heq] at ht
      obtain ⟨pub, hpub⟩ := ht
      cases hpub
    · rfl

theorem handling?_eq (h : u.Idle k) (hu : u.Concerns k) : u.thread.handling? = none := by
  cases h with
  | elsewhere h => exact absurd hu h
  | carries ht =>
    unfold Thread.handling?
    split
    · rename_i heq
      rw [heq] at ht
      obtain ⟨pub, hpub⟩ := ht
      cases hpub
    · rfl

theorem countOf_snoc (h : u.Idle k) (c : Counter) :
    countOf k c (turns ++ [u]) = countOf k c turns := by
  by_cases hu : u.Concerns k
  · simp [countOf, turnsOf_snoc hu, h.counted_eq hu]
  · rw [countOf, turnsOf_snoc_of_not hu, countOf]

theorem notesOf_snoc (h : u.Idle k) : notesOf k (turns ++ [u]) = notesOf k turns := by
  by_cases hu : u.Concerns k
  · simp [notesOf, turnsOf_snoc hu, h.told_eq hu]
  · rw [notesOf, turnsOf_snoc_of_not hu, notesOf]

theorem takingsOf_snoc (h : u.Idle k) : takingsOf k (turns ++ [u]) = takingsOf k turns := by
  by_cases hu : u.Concerns k
  · simp [takingsOf, turnsOf_snoc hu, h.taking?_eq hu]
  · rw [takingsOf, turnsOf_snoc_of_not hu, takingsOf]

theorem handlingsOf_snoc (h : u.Idle k) : handlingsOf k (turns ++ [u]) = handlingsOf k turns := by
  by_cases hu : u.Concerns k
  · simp [handlingsOf, turnsOf_snoc hu, h.handling?_eq hu]
  · rw [handlingsOf, turnsOf_snoc_of_not hu, handlingsOf]

/-- Before a connection is let in, its record is empty. -/
theorem countOf_eq_zero (h : ∀ u ∈ turns, u.Idle k) (c : Counter) : countOf k c turns = 0 := by
  refine List.sum_eq_zero fun n hn => ?_
  obtain ⟨u, hu, rfl⟩ := List.mem_map.mp hn
  obtain ⟨hu, hk⟩ := List.mem_filter.mp hu
  exact (h u hu).counted_eq (of_decide_eq_true hk) c

theorem notesOf_eq_nil (h : ∀ u ∈ turns, u.Idle k) : notesOf k turns = [] := by
  refine List.flatMap_eq_nil_iff.mpr fun u hu => ?_
  obtain ⟨hu, hk⟩ := List.mem_filter.mp hu
  exact (h u hu).told_eq (of_decide_eq_true hk)

theorem takingsOf_eq_nil (h : ∀ u ∈ turns, u.Idle k) : takingsOf k turns = [] := by
  refine List.filterMap_eq_nil_iff.mpr fun u hu => ?_
  obtain ⟨hu, hk⟩ := List.mem_filter.mp hu
  exact (h u hu).taking?_eq (of_decide_eq_true hk)

theorem handlingsOf_eq_nil (h : ∀ u ∈ turns, u.Idle k) : handlingsOf k turns = [] := by
  refine List.filterMap_eq_nil_iff.mpr fun u hu => ?_
  obtain ⟨hu, hk⟩ := List.mem_filter.mp hu
  exact (h u hu).handling?_eq (of_decide_eq_true hk)

end Turn.Idle

theorem counted_bump (counters : q.counters = p.counters.bump .accepted) (c : Counter) :
    Turn.counted c ⟨i, t, p, q⟩ = if c = .accepted then 1 else 0 := by
  rw [Turn.counted, counters, Counters.get_bump]
  split <;> simp

/-- The move that lets a connection in counts it, and tells nobody. -/
theorem record_enter {o : Offer} {incoming : List Arrival} (hidle : ∀ u ∈ turns, u.Idle k)
    (hlen : p.ledger.length = k) (hin : p.incoming = o.arrival :: incoming)
    (counters : q.counters = p.counters.bump .accepted) (notes : q.notes = p.notes) :
    (∀ c, countOf k c (turns ++ [⟨i, .acceptor .listening, p, q⟩]) =
        if c = .accepted then 1 else 0) ∧
      notesOf k (turns ++ [⟨i, .acceptor .listening, p, q⟩]) = [] ∧
      takingsOf k (turns ++ [⟨i, .acceptor .listening, p, q⟩]) = [] ∧
      handlingsOf k (turns ++ [⟨i, .acceptor .listening, p, q⟩]) = [] := by
  have hk : Turn.Concerns k ⟨i, .acceptor .listening, p, q⟩ := by
    simp [Turn.Concerns, Thread.connection?, hin, Offer.arrival, hlen]
  refine ⟨fun c => ?_, ?_, ?_, ?_⟩
  · rw [← counted_bump (i := i) (t := .acceptor .listening) counters c,
      ← Nat.zero_add (Turn.counted c _), ← Turn.Idle.countOf_eq_zero hidle c]
    simp [countOf, turnsOf_snoc hk]
  · have ht : Turn.told ⟨i, .acceptor .listening, p, q⟩ = [] := by
      rw [Turn.told, notes, List.drop_length]
    rw [← Turn.Idle.notesOf_eq_nil hidle]
    simp [notesOf, turnsOf_snoc hk, ht]
  · rw [← Turn.Idle.takingsOf_eq_nil hidle]
    simp [takingsOf, turnsOf_snoc hk, Thread.taking?]
  · rw [← Turn.Idle.handlingsOf_eq_nil hidle]
    simp [handlingsOf, turnsOf_snoc hk, Thread.handling?]

namespace Deed.Acts

variable (h : Acts i p t done due q k line counts notes)

include h

theorem concerns : Turn.Concerns k ⟨i, t, p, q⟩ := h.connection

theorem counted_eq (c : Counter) : Turn.counted c ⟨i, t, p, q⟩ = counts.count c := by
  rw [Turn.counted, h.counters, get_foldl_bump, Nat.add_sub_cancel_left]

/-- An act adds to the record of its connection what it counts, -/
theorem countOf_snoc (c : Counter) :
    countOf k c (turns ++ [⟨i, t, p, q⟩]) = countOf k c turns + counts.count c := by
  simp [countOf, turnsOf_snoc h.concerns, h.counted_eq c]

/-- what it tells, -/
theorem notesOf_snoc : notesOf k (turns ++ [⟨i, t, p, q⟩]) = notesOf k turns ++ notes := by
  have hn : Turn.told ⟨i, t, p, q⟩ = notes := by
    rw [Turn.told, h.notes_eq, List.drop_left]
  simp [notesOf, turnsOf_snoc h.concerns, hn]

/-- the path for which it takes an instance, if it does, -/
theorem takingsOf_snoc :
    takingsOf k (turns ++ [⟨i, t, p, q⟩]) = takingsOf k turns ++ t.taking?.toList := by
  cases ht : t.taking? <;> simp [takingsOf, turnsOf_snoc h.concerns, ht]

/-- and the run of a handler, if it is one. -/
theorem handlingsOf_snoc :
    handlingsOf k (turns ++ [⟨i, t, p, q⟩]) = handlingsOf k turns ++ t.handling?.toList := by
  cases ht : t.handling? <;> simp [handlingsOf, turnsOf_snoc h.concerns, ht]

end Deed.Acts

/-! ### Totals -/

theorem countOf_snoc (k : ℕ) (c : Counter) (turns : List (Turn Chance Pipeline Thread))
    (u : Turn Chance Pipeline Thread) :
    countOf k c (turns ++ [u]) = countOf k c turns + if u.Concerns k then u.counted c else 0 := by
  by_cases hu : u.Concerns k
  · simp [countOf, turnsOf_snoc hu, hu]
  · rw [countOf, turnsOf_snoc_of_not hu, if_neg hu, Nat.add_zero, countOf]

/-- One turn more adds what it counts to the connection that it is made for. -/
theorem sum_countOf_snoc {n : ℕ} (hu : u.Concerns k) (hk : k < n) (c : Counter) :
    ∑ j ∈ Finset.range n, countOf j c (turns ++ [u]) =
      ∑ j ∈ Finset.range n, countOf j c turns + u.counted c := by
  have hj : ∀ j, u.Concerns j ↔ k = j := fun j => by
    rw [Turn.Concerns, show u.thread.connection? u.before = some k from hu, Option.some.injEq]
  simp [countOf_snoc, Finset.sum_add_distrib, hj, hk]

/-- What is so of a counter at any time of a run: nothing was counted for a connection that was not
let in, and all that was counted was counted for those that were. -/
structure Totalled (c : Counter) (start : ℕ) (turns : List (Turn Chance Pipeline Thread))
    (p : Pipeline) : Prop where
  none : ∀ k, p.ledger.length ≤ k → countOf k c turns = 0
  total : p.counters.get c = start + ∑ k ∈ Finset.range p.ledger.length, countOf k c turns

namespace Totalled

variable {start : ℕ}

/-- A turn that counts nothing. -/
theorem still (h : Totalled c start turns p) (hlen : q.ledger.length = p.ledger.length)
    (hget : q.counters.get c = p.counters.get c) :
    Totalled c start (turns ++ [⟨i, t, p, q⟩]) q := by
  have hsame : ∀ k, countOf k c (turns ++ [⟨i, t, p, q⟩]) = countOf k c turns := by
    intro k
    rw [countOf_snoc, Turn.counted, hget, Nat.sub_self, ite_self, Nat.add_zero]
  constructor
  · intro k hk
    rw [hsame, h.none k (hlen ▸ hk)]
  · simp only [hsame, hlen, hget]
    exact h.total

/-- A turn that is made for a connection that was let in by then. -/
theorem made (h : Totalled c start turns p) (hu : Turn.Concerns k ⟨i, t, p, q⟩)
    (hk : k < q.ledger.length) (hle : p.ledger.length ≤ q.ledger.length)
    (hget : q.counters.get c = p.counters.get c + Turn.counted c ⟨i, t, p, q⟩) :
    Totalled c start (turns ++ [⟨i, t, p, q⟩]) q := by
  constructor
  · intro j hj
    have hnot : ¬ Turn.Concerns j ⟨i, t, p, q⟩ := by
      intro hu'
      obtain rfl : k = j := Option.some.inj (hu.symm.trans hu')
      omega
    rw [countOf_snoc, if_neg hnot, h.none j (by omega)]
  · have hsum : ∑ j ∈ Finset.range p.ledger.length, countOf j c turns =
        ∑ j ∈ Finset.range q.ledger.length, countOf j c turns := by
      refine Finset.sum_subset (Finset.range_subset_range.mpr hle) fun j _ hj => ?_
      exact h.none j (not_lt.mp fun hlt => hj (Finset.mem_range.mpr hlt))
    rw [sum_countOf_snoc hu hk, hget, h.total, hsum, Nat.add_assoc]

end Totalled

/-- Nothing is counted but for a connection that was let in, except that accepting failed. -/
theorem Engine.Opening.get_counters {g d : Engine} (h : g.Opening)
    {turns : List (Turn Chance Pipeline Thread)} (run : Crowd.Run Thread.move g turns d)
    {c : Counter} (hc : c ≠ .acceptError) :
    d.shared.counters.get c = g.shared.counters.get c +
      ∑ k ∈ Finset.range d.shared.ledger.length, countOf k c turns := by
  suffices hP : Totalled c (g.shared.counters.get c) turns d.shared from hP.total
  refine h.induct (P := fun turns p _ => Totalled c (g.shared.counters.get c) turns p) ?_ ?_ run
  · constructor
    · intro k _
      rfl
    · rw [h.ledger]
      rfl
  intro turns i p t q done due rest _ hcharted hdeed hP
  cases hdeed.case hcharted with
  | carry ht hq =>
    obtain ⟨hl, hco, -, -⟩ := Deed.of_still hq
    exact hP.still (by rw [hl]) (by rw [hco])
  | fault hin hq =>
    obtain ⟨hl, hco, -, -⟩ := Deed.of_still hq
    have hl : q.ledger = p.ledger := hl
    have hco : q.counters = p.counters.bump .acceptError := hco
    exact hP.still (by rw [hl]) (by rw [hco, Counters.get_bump, if_neg hc])
  | @enter output ending binding latch incoming _ hin hq =>
    obtain ⟨hl, hco, -, -⟩ := Deed.of_still hq
    have hl : q.ledger = (p.ledger.enter { output }).1 := hl
    have hco : q.counters = p.counters.bump .accepted := hco
    have hlen : q.ledger.length = p.ledger.length + 1 := by rw [hl]; simp [Ledger.enter]
    have hu : Turn.Concerns p.ledger.length ⟨i, .acceptor .listening, p, q⟩ := by
      simp [Turn.Concerns, Thread.connection?, hin]
    refine hP.made hu (by omega) (by omega) ?_
    rw [counted_bump hco, hco, Counters.get_bump]
    split <;> rfl
  | @act _ _ _ _ j line counts notes hacts =>
    have hlen := hacts.ledger.length_eq
    have hlt := hacts.lt
    refine hP.made hacts.concerns (by omega) (by omega) ?_
    rw [hacts.counted_eq, hacts.counters, get_foldl_bump]

end Switchboard
