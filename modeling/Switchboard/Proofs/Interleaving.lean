import Mathlib.Tactic
import Switchboard.Interleaving

/-!
# Runs

An interleaving together with the moves that were made: `Crowd.Run` lists them in order, so that
one can say what was done by whom. `Crowd.reaches_iff_exists_run` says that runs are just the
interleavings. `Crowd.follow` is the run of a given schedule, in which the threads at certain places
move one after the other. `Crowd.Life` lists the moves of one thread, between which the shared state
may change in any way; in a run every thread has such a life (`Crowd.Run.exists_life`).
-/

namespace Switchboard

/-- A move as it was made: what it depended on, by which thread, and the shared state before and
after it. -/
structure Turn (ι σ τ : Type) where
  chance : ι
  thread : τ
  before : σ
  after : σ

namespace Crowd

variable {ι σ τ : Type} {move : Program ι σ τ} {c d e : Crowd σ τ}

/-- These moves are made, one after the other. -/
inductive Run (move : Program ι σ τ) (c : Crowd σ τ) :
    List (Turn ι σ τ) → Crowd σ τ → Prop where
  | nil : Run move c [] c
  | snoc {turns : List (Turn ι σ τ)} {i : ι} {s : σ} {t : τ} {m : Move σ τ} (before after : List τ)
      (run : Run move c turns ⟨s, before ++ t :: after⟩) (h : move i s t = some m) :
      Run move c (turns ++ [⟨i, t, s, m.shared⟩])
        ⟨m.shared, before ++ m.self.toList ++ after ++ m.started⟩

/-- Whatever is reached is reached by some run, and the other way round. -/
theorem reaches_iff_exists_run : Reaches move c d ↔ ∃ turns, Run move c turns d := by
  constructor
  · intro h
    induction h with
    | refl => exact ⟨[], .nil⟩
    | tail _ step ih =>
      obtain ⟨turns, run⟩ := ih
      obtain ⟨before, after, h⟩ := step
      exact ⟨_, run.snoc before after h⟩
  · rintro ⟨turns, run⟩
    induction run with
    | nil => exact .refl
    | snoc before after _ h ih => exact ih.tail (.of before after h)

/-- What every move keeps, of the moves made so far and of what they led to, holds after a run. -/
theorem Run.keeps {P : List (Turn ι σ τ) → Crowd σ τ → Prop} {turns : List (Turn ι σ τ)}
    (run : Run move c turns d) (start : P [] c)
    (step : ∀ {turns i s t m} (before after : List τ), move i s t = some m →
      P turns ⟨s, before ++ t :: after⟩ →
      P (turns ++ [⟨i, t, s, m.shared⟩])
        ⟨m.shared, before ++ m.self.toList ++ after ++ m.started⟩) : P turns d := by
  induction run with
  | nil => exact start
  | snoc before after _ h ih => exact step before after h ih

/-- A quantity of threads, seen from one of them. -/
theorem sum_map_thread {M : Type} [AddCommMonoid M] (f : τ → M) (before after : List τ) (t : τ) :
    ((before ++ t :: after).map f).sum = f t + ((before ++ after).map f).sum := by
  simp only [List.map_append, List.map_cons, List.sum_append, List.sum_cons]
  exact add_left_comm _ _ _

/-- A quantity of threads after a move of a thread that goes on. -/
theorem sum_map_moved {M : Type} [AddCommMonoid M] (f : τ → M) (before after : List τ)
    {m : Move σ τ} {t' : τ} (h : m.self = some t') :
    ((before ++ m.self.toList ++ after ++ m.started).map f).sum =
      f t' + (m.started.map f).sum + ((before ++ after).map f).sum := by
  have hself : (m.self.toList.map f).sum = f t' := by rw [h]; exact add_zero _
  simp only [List.map_append, List.sum_append, hself]
  abel

/-- A run may be followed by another. -/
theorem Run.trans {first later : List (Turn ι σ τ)} (h : Run move c first d)
    (h' : Run move d later e) : Run move c (first ++ later) e := by
  induction h' with
  | nil => rwa [List.append_nil]
  | snoc before after _ hm ih =>
    rw [← List.append_assoc]
    exact ih.snoc before after hm

/-! ### Places -/

/-- Where no thread ends, a step changes one thread and adds others at the end. -/
theorem Step.exists_self (stays : ∀ {i t m}, move i c.shared t = some m → m.self.isSome)
    (h : Step move c d) : ∃ i t m t' before after, c.threads = before ++ t :: after ∧
      move i c.shared t = some m ∧ m.self = some t' ∧
      d = ⟨m.shared, before ++ t' :: after ++ m.started⟩ := by
  obtain ⟨before, after, hm⟩ := h
  obtain ⟨t', hself⟩ := Option.isSome_iff_exists.mp (stays hm)
  exact ⟨_, _, _, t', before, after, rfl, hm, hself, by simp [hself]⟩

/-- A quantity of threads, seen from the one at this place. -/
theorem sum_map_place {M : Type} [AddCommMonoid M] (f : τ → M) {threads : List τ} {k : ℕ} {t : τ}
    (h : threads[k]? = some t) :
    (threads.map f).sum = f t + ((threads.eraseIdx k).map f).sum := by
  obtain ⟨hk, rfl⟩ := List.getElem?_eq_some_iff.mp h
  rw [List.eraseIdx_eq_take_drop_succ, ← sum_map_thread, ← List.drop_eq_getElem_cons,
    List.take_append_drop]

/-- A thread keeps its place: it is the one that moved, or it is as before. -/
theorem getElem?_of_moved {before after : List τ} {t u : τ} {k : ℕ} (t' : τ) (started : List τ)
    (h : (before ++ t :: after)[k]? = some u) :
    (u = t ∧ (before ++ t' :: after ++ started)[k]? = some t') ∨
      (before ++ t' :: after ++ started)[k]? = some u := by
  have hk : k < (before ++ t' :: after).length := by
    simpa using (List.getElem?_eq_some_iff.mp h).1
  rw [List.getElem?_append_left hk]
  rcases lt_trichotomy k before.length with hlt | rfl | hgt
  · rw [List.getElem?_append_left hlt] at h ⊢
    exact .inr h
  · rw [List.getElem?_append_right le_rfl, Nat.sub_self, List.getElem?_cons_zero] at h ⊢
    exact .inl ⟨(Option.some.inj h).symm, rfl⟩
  · rw [List.getElem?_append_right hgt.le, List.getElem?_cons] at h ⊢
    rw [if_neg (by omega)] at h ⊢
    exact .inr h

/-! ### One thread among others -/

section

variable {t : τ}

/-- A thread that began as `t` has made these moves, and this is the shared state now and what has
become of the thread. Between its moves the shared state may change in any way. -/
inductive Life (move : Program ι σ τ) (t : τ) : List (Turn ι σ τ) → σ → Option τ → Prop where
  | begins (s : σ) : Life move t [] s (some t)
  | meanwhile {turns : List (Turn ι σ τ)} {s : σ} {o : Option τ} (life : Life move t turns s o)
    (s' : σ) : Life move t turns s' o
  | moves {turns : List (Turn ι σ τ)} {i : ι} {s : σ} {u : τ} {m : Move σ τ}
    (life : Life move t turns s (some u)) (h : move i s u = some m) :
    Life move t (turns ++ [⟨i, u, s, m.shared⟩]) m.shared m.self

/-- Of two threads at places of one list, the one is the other, or it is left where a move of the
other puts `l` in its place. -/
theorem same_or_left {before after front back : List τ} {u v : τ}
    (h : front ++ v :: back = before ++ u :: after) (l : List τ) :
    v = u ∨ ∃ before' after', front ++ l ++ back = before' ++ u :: after' := by
  rcases List.append_eq_append_iff.mp h with ⟨mid, -, hback⟩ | ⟨mid, hfront, hback⟩
  · cases mid with
    | nil => exact .inl (List.cons.inj hback).1
    | cons w mid =>
      obtain ⟨-, hback⟩ := List.cons.inj hback
      exact .inr ⟨front ++ l ++ mid, after, by simp [hback]⟩
  · cases mid with
    | nil => exact .inl (List.cons.inj hback).1.symm
    | cons w mid =>
      obtain ⟨rfl, -⟩ := List.cons.inj hback
      exact .inr ⟨before, mid ++ l ++ back, by simp [hfront]⟩

/-- In a run every thread has a life of its own. -/
theorem Run.exists_life {before after : List τ} {s : σ} {turns : List (Turn ι σ τ)}
    {d : Crowd σ τ} (run : Run move ⟨s, before ++ t :: after⟩ turns d) :
    ∃ own o before' after', Life move t own d.shared o ∧ own.Sublist turns ∧
      d.threads = before' ++ o.toList ++ after' := by
  induction run with
  | nil => exact ⟨[], some t, before, after, .begins s, .slnil, by simp⟩
  | @snoc turns i s v m front back _ h ih =>
    obtain ⟨own, o, before', after', hlife, hsub, hthreads⟩ := ih
    have hlonger := hsub.trans (List.sublist_append_left turns [⟨i, v, s, m.shared⟩])
    cases o with
    | none =>
      exact ⟨own, none, front ++ m.self.toList ++ back ++ m.started, [],
        hlife.meanwhile m.shared, hlonger, by simp⟩
    | some u =>
      have hthreads : front ++ v :: back = before' ++ u :: after' := by simpa using hthreads
      rcases same_or_left hthreads m.self.toList with rfl | ⟨before'', after'', hleft⟩
      · exact ⟨_, m.self, front, back ++ m.started, hlife.moves h, hsub.append_right _, by simp⟩
      · exact ⟨own, some u, before'', after'' ++ m.started, hlife.meanwhile m.shared, hlonger,
          by simp [hleft]⟩

end

/-! ### Schedules -/

/-- The thread at a place makes its move, if it has one. -/
def nudge (move : Program ι σ τ) (i : ι) (n : ℕ) (c : Crowd σ τ) :
    List (Turn ι σ τ) × Crowd σ τ :=
  match c.threads[n]? with
  | none => ([], c)
  | some t =>
    match move i c.shared t with
    | none => ([], c)
    | some m =>
      ([⟨i, t, c.shared, m.shared⟩],
        ⟨m.shared, c.threads.take n ++ m.self.toList ++ c.threads.drop (n + 1) ++ m.started⟩)

/-- The threads at these places move one after the other. -/
def follow (move : Program ι σ τ) (i : ι) : List ℕ → Crowd σ τ → List (Turn ι σ τ) × Crowd σ τ
  | [], c => ([], c)
  | n :: ns, c =>
    let (first, c) := nudge move i n c
    let (rest, c) := follow move i ns c
    (first ++ rest, c)

theorem Run.nudge {turns : List (Turn ι σ τ)} (run : Run move c turns d) (i : ι) (n : ℕ) :
    Run move c (turns ++ (d.nudge move i n).1) (d.nudge move i n).2 := by
  obtain ⟨s, ts⟩ := d
  unfold Crowd.nudge
  cases ht : ts[n]? with
  | none => simpa using run
  | some t =>
    cases hm : move i s t with
    | none => simpa [hm] using run
    | some m =>
      have hsplit : ts = ts.take n ++ t :: ts.drop (n + 1) := by
        obtain ⟨hn, rfl⟩ := List.getElem?_eq_some_iff.mp ht
        rw [← List.drop_eq_getElem_cons, List.take_append_drop]
      simp only [hm]
      exact .snoc (ts.take n) (ts.drop (n + 1)) (hsplit ▸ run) hm

theorem Run.follow {turns : List (Turn ι σ τ)} (run : Run move c turns d) (i : ι) (ns : List ℕ) :
    Run move c (turns ++ (d.follow move i ns).1) (d.follow move i ns).2 := by
  induction ns generalizing turns d with
  | nil => simpa [Crowd.follow] using run
  | cons n ns ih => simpa [Crowd.follow] using ih (run.nudge i n)

/-- Following a schedule is a run. -/
theorem run_follow (move : Program ι σ τ) (i : ι) (ns : List ℕ) (c : Crowd σ τ) :
    Run move c (c.follow move i ns).1 (c.follow move i ns).2 := Run.nil.follow i ns

end Crowd

end Switchboard
