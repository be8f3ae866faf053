/-!
# Interleavings

Several threads share a state and take turns. What a thread does next depends on the shared state
and on its own; a move may end the thread or start others, and a thread that cannot go on for now
has no move. Nothing is said about who moves first: an interleaving is any order of moves.

* `Crowd.Step` says that some thread makes a move, and `Crowd.Reaches` that any number of moves is
  made;
* `Crowd.settle` is one schedule of many, in which the threads move in turn until nobody can;
  `reaches_settle` says that it is an interleaving.
-/

namespace Switchboard

/-- A move of a thread: the shared state after it, what has become of the thread, unless it has
ended, and the threads that it started. -/
structure Move (σ τ : Type) where
  shared : σ
  self : Option τ
  started : List τ := []

namespace Move

variable {σ τ : Type}

/-- A move after which the thread goes on. -/
def goOn (s : σ) (t : τ) : Option (Move σ τ) := some { shared := s, self := some t }

/-- A move after which the thread has ended. -/
def leave (s : σ) : Option (Move σ τ) := some { shared := s, self := none }

/-- A move that starts another thread. -/
def start (s : σ) (t new : τ) : Option (Move σ τ) :=
  some { shared := s, self := some t, started := [new] }

end Move

/-- What threads do. `ι` is what a move may depend on besides the shared state and the thread, such
as the time. -/
abbrev Program (ι σ τ : Type) := ι → σ → τ → Option (Move σ τ)

/-- Threads and the state that they share. -/
structure Crowd (σ τ : Type) where
  shared : σ
  threads : List τ := []

namespace Crowd

variable {ι σ τ : Type}

/-! ### All interleavings -/

/-- Some thread makes its move. -/
inductive Step (move : Program ι σ τ) : Crowd σ τ → Crowd σ τ → Prop where
  | of {i : ι} {s : σ} {t : τ} {m : Move σ τ} (before after : List τ) (h : move i s t = some m) :
    Step move ⟨s, before ++ t :: after⟩ ⟨m.shared, before ++ m.self.toList ++ after ++ m.started⟩

/-- Any number of moves is made, one after the other. -/
inductive Reaches (move : Program ι σ τ) (c : Crowd σ τ) : Crowd σ τ → Prop where
  | refl : Reaches move c c
  | tail {d e : Crowd σ τ} : Reaches move c d → Step move d e → Reaches move c e

namespace Reaches

variable {move : Program ι σ τ} {c d e : Crowd σ τ}

theorem trans (h : Reaches move c d) (h' : Reaches move d e) : Reaches move c e := by
  induction h' with
  | refl => exact h
  | tail _ step ih => exact ih.tail step

/-- What every move keeps holds after any number of moves. -/
theorem keeps {P : Crowd σ τ → Prop} (h : Reaches move c d) (start : P c)
    (step : ∀ {c d}, Step move c d → P c → P d) : P d := by
  induction h with
  | refl => exact start
  | tail _ s ih => exact step s ih

end Reaches

/-! ### In turn -/

/-- Every thread of a list makes its move, if it has one, in turn. The answer is the shared state,
what has become of the threads, the threads that were started, and whether somebody moved. -/
def turn (move : Program ι σ τ) (i : ι) (s : σ) : List τ → σ × List τ × List τ × Bool
  | [] => (s, [], [], false)
  | t :: ts =>
    match move i s t with
    | none =>
      let (s, kept, started, moved) := turn move i s ts
      (s, t :: kept, started, moved)
    | some m =>
      let (s, kept, started, _) := turn move i m.shared ts
      (s, m.self.toList ++ kept, m.started ++ started, true)

/-- All threads move in turn. The answer tells whether somebody could. -/
def round (move : Program ι σ τ) (i : ι) (c : Crowd σ τ) : Crowd σ τ × Bool :=
  let (s, kept, started, moved) := turn move i c.shared c.threads
  (⟨s, kept ++ started⟩, moved)

/-- At most so many rounds, until nobody can move. -/
def settle (move : Program ι σ τ) (i : ι) : Nat → Crowd σ τ → Crowd σ τ
  | 0, c => c
  | n + 1, c =>
    match c.round move i with
    | (c, true) => settle move i n c
    | (c, false) => c

/-- Moving in turn is an interleaving, whatever other threads there are. -/
theorem reaches_turn (move : Program ι σ τ) (i : ι) (before after : List τ) (s : σ)
    (ts : List τ) :
    Reaches move ⟨s, before ++ ts ++ after⟩
      ⟨(turn move i s ts).1,
        before ++ (turn move i s ts).2.1 ++ after ++ (turn move i s ts).2.2.1⟩ := by
  induction ts generalizing s before after with
  | nil => simpa [turn] using Reaches.refl
  | cons t ts ih =>
    cases h : move i s t with
    | none =>
      have rest := ih (before ++ [t]) after s
      simpa [turn, h] using rest
    | some m =>
      have first : Step move ⟨s, before ++ t :: (ts ++ after)⟩
          ⟨m.shared, before ++ m.self.toList ++ (ts ++ after) ++ m.started⟩ := .of _ _ h
      have rest := ih (before ++ m.self.toList) (after ++ m.started) m.shared
      simpa [turn, h] using (Reaches.refl.tail first).trans (by simpa using rest)

/-- The schedule in which the threads move in turn is an interleaving. -/
theorem reaches_settle (move : Program ι σ τ) (i : ι) (n : Nat) (c : Crowd σ τ) :
    Reaches move c (settle move i n c) := by
  induction n generalizing c with
  | zero => exact .refl
  | succ n ih =>
    have first : Reaches move c (c.round move i).1 := by
      simpa [round] using reaches_turn move i [] [] c.shared c.threads
    unfold settle
    cases h : c.round move i with
    | mk d moved =>
      rw [h] at first
      cases moved with
      | true => exact first.trans (ih d)
      | false => exact first

end Crowd

end Switchboard
