import Switchboard.Proofs.Reply

/-!
# Replies on an output that panics

A call on an output may panic, and the panic unwinds through the owner, who lets go of the reply on
the way. What the reply knows of the call depends on where it was marked: an error answer before
its call, a response only once its call has returned.

* `Reply.Stands` says what a reply can look like after any operations: the responses that were lost
  to a panic, and then perhaps an answer and a close.
* `Reply.calls_drop_after` is what letting go leaves behind.
* `Reply.unwound_respond` and `Reply.unwound_fail` set the two kinds of answer side by side: a
  response that panics is followed by an error answer, an error answer that panics is not.
-/

namespace Switchboard

namespace Reply

variable {o : Output} {g : Reply} {lost : List Call}

/-! ### Operations on any output -/

theorem respond_of_canSend (o : Output) (h : g.canSend = true) (r : Response) :
    g.respond o r =
      if o g.calls r.call = .panicked then ({ g with calls := g.calls ++ [r.call] }, none)
      else ({ g with sent := some r.sentAs, calls := g.calls ++ [r.call] }, some true) := by
  unfold respond call
  rw [if_pos h]
  cases o g.calls r.call <;> rfl

theorem fail_of_canSend (o : Output) (h : g.canSend = true) :
    g.fail o =
      ({ g with sent := some .error, calls := g.calls ++ [.error] },
        o g.calls .error == .panicked) := by
  rw [fail, if_pos h]
  rfl

/-- Closing a reply that is not answered: an error answer that panics is the last call. -/
theorem fst_close_of_canSend (o : Output) (h : g.canSend = true) :
    (g.close o).1 =
      if o g.calls .error = .panicked then
        { g with sent := some .error, calls := g.calls ++ [.error] }
      else
        { g with sent := some .error, closed := true, calls := g.calls ++ [.error, .close] } := by
  have hopen : g.closed = false := by simpa using (Bool.and_eq_true_iff.mp h).2
  unfold close
  rw [if_neg (by simp [hopen]), fail_of_canSend o h]
  split
  · next hfail =>
    obtain ⟨rfl, hpanicked⟩ := Prod.mk.inj hfail
    rw [if_pos (eq_of_beq hpanicked)]
  · next hfail =>
    obtain ⟨rfl, hreturned⟩ := Prod.mk.inj hfail
    rw [if_neg (beq_eq_false_iff_ne.mp hreturned)]
    simp [call]

/-- Closing a reply that is answered makes one call, however that ends. -/
theorem fst_close_of_sent (o : Output) {s : Sent} (hs : g.sent = some s) (hc : g.closed = false) :
    (g.close o).1 = { g with closed := true, calls := g.calls ++ [.close] } := by
  simp [close, fail, canSend, call, hs, hc]

/-! ### What a reply looks like -/

/-- The response that an operation loses: its sending panics, and nothing is marked. -/
def lostBy (o : Output) (g : Reply) : Operation → Option Call
  | .respond r => if (g.respond o r).2 = none then some r.call else none
  | .fail | .close => none

/-- The responses that operations lose, one after the other. -/
def lostIn (o : Output) (g : Reply) : List Operation → List Call
  | [] => []
  | op :: ops => (lostBy o g op).toList ++ lostIn o (g.perform o op) ops

/-- How a reply **stands** that has lost some responses. -/
inductive Stands (lost : List Call) : Reply → Prop
  | unanswered : Stands lost { calls := lost }
  | answered (s : Sent) {c : Call} (hc : c ≠ .close) (closed : Bool) :
      Stands lost
        { sent := some s, closed, calls := lost ++ c :: if closed then [.close] else [] }

theorem Operation.call_ne_close (op : Operation) : op.call ≠ .close := by
  simpa [answerOf_cons] using answerOf_ne_close [op]

/-- Only a reply that is not answered loses a response, and it stays as it is. -/
theorem Stands.perform (h : g.Stands lost) (op : Operation) :
    (g.perform o op).Stands (lost ++ (lostBy o g op).toList) := by
  cases h with
  | unanswered =>
    have hcan : canSend { calls := lost } = true := rfl
    cases op with
    | respond r =>
      simp only [Reply.perform, lostBy, respond_of_canSend o hcan]
      split
      · exact .unanswered
      · simpa using Stands.answered r.sentAs (c := r.call) (Operation.respond r).call_ne_close false
    | fail =>
      rw [Reply.perform, fail_of_canSend o hcan]
      simpa [lostBy] using Stands.answered .error (c := .error) Operation.fail.call_ne_close false
    | close =>
      rw [Reply.perform, fst_close_of_canSend o hcan]
      split
      · simpa [lostBy] using Stands.answered .error (c := .error) Operation.fail.call_ne_close false
      · simpa [lostBy] using Stands.answered .error (c := .error) Operation.fail.call_ne_close true
  | answered s hc closed =>
    cases op with
    | respond r => simpa [Reply.perform, respond, canSend, lostBy] using Stands.answered s hc closed
    | fail => simpa [Reply.perform, fail, canSend, lostBy] using Stands.answered s hc closed
    | close =>
      cases closed with
      | true => simpa [Reply.perform, close, lostBy] using Stands.answered s hc true
      | false =>
        rw [Reply.perform, fst_close_of_sent o rfl rfl]
        simpa [lostBy] using Stands.answered s hc true

theorem Stands.foldl (h : g.Stands lost) (ops : List Operation) :
    (ops.foldl (Reply.perform o) g).Stands (lost ++ lostIn o g ops) := by
  induction ops generalizing g lost with
  | nil => simpa [lostIn] using h
  | cons op ops ih => simpa [lostIn] using ih (h.perform op)

theorem stands_after (o : Output) (ops : List Operation) :
    (after o ops).Stands (lostIn o {} ops) :=
  (Stands.unanswered : Stands [] {}).foldl ops

/-! ### Letting go -/

theorem Stands.calls_drop (h : g.Stands lost) :
    ∃ c ≠ Call.close, (g.drop o).calls = lost ++ c ::
      if g.sent = none ∧ o g.calls .error = .panicked then [] else [.close] := by
  cases h with
  | unanswered =>
    refine ⟨.error, nofun, ?_⟩
    rw [drop, fst_close_of_canSend o rfl]
    split <;> simp [*]
  | answered s hc closed =>
    refine ⟨_, hc, ?_⟩
    cases closed with
    | true => simp [drop, close]
    | false => simp [drop, fst_close_of_sent o]

/-- **What letting go leaves behind.** Let the owner of a new reply do anything with it, on an
output whose calls may fail or panic. Once they let go of it, the output has seen every response
that a panic lost, then exactly one answer more, and then one close; only where nothing had been
answered and the error answer panics too, the output is not closed. -/
theorem calls_drop_after (o : Output) (ops : List Operation) :
    ∃ c ≠ Call.close, ((after o ops).drop o).calls = lostIn o {} ops ++ c ::
      if (after o ops).sent = none ∧ o (after o ops).calls .error = .panicked then []
      else [.close] :=
  (stands_after o ops).calls_drop

theorem ne_close_of_mem_lostIn {c : Call} {ops : List Operation} (h : c ∈ lostIn o g ops) :
    c ≠ .close := by
  induction ops generalizing g with
  | nil => cases h
  | cons op ops ih =>
    rcases List.mem_append.mp h with h | h
    · cases op with
      | respond r =>
        rw [lostBy] at h
        split at h
        · obtain rfl := List.mem_singleton.mp h
          exact (Operation.respond r).call_ne_close
        · cases h
      | fail => cases h
      | close => cases h
    · exact ih h

/-- How many answers were sent in the end: one, and one for every response that a panic lost. -/
theorem sends_drop_after (o : Output) (ops : List Operation) :
    ((after o ops).drop o).calls.countP (· ≠ .close) = (lostIn o {} ops).length + 1 := by
  obtain ⟨c, hc, hcalls⟩ := calls_drop_after o ops
  have hlost : (lostIn o {} ops).countP (· ≠ .close) = (lostIn o {} ops).length :=
    List.countP_eq_length.mpr fun c hmem => by simpa using ne_close_of_mem_lostIn hmem
  rw [hcalls, List.countP_append, hlost, List.countP_cons_of_pos (by simpa using hc)]
  split <;> rfl

/-! ### The two sides of a call -/

/-- **A response that panics is answered again.** Nothing is marked, so letting go sends the error
answer after it, and closes unless that panics as well. -/
theorem unwound_respond {r : Response} (h : (g.respond o r).2 = none) :
    ((g.respond o r).1.drop o).calls = g.calls ++ r.call :: .error ::
      if o (g.calls ++ [r.call]) .error = .panicked then [] else [.close] := by
  have hcan : g.canSend = true := by
    by_contra hcan
    simp [respond, hcan] at h
  rw [respond_of_canSend o hcan] at h ⊢
  split at h
  · next hpanicked =>
    have hcan' : canSend { g with calls := g.calls ++ [r.call] } = true := hcan
    rw [if_pos hpanicked, drop, fst_close_of_canSend o hcan']
    split <;> simp [*]
  · cases h

/-- Where sending a response panics, the error answer is sent too, and then the output is closed. -/
example :
    let o : Output := fun _ c => if c = .ok {} then .panicked else .returned true
    ((after o [.respond {}]).drop o).calls = [.ok {}, .error, .close] := by
  decide

/-- **An error answer that panics is the only one.** It was marked before, so letting go only
closes. -/
theorem unwound_fail (h : (g.fail o).2 = true) :
    ((g.fail o).1.drop o).calls = g.calls ++ [.error, .close] := by
  have hcan : g.canSend = true := by
    by_contra hcan
    simp [fail, hcan] at h
  have hopen : g.closed = false := by simpa using (Bool.and_eq_true_iff.mp hcan).2
  rw [fail_of_canSend o hcan, drop, fst_close_of_sent o rfl (by exact hopen)]
  simp

end Reply

end Switchboard
