import Mathlib.Tactic
import Switchboard.Reply

/-!
# One reply in the hands of its owner

The owner of a reply may respond, fail and close as often as they like and in any order, stop at any
point, and let go of the reply, in the ordinary way or because a panic unwinds. Where the calls of
the output return, with success or with an I/O error, the reply after any operations is known in
closed form (`Reply.after_cons`): the first operation alone decides what is sent, and what is left
to the others is whether the output is closed.

* `Reply.over_drop_after`: whoever drops a reply leaves one answer and one close behind.
* `Reply.answered_by_first`: which answer that is, what the owner is told, and that nothing is taken
  back or tried again.
-/

namespace Switchboard

namespace Reply

/-- What the owner of a reply can do with it. -/
inductive Operation where
  | respond (r : Response)
  | fail
  | close
  deriving DecidableEq, Repr

namespace Operation

/-- The answer that an operation gives where nothing was sent. -/
def sent : Operation → Sent
  | respond r => r.sentAs
  | fail | close => .error

/-- The call that sends it. -/
def call : Operation → Call
  | respond r => r.call
  | fail | close => .error

/-- Whether an operation closes the output. -/
def closes : Operation → Bool
  | close => true
  | respond _ | fail => false

end Operation

/-- An operation on a reply. -/
def perform (o : Output) (g : Reply) : Operation → Reply
  | .respond r => (g.respond o r).1
  | .fail => (g.fail o).1
  | .close => (g.close o).1

/-- A new reply after some operations. -/
def after (o : Output) (ops : List Operation) : Reply := ops.foldl (perform o) {}

/-- The call that answers an exchange whose owner did all this before letting go: the call of a
response that came first, or else the error answer. -/
def answerOf : List Operation → Call
  | .respond r :: _ => r.call
  | _ => .error

/-- A reply is **over** when one answer was sent and then the output was closed, and that is all. -/
def Over (g : Reply) : Prop :=
  ∃ sent c, c ≠ .close ∧ g = { sent := some sent, closed := true, calls := [c, .close] }

variable {o : Output} {ops : List Operation}

/-! ### Calls that return -/

theorem call_of_returns (ho : o.Returns) (g : Reply) (c : Call) :
    g.call o c = ({ g with calls := g.calls ++ [c] }, false) := by
  rw [call, beq_eq_false_iff_ne.mpr (ho g.calls c)]

theorem respond_of_returns (ho : o.Returns) (g : Reply) (r : Response) :
    g.respond o r =
      if g.canSend then
        ({ g with sent := some r.sentAs, calls := g.calls ++ [r.call] }, some true)
      else (g, some false) := by
  simp only [respond, call_of_returns ho]

theorem fail_of_returns (ho : o.Returns) (g : Reply) :
    g.fail o =
      (if g.canSend then { g with sent := some .error, calls := g.calls ++ [.error] } else g,
        false) := by
  simp only [fail, call_of_returns ho]
  split <;> rfl

theorem snd_close_of_returns (ho : o.Returns) (g : Reply) : (g.close o).2 = false := by
  unfold close
  split
  · rfl
  · simp only [fail_of_returns ho, call_of_returns ho]

/-! ### Replies that were answered -/

/-- A reply that was answered, by a call of its own kind, and perhaps closed. -/
def answered (s : Sent) (c : Call) (closed : Bool) : Reply :=
  { sent := some s, closed, calls := c :: if closed then [.close] else [] }

@[simp] theorem canSend_answered (s : Sent) (c : Call) (closed : Bool) :
    (answered s c closed).canSend = false := rfl

/-- Closing an answered reply adds the one close, unless it is there already. -/
theorem close_answered (ho : o.Returns) (s : Sent) (c : Call) (closed : Bool) :
    (answered s c closed).close o = (answered s c true, false) := by
  cases closed with
  | true => rfl
  | false =>
    simp only [close, fail_of_returns ho, call_of_returns ho, canSend_answered]
    rfl

/-- An answered reply stays answered; the only thing that an operation can add is the close. -/
theorem perform_answered (ho : o.Returns) (s : Sent) (c : Call) (closed : Bool) (op : Operation) :
    (answered s c closed).perform o op = answered s c (closed || op.closes) := by
  cases op with
  | respond r => simp [perform, respond_of_returns ho, Operation.closes]
  | fail => simp [perform, fail_of_returns ho, Operation.closes]
  | close => simp [perform, close_answered ho, Operation.closes]

/-- The first operation answers. -/
theorem perform_new (ho : o.Returns) (op : Operation) :
    perform o {} op = answered op.sent op.call op.closes := by
  have hcan : canSend {} = true := rfl
  cases op with
  | respond r =>
    rw [perform, respond_of_returns ho, if_pos hcan]
    rfl
  | fail =>
    rw [perform, fail_of_returns ho, if_pos hcan]
    rfl
  | close =>
    simp only [perform, close, fail_of_returns ho, call_of_returns ho, if_pos hcan]
    rfl

theorem foldl_answered (ho : o.Returns) (s : Sent) (c : Call) (closed : Bool)
    (ops : List Operation) :
    ops.foldl (perform o) (answered s c closed) =
      answered s c (closed || ops.any Operation.closes) := by
  induction ops generalizing closed with
  | nil => exact congrArg _ (Bool.or_false closed).symm
  | cons op ops ih =>
    rw [List.foldl_cons, perform_answered ho, ih, List.any_cons, Bool.or_assoc]

/-- **The reply after any operations.** The first one answers, and one of them may close. -/
theorem after_cons (ho : o.Returns) (op : Operation) (ops : List Operation) :
    after o (op :: ops) = answered op.sent op.call ((op :: ops).any Operation.closes) := by
  rw [after, List.foldl_cons, perform_new ho, foldl_answered ho, List.any_cons]

/-! ### Letting go -/

theorem answerOf_cons (op : Operation) (ops : List Operation) : answerOf (op :: ops) = op.call := by
  cases op <;> rfl

theorem answerOf_ne_close (ops : List Operation) : answerOf ops ≠ .close := by
  match ops with
  | [] | .fail :: _ | .close :: _ => nofun
  | .respond r :: _ =>
    change r.call ≠ .close
    unfold Response.call
    split <;> nofun

/-- Letting go of a reply leaves the answer and the close. -/
theorem drop_after (ho : o.Returns) (ops : List Operation) :
    ∃ s, (after o ops).drop o = answered s (answerOf ops) true := by
  cases ops with
  | nil => exact ⟨.error, perform_new ho .close⟩
  | cons op ops =>
    refine ⟨op.sent, ?_⟩
    rw [after_cons ho, drop, close_answered ho, answerOf_cons]

/-- Whatever its owner did with a reply, it is over once they let go of it. -/
theorem over_drop_after (ho : o.Returns) (ops : List Operation) : ((after o ops).drop o).Over := by
  obtain ⟨s, hs⟩ := drop_after ho ops
  exact ⟨s, answerOf ops, answerOf_ne_close ops, hs⟩

/-- Operations that follow change neither the answer nor that the output is closed. -/
theorem after_append_keeps (ho : o.Returns) (ops more : List Operation) :
    ((after o ops).sent ≠ none → (after o (ops ++ more)).sent = (after o ops).sent) ∧
      ((after o ops).closed = true → (after o (ops ++ more)).closed = true) := by
  cases ops with
  | nil => exact ⟨fun h => absurd rfl h, nofun⟩
  | cons op ops =>
    rw [List.cons_append, after_cons ho, after_cons ho]
    refine ⟨fun _ => rfl, fun (h : (op :: ops).any Operation.closes = true) => ?_⟩
    change ((op :: ops) ++ more).any Operation.closes = true
    rw [List.any_append, h, Bool.true_or]

/-- At any time the calls are a beginning of the answer and the close. -/
theorem calls_after_prefix (ho : o.Returns) (ops : List Operation) :
    (after o ops).calls <+: [answerOf ops, .close] := by
  cases ops with
  | nil => exact List.nil_prefix
  | cons op ops =>
    rw [after_cons ho, answerOf_cons, answered]
    split
    · exact List.prefix_rfl
    · exact List.prefix_append [op.call] [.close]

/-- **One answer, given by the first operation.** On an output whose calls return, with success or
with an I/O error, let the owner of a new reply do anything with it.

* Letting go of it then leaves exactly two calls behind, one answer and one close; the answer is
  that of a response that came before everything else, or else the error answer.
* A response is sent exactly if it is the first operation, and the owner is told; none of the
  operations panics.
* Whatever else is done, what was sent stays sent and what was closed stays closed, and the calls
  made so far are a beginning of those two: an answer that failed is the only one all the same. -/
theorem answered_by_first (ho : o.Returns) (ops : List Operation) :
    ((after o ops).drop o).calls = [answerOf ops, .close] ∧ answerOf ops ≠ .close ∧
      (∀ r, ((after o ops).respond o r).2 = some ops.isEmpty) ∧
      ((after o ops).fail o).2 = false ∧ ((after o ops).close o).2 = false ∧
      (∀ more, ((after o ops).sent ≠ none → (after o (ops ++ more)).sent = (after o ops).sent) ∧
        ((after o ops).closed = true → (after o (ops ++ more)).closed = true)) ∧
      (after o ops).calls <+: [answerOf ops, .close] ∧
      ∀ before c rest, ((after o ops).drop o).calls = before ++ c :: rest →
        c ≠ .close → before = [] ∧ rest = [.close] := by
  have hcalls : ((after o ops).drop o).calls = [answerOf ops, .close] := by
    obtain ⟨s, hs⟩ := drop_after ho ops
    rw [hs]
    rfl
  refine ⟨hcalls, answerOf_ne_close ops, fun r => ?_, by rw [fail_of_returns ho],
    snd_close_of_returns ho _, after_append_keeps ho ops, calls_after_prefix ho ops, ?_⟩
  · rw [respond_of_returns ho]
    cases ops with
    | nil => rfl
    | cons op ops => rw [after_cons ho, canSend_answered]; rfl
  · intro before c rest h hc
    rw [hcalls] at h
    match before with
    | [] => exact ⟨rfl, (List.cons.inj h).2.symm⟩
    | [_] => exact absurd (List.cons.inj (List.cons.inj h).2).1.symm hc
    | _ :: _ :: _ => simp at h

/-- A redirect that cannot be written is not followed by anything but the close. -/
theorem answered_by_first_sample :
    (Output.failing ["redirect"]).Returns ∧
      ((after (.failing ["redirect"]) [.respond (Response.redirectTo {} "/x"), .fail]).drop
        (.failing ["redirect"])).calls = [.redirect (Response.redirectTo {} "/x"), .close] := by
  have hreturns : (Output.failing ["redirect"]).Returns := fun _ _ => nofun
  exact ⟨hreturns, (answered_by_first hreturns _).1⟩

end Reply

end Switchboard
