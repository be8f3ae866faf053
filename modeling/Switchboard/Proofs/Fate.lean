import Switchboard.Proofs.Record

/-!
# The fate of a connection

What bears the fate of a connection is its middleware, later its dispatch, then its handler. In
some moves that fate is dropped without a count, in some its conversion fails, and in some it is
given up for the shutdown: `Thread.losses`, `Thread.failures` and `Thread.desertions` say in which,
and `tallyOf` how often in a run. `Act.even` is what every act does to the fate of its connection.
-/

namespace Switchboard

/-! ### Weights -/

namespace Event

/-- Whether an event bears the fate of its connection: it counts for one if it does. -/
def bears : Event → ℕ
  | middleware _ | dispatch _ | handler _ _ => 1
  | noop | conversion _ => 0

end Event

/-! ### What happens to a fate -/

namespace Task

/-- The connections that a task loses: a dispatch dies when making a copy panics. -/
def losses (p : Pipeline) (t : Task) : ℕ :=
  match t.phase, t.event with
  | .running, .dispatch x =>
    let found := (p.memo.resolve p.roster x.request.path).2
    if (p.roster.take (found.getD defaultCommand)).2 = .panicked then 1 else 0
  | _, _ => 0

/-- The conversions that a task is about to see fail. -/
def failures (t : Task) : ℕ :=
  match t.phase, t.event with
  | .working, .conversion job => job.result.counts.length
  | _, _ => 0

/-- The connections that a task is about to give up for the shutdown, whatever has become of their
conversion. -/
def desertions (p : Pipeline) (t : Task) : ℕ :=
  match t.phase, t.event with
  | .running, .middleware _ => if p.shouldAbandon then 1 else 0
  | _, _ => 0

variable {p : Pipeline} {t : Task}

theorem losses_eq_zero (h : t.phase ≠ .running ∨ ∀ x, t.event ≠ .dispatch x) :
    t.losses p = 0 := by
  unfold losses
  split
  · rename_i ht he
    rcases h with h | h
    · exact absurd ht h
    · exact absurd he (h _)
  · rfl

theorem failures_eq_zero (h : t.phase ≠ .working ∨ ∀ job, t.event ≠ .conversion job) :
    t.failures = 0 := by
  unfold failures
  split
  · rename_i ht he
    rcases h with h | h
    · exact absurd ht h
    · exact absurd he (h _)
  · rfl

theorem failures_conversion {job : Job} (ht : t.phase = .working) (he : t.event = .conversion job) :
    t.failures = job.result.counts.length := by
  simp [failures, ht, he]

theorem desertions_eq_zero
    (h : t.phase ≠ .running ∨ ∀ k, t.event = .middleware k → p.shouldAbandon = false) :
    t.desertions p = 0 := by
  unfold desertions
  split
  · rename_i ht he
    rcases h with h | h
    · exact absurd ht h
    · simp [h _ he]
  · rfl

theorem desertions_le (p : Pipeline) (t : Task) : t.desertions p ≤ 1 := by
  unfold desertions
  split
  · split <;> omega
  · omega

end Task

namespace Thread

/-- The connections whose fate a thread is about to drop without counting it. -/
def losses (p : Pipeline) : Thread → ℕ
  | acceptor (.publishing (.refused e _) next) => ((e.event :: next).map Event.bears).sum
  | dispatcher (.consuming (.holding e)) => if p.accepting then 0 else e.event.bears
  | closer (.drained (e :: _)) | joiner (.closing (.drained (e :: _))) => e.event.bears
  | task t => t.losses p
  | _ => 0

/-- The conversions that a thread is about to see fail. -/
def failures (_ : Pipeline) : Thread → ℕ
  | task t => t.failures
  | _ => 0

/-- The connections that a thread is about to give up for the shutdown. -/
def desertions (p : Pipeline) : Thread → ℕ
  | task t => t.desertions p
  | _ => 0

@[simp] theorem losses_task (p : Pipeline) (t : Task) : losses p (.task t) = t.losses p := rfl

@[simp] theorem failures_task (p : Pipeline) (t : Task) : failures p (.task t) = t.failures := rfl

@[simp] theorem desertions_task (p : Pipeline) (t : Task) :
    desertions p (.task t) = t.desertions p := rfl

end Thread

/-- How often something happens in the moves that are made for a connection. -/
def tallyOf (f : Pipeline → Thread → ℕ) (k : ℕ)
    (turns : List (Turn Chance Pipeline Thread)) : ℕ :=
  ((turnsOf k turns).map fun u => f u.before u.thread).sum

/-! ### Ends -/

/-- The ends that a connection comes to after its conversion. -/
def Counter.isLater : Counter → Bool
  | denied | unrouted | completed | handlerFailure | handlerPanic | abandoned => true
  | accepted | acceptError | conversionFailure | dispatched => false

/-- How often a connection is counted in an end after its conversion. -/
def laterOf (k : ℕ) (turns : List (Turn Chance Pipeline Thread)) : ℕ :=
  countOf k .denied turns + countOf k .unrouted turns + countOf k .completed turns +
    countOf k .handlerFailure turns + countOf k .handlerPanic turns + countOf k .abandoned turns

/-- How often a connection is counted in one of the seven ends. -/
def endsOf (k : ℕ) (turns : List (Turn Chance Pipeline Thread)) : ℕ :=
  countOf k .conversionFailure turns + laterOf k turns

variable {i : Chance} {p q : Pipeline} {t : Thread} {k : ℕ} {done due rest : Multiset Errand}
  {line line' : Line} {counts : List Counter} {notes : List Note}
  {turns : List (Turn Chance Pipeline Thread)} {u : Turn Chance Pipeline Thread}

theorem countP_isLater (counts : List Counter) :
    counts.countP Counter.isLater = counts.count .denied + counts.count .unrouted +
      counts.count .completed + counts.count .handlerFailure + counts.count .handlerPanic +
      counts.count .abandoned := by
  induction counts with
  | nil => rfl
  | cons c counts ih =>
    simp only [List.countP_cons, List.count_cons, ih]
    cases c <;> simp [Counter.isLater] <;> omega

namespace Conversion

/-- A conversion counts nothing but its own failure. -/
@[simp] theorem countP_counts (c : Conversion) : c.counts.countP Counter.isLater = 0 := by
  cases c <;> rfl

@[simp] theorem count_accepted_counts (c : Conversion) : c.counts.count .accepted = 0 := by
  cases c <;> rfl

theorem count_counts (c : Conversion) : c.counts.count .conversionFailure = c.counts.length := by
  cases c <;> rfl

theorem length_counts_le (c : Conversion) : c.counts.length ≤ 1 := by
  cases c with
  | ok x => exact Nat.zero_le 1
  | error e => exact le_rfl

end Conversion

/-! ### Tallies -/

/-- Nothing of this happens to what a thread merely carries. -/
def Spares (f : Pipeline → Thread → ℕ) : Prop := ∀ p t, t.Carries p → f p t = 0

theorem spares_losses : Spares Thread.losses := by
  intro p t h
  unfold Thread.losses
  split
  · exact h.elim
  · exact if_pos h
  · exact h.elim
  · exact h.elim
  · obtain ⟨pub, hpub⟩ := h
    exact Task.losses_eq_zero (Or.inl (by simp [hpub]))
  · rfl

theorem spares_failures : Spares Thread.failures := by
  intro p t h
  unfold Thread.failures
  split
  · obtain ⟨pub, hpub⟩ := h
    exact Task.failures_eq_zero (Or.inl (by simp [hpub]))
  · rfl

theorem spares_desertions : Spares Thread.desertions := by
  intro p t h
  unfold Thread.desertions
  split
  · obtain ⟨pub, hpub⟩ := h
    exact Task.desertions_eq_zero (Or.inl (by simp [hpub]))
  · rfl

variable {f : Pipeline → Thread → ℕ}

theorem Turn.Idle.tallyOf_snoc (hf : Spares f) (h : u.Idle k) :
    tallyOf f k (turns ++ [u]) = tallyOf f k turns := by
  by_cases hu : u.Concerns k
  · cases h with
    | elsewhere h => exact absurd hu h
    | carries h => simp [tallyOf, turnsOf_snoc hu, hf _ _ h]
  · rw [tallyOf, turnsOf_snoc_of_not hu, tallyOf]

theorem Turn.Idle.tallyOf_eq_zero (hf : Spares f) (h : ∀ u ∈ turns, u.Idle k) :
    tallyOf f k turns = 0 := by
  refine List.sum_eq_zero fun n hn => ?_
  obtain ⟨u, hu, rfl⟩ := List.mem_map.mp hn
  obtain ⟨hu, hk⟩ := List.mem_filter.mp hu
  cases h u hu with
  | elsewhere h => exact absurd (of_decide_eq_true hk) h
  | carries h => exact hf _ _ h

/-- Letting the connection in is none of it either. -/
theorem tallyOf_enter (hf : Spares f) (hl : ∀ p, f p (.acceptor .listening) = 0)
    (hidle : ∀ u ∈ turns, u.Idle k) :
    tallyOf f k (turns ++ [⟨i, .acceptor .listening, p, q⟩]) = 0 := by
  have hzero := Turn.Idle.tallyOf_eq_zero hf hidle
  by_cases hu : Turn.Concerns k ⟨i, .acceptor .listening, p, q⟩
  · simpa [tallyOf, turnsOf_snoc hu, hl] using hzero
  · rwa [tallyOf, turnsOf_snoc_of_not hu]

theorem Deed.Acts.tallyOf_snoc (h : Acts i p t done due q k line counts notes) :
    tallyOf f k (turns ++ [⟨i, t, p, q⟩]) = tallyOf f k turns + f p t := by
  simp [tallyOf, turnsOf_snoc h.concerns]

theorem Deed.Acts.laterOf_snoc (h : Acts i p t done due q k line counts notes) :
    laterOf k (turns ++ [⟨i, t, p, q⟩]) = laterOf k turns + counts.countP Counter.isLater := by
  simp only [laterOf, h.countOf_snoc, countP_isLater]
  omega

/-! ### What an act does to the books -/

/-- The hand-over holds a failed conversion. -/
def HandOver.Failed (h : HandOver) : Prop := ∃ e, h = .ready (.error e)

/-- The hand-over holds an exchange, or nothing will be handed over: the conversion has not failed
and will not. -/
def HandOver.Unfailing (h : HandOver) : Prop := h = .noSender ∨ ∃ x, h = .ready (.ok x)

/-- How the hand-over goes on in an act with these errands, in which so many conversions fail. -/
inductive HandOver.Goes (done due : Multiset Errand) (failures : ℕ) (h : HandOver) :
    HandOver → Prop where
  | still : Goes done due failures h h
  | ready {c : Conversion} (hdone : 0 < weight Event.converts done)
    (hdue : weight Event.converts due = 0) (hc : failures = c.counts.length) :
    Goes done due failures h (.ready c)
  | forsaken (hdone : 0 < weight Event.converts done) (hdue : weight Event.converts due = 0)
    (hf : failures = 0) : Goes done due failures h .noSender
  | left (hdone : 0 < weight Event.waits done) (hdue : weight Event.waits due = 0) :
    Goes done due failures h .noReceiver

namespace HandOver.Goes

variable {n : ℕ} {hand hand' : HandOver}

theorem failed (h : Goes done due n hand hand') (hf : hand'.Failed) : hand.Failed ∨ n = 1 := by
  obtain ⟨e, rfl⟩ := hf
  cases h with
  | still => exact Or.inl ⟨e, rfl⟩
  | ready hdone hdue hc => exact Or.inr hc

theorem unfailing (h : Goes done due n hand hand') (hu : hand'.Unfailing) : hand.Unfailing ∨
    0 < weight Event.converts done ∧ weight Event.converts due = 0 ∧ n = 0 := by
  rcases hu with rfl | ⟨x, rfl⟩
  · cases h with
    | still => exact Or.inl (Or.inl rfl)
    | forsaken hdone hdue hf => exact Or.inr ⟨hdone, hdue, hf⟩
  · cases h with
    | still => exact Or.inl (Or.inr ⟨x, rfl⟩)
    | ready hdone hdue hc => exact Or.inr ⟨hdone, hdue, hc⟩

theorem waits (h : Goes done due n hand .noReceiver) : hand = .noReceiver ∨
    0 < weight Event.waits done ∧ weight Event.waits due = 0 := by
  cases h with
  | still => exact Or.inl rfl
  | left hdone hdue => exact Or.inr ⟨hdone, hdue⟩

end HandOver.Goes

namespace Line

/-- What letting go of an event does to the hand-over. -/
theorem goes_drop (line : Line) (e : Event) :
    (line.drop e).handOver = line.handOver ∨
      (line.drop e).handOver = .noSender ∧ 0 < e.converts ∨
      (line.drop e).handOver = .noReceiver ∧ 0 < e.waits := by
  cases e with
  | noop | dispatch x | handler x inst => exact Or.inl rfl
  | middleware c =>
    refine Or.inr (Or.inr ⟨?_, Nat.one_pos⟩)
    rw [drop]
    split <;> rfl
  | conversion job =>
    have hline : (if job.binding = .early then line.close else line).handOver = line.handOver := by
      split <;> rfl
    rw [drop, forsake, hline]
    cases hh : line.handOver with
    | awaited => exact Or.inr (Or.inl ⟨rfl, Nat.one_pos⟩)
    | ready c | noSender | noReceiver => exact Or.inl (hline.trans hh)

theorem goes_foldl_drop (line : Line) (es : List Event) :
    (es.foldl drop line).handOver = line.handOver ∨
      (es.foldl drop line).handOver = .noSender ∧ 0 < (es.map Event.converts).sum ∨
      (es.foldl drop line).handOver = .noReceiver ∧ 0 < (es.map Event.waits).sum := by
  induction es generalizing line with
  | nil => exact Or.inl rfl
  | cons e es ih =>
    simp only [List.foldl_cons, List.map_cons, List.sum_cons]
    -- the last event that changes anything decides
    rcases ih (line.drop e) with hrest | ⟨hrest, hpos⟩ | ⟨hrest, hpos⟩
    · rw [hrest]
      rcases goes_drop line e with h | ⟨h, hpos⟩ | ⟨h, hpos⟩
      · exact Or.inl h
      · exact Or.inr (Or.inl ⟨h, by omega⟩)
      · exact Or.inr (Or.inr ⟨h, by omega⟩)
    · exact Or.inr (Or.inl ⟨hrest, by omega⟩)
    · exact Or.inr (Or.inr ⟨hrest, by omega⟩)

end Line

/-- What is so of every act, seen from the books: what bears the fate of the connection is passed
on, counted, or lost, unless the conversion is known to have failed; a conversion fails only if it
was to be done; only a connection that was converted gets any further; and whoever counts another
end than the one of those who give up is further, or waits for something that will not come. -/
structure Act.Even (p : Pipeline) (t : Thread) (line line' : Line) (done due : Multiset Errand)
    (counts : List Counter) : Prop where
  fate : weight Event.bears due + counts.countP Counter.isLater + t.losses p =
      weight Event.bears done ∨
    line.handOver.Failed ∧
      weight Event.bears due + counts.countP Counter.isLater + t.losses p + 1 =
        weight Event.bears done
  counted : counts.count .conversionFailure = t.failures p
  converts : weight Event.converts due + t.failures p ≤ weight Event.converts done
  hand : line.handOver.Goes done due (t.failures p) line'.handOver
  lates : weight Event.lates due ≤ weight Event.lates done ∨ line.handOver.Unfailing
  waits : weight Event.waits due ≤ weight Event.waits done
  deserts : t.desertions p ≤ counts.countP Counter.isLater
  ends : counts.countP Counter.isLater = t.desertions p ∨ line.handOver.Unfailing ∨
    0 < weight Event.lates done ∨ line.handOver = .noReceiver ∧ 0 < weight Event.waits done

/-- An event after the gate bears the fate of its connection, and letting go of it leaves the
hand-over alone. -/
theorem Event.of_lates {e : Event} (h : e.lates = 1) (line : Line) :
    e.bears = 1 ∧ (line.drop e).handOver = line.handOver := by
  cases e with
  | dispatch x | handler x inst => exact ⟨rfl, rfl⟩
  | noop | conversion job | middleware k => cases h

namespace Act

/-- Only letting a connection in counts it as accepted. -/
theorem count_accepted (h : Act i p k t done due line counts notes) :
    counts.count .accepted = 0 := by
  cases h with
  | convert | convertInVain => exact Conversion.count_accepted_counts _
  | handle =>
    rename_i e _ _ _ _
    cases e <;> rfl
  | _ => rfl

/-- An act that neither converts nor waits, and after which the hand-over is as before. -/
theorem Even.of_still {t : Thread} (hh : line'.handOver = line.handOver)
    (hf : t.failures p = 0) (hd : t.desertions p = 0) (hc : counts.count .conversionFailure = 0)
    (fate : weight Event.bears due + counts.countP Counter.isLater + t.losses p =
      weight Event.bears done)
    (converts : weight Event.converts due ≤ weight Event.converts done)
    (waits : weight Event.waits due ≤ weight Event.waits done)
    (lates : weight Event.lates due ≤ weight Event.lates done)
    (ends : counts.countP Counter.isLater = 0 ∨ 0 < weight Event.lates done) :
    Even p t line line' done due counts where
  fate := Or.inl fate
  counted := hc.trans hf.symm
  converts := hf ▸ converts
  hand := hh ▸ .still
  lates := Or.inl lates
  waits := waits
  deserts := hd ▸ Nat.zero_le _
  ends := by
    rw [hd]
    rcases ends with h | h
    · exact Or.inl h
    · exact Or.inr (Or.inr (Or.inl h))

/-- A conversion, whatever it does to the hand-over. -/
theorem Even.of_conversion {t : Task} {job : Job} (ht : t.phase = .working)
    (he : t.event = .conversion job) {o : Outcome}
    (hand : line.handOver.Goes {.begun t.event t.observers} {.reporting t.event t.observers o}
      (Thread.failures p (.task t)) line'.handOver) :
    Even p (.task t) line line' {.begun t.event t.observers} {.reporting t.event t.observers o}
      job.result.counts where
  fate := Or.inl (by simp [Task.losses, ht, he, Event.bears])
  counted := by
    rw [Conversion.count_counts, Thread.failures_task, Task.failures_conversion ht he]
  converts := by
    have hle := Conversion.length_counts_le job.result
    simpa [Task.failures_conversion ht he, he, Event.converts] using hle
  hand := hand
  lates := by simp
  waits := by simp
  deserts := by simp [Task.desertions, ht]
  ends := Or.inl (by simp [Task.desertions, ht])

/-- A middleware that takes the result of its conversion. -/
theorem Even.of_taken {t : Task} (ht : t.phase = .working) (he : t.event = .middleware k)
    (hh : line'.handOver = .noReceiver) (converts : weight Event.converts due = 0)
    (waits : weight Event.waits due = 0)
    (lates : weight Event.lates due ≤ 0 ∨ line.handOver.Unfailing)
    (hc : counts.count .conversionFailure = 0)
    (fate : weight Event.bears due + counts.countP Counter.isLater =
        weight Event.bears {.begun t.event t.observers} ∨
      line.handOver.Failed ∧ weight Event.bears due + counts.countP Counter.isLater + 1 =
        weight Event.bears {.begun t.event t.observers})
    (ends : counts.countP Counter.isLater = 0 ∨ line.handOver.Unfailing) :
    Even p (.task t) line line' {.begun t.event t.observers} due counts := by
  have hf : t.failures = 0 := Task.failures_eq_zero (Or.inr (by simp [he]))
  have hd : t.desertions p = 0 := Task.desertions_eq_zero (Or.inl (by simp [ht]))
  have hl : t.losses p = 0 := Task.losses_eq_zero (Or.inl (by simp [ht]))
  exact {
    fate := by simpa [hl] using fate
    counted := by simpa [hf] using hc
    converts := by simp [converts, hf]
    hand := hh ▸ .left (by simp [he, Event.waits]) waits
    lates := lates.imp_left fun h => by omega
    waits := by simp [waits]
    deserts := by simp [hd]
    ends := by
      rcases ends with h | h
      · exact Or.inl (by simpa [hd] using h)
      · exact Or.inr (Or.inl h) }

/-- Every act is even: whatever it does to the fate of its connection, it accounts for. -/
theorem even (h : Act i p k t done due line counts notes) :
    Even p t (p.ledger.line k) line done due counts := by
  cases h with
  | @drop e error next closed he =>
    exact {
      fate := Or.inl (by simp [Thread.losses, Function.comp_def])
      counted := rfl
      converts := by simp [Thread.failures]
      hand := by
        rcases Line.goes_foldl_drop (p.ledger.line k) (e.event :: next) with
          hh | ⟨hh, hpos⟩ | ⟨hh, hpos⟩
        · exact hh ▸ .still
        · exact hh ▸ .forsaken (by simpa [Function.comp_def] using hpos) rfl rfl
        · exact hh ▸ .left (by simpa [Function.comp_def] using hpos) rfl
      lates := by simp
      waits := by simp
      deserts := le_rfl
      ends := Or.inl rfl }
  | @discard _ e ht he =>
    have hf : t.failures p = 0 := by cases ht <;> rfl
    have hd : t.desertions p = 0 := by cases ht <;> rfl
    exact {
      fate := by
        cases ht with
        | dispatcher h => simp [Thread.losses, h]
        | closer | joiner => simp [Thread.losses]
      counted := hf.symm
      converts := by simp [hf]
      hand := by
        rcases Line.goes_drop (p.ledger.line k) e.event with hh | ⟨hh, hpos⟩ | ⟨hh, hpos⟩
        · exact hh ▸ .still
        · exact hh ▸ .forsaken (by simpa using hpos) rfl hf
        · exact hh ▸ .left (by simpa using hpos) rfl
      lates := by simp
      waits := by simp
      deserts := hd.le
      ends := Or.inl hd.symm }
  | @begins t ht he stays =>
    exact .of_still rfl (Task.failures_eq_zero (Or.inl (by simp [ht])))
      (Task.desertions_eq_zero (Or.inr stays)) rfl
      (by simp [Task.losses_eq_zero (Or.inr he.2)]) (by simp) (by simp) (by simp) (by simp)
  | @poll t ht he =>
    have hl : t.losses p = 0 := Task.losses_eq_zero (Or.inl (by simp [ht]))
    exact .of_still rfl (Task.failures_eq_zero (Or.inr (by simp [he])))
      (Task.desertions_eq_zero (Or.inl (by simp [ht]))) rfl (by simp [hl]) (by simp) (by simp)
      (by simp) (by simp)
  | @convert t job ht he hk awaited =>
    exact .of_conversion ht he (.ready (by simp [he, Event.converts]) (by simp)
      (Task.failures_conversion ht he))
  | @convertInVain t job ht he hk left =>
    have hh : (if job.Binds then (p.ledger.line k).close else p.ledger.line k).handOver =
        (p.ledger.line k).handOver := by
      split <;> rfl
    exact .of_conversion ht he (hh ▸ .still)
  | @giveUp t done he why =>
    have hf : t.failures = 0 := Task.failures_eq_zero (Or.inr (by simp [he]))
    have hl : t.losses p = 0 := Task.losses_eq_zero (Or.inr (by simp [he]))
    have hbears : weight Event.bears done = 1 := by
      rcases why with ⟨-, rfl, -⟩ | ⟨-, rfl, -⟩ <;> simp [he, Event.bears]
    have hwaits : 0 < weight Event.waits done := by
      rcases why with ⟨-, rfl, -⟩ | ⟨-, rfl, -⟩ <;> simp [he, Event.waits]
    have hh : ((p.ledger.line k).drop (.middleware k)).handOver = .noReceiver := by
      rw [Line.drop]
      split <;> rfl
    exact {
      fate := Or.inl (by simp [hbears, hl, Counter.isLater])
      counted := hf.symm
      converts := by simp [hf]
      hand := hh ▸ .left hwaits rfl
      lates := by simp
      waits := by simp
      deserts := Task.desertions_le p t
      -- it gives up for the shutdown, or since the conversion is gone, or it was not to wait
      ends := by
        rcases why with ⟨ht, -, hshut⟩ | ⟨-, -, hnone | hleft⟩
        · exact Or.inl (by simp [Task.desertions, ht, he, hshut, Counter.isLater])
        · exact Or.inr (Or.inl (Or.inl hnone))
        · exact Or.inr (Or.inr (Or.inr ⟨hleft, hwaits⟩)) }
  | @malformed t e ht he ready =>
    have hh : (if e.reply = none then (p.ledger.line k).leave
        else (p.ledger.line k).leave.close).handOver = .noReceiver := by
      split <;> rfl
    exact .of_taken ht he hh (by simp) (by simp) (by simp) rfl
      (Or.inr ⟨⟨e, ready⟩, by simp [he, Event.bears]⟩) (Or.inl rfl)
  | @deny t x gate ht he ready asked =>
    exact .of_taken ht he rfl (by simp) (by simp) (Or.inl (by simp)) rfl
      (Or.inl (by simp [he, Event.bears, Counter.isLater])) (Or.inr (Or.inr ⟨x, ready⟩))
  | @grant t x gate ht he ready hx asked =>
    exact .of_taken ht he rfl (by simp [Event.converts]) (by simp [Event.waits])
      (Or.inr (Or.inr ⟨x, ready⟩)) rfl (Or.inl (by simp [he, Event.bears])) (Or.inl rfl)
  | @noRoute t x memo found roster ht he hx resolved taken =>
    refine .of_still rfl (Task.failures_eq_zero (Or.inr (by simp [he])))
      (Task.desertions_eq_zero (Or.inr (by simp [he]))) rfl ?_ (by simp) (by simp) (by simp)
      (Or.inr (by simp [he, Event.lates]))
    simp [Task.losses, ht, he, resolved, taken, Event.bears, Counter.isLater]
  | @die t x memo found roster ht he hx resolved taken =>
    refine .of_still rfl (Task.failures_eq_zero (Or.inr (by simp [he])))
      (Task.desertions_eq_zero (Or.inr (by simp [he]))) rfl ?_ (by simp) (by simp) (by simp)
      (Or.inl rfl)
    simp [Task.losses, ht, he, resolved, taken, Event.bears]
  | @dispatch t x memo found roster inst ht he hx resolved taken =>
    refine .of_still rfl (Task.failures_eq_zero (Or.inr (by simp [he])))
      (Task.desertions_eq_zero (Or.inr (by simp [he]))) rfl ?_ (by simp [Event.converts])
      (by simp [Event.waits]) (by simp [he, Event.lates]) (Or.inl rfl)
    simp [Task.losses, ht, he, resolved, taken, Event.bears, Counter.isLater]
  | @handle t x inst e ht he hx run =>
    have hl : t.losses p = 0 := Task.losses_eq_zero (Or.inr (by simp [he]))
    refine .of_still (Line.handOver_treat _ e) (Task.failures_eq_zero (Or.inr (by simp [he])))
      (Task.desertions_eq_zero (Or.inr (by simp [he]))) ?_ ?_ (by simp) (by simp) (by simp)
      (Or.inr (by simp [he, Event.lates]))
    · cases e <;> rfl
    · cases e <;> simp [hl, he, Event.bears, Counter.isLater, HandlerEnd.counter]
  | @pass t ht =>
    refine .of_still rfl (Task.failures_eq_zero (Or.inl (by simp [ht])))
      (Task.desertions_eq_zero (Or.inl (by simp [ht]))) rfl ?_ (by simp) (by simp) (by simp)
      (Or.inl rfl)
    simp [Task.losses, ht]
  | @refuse t e error ht closed he late =>
    obtain ⟨hbears, hstill⟩ := e.event.of_lates late (p.ledger.line k)
    refine .of_still hstill (Task.failures_eq_zero (Or.inl (by simp [ht])))
      (Task.desertions_eq_zero (Or.inl (by simp [ht]))) rfl ?_ (by simp) (by simp) (by simp)
      (Or.inr (by simp [late]))
    simp [Task.losses, ht, hbears, Counter.isLater]
  | @report t o ht =>
    refine .of_still rfl (Task.failures_eq_zero (Or.inl (by simp [ht])))
      (Task.desertions_eq_zero (Or.inl (by simp [ht]))) rfl ?_ (by simp) (by simp) (by simp)
      (Or.inl rfl)
    simp [Task.losses, ht]

end Act

end Switchboard
