import Switchboard.Proofs.Reply
import Switchboard.Proofs.Run

/-!
# One answer and one close

The reply of a connection passes from hand to hand: from the conversion job to the waiter that takes
its result, to the dispatch, to the handler, each of which may be refused, discarded or die. At any
time it has one keeper, and nothing was sent; or it has none any more, and then it was answered once
and closed once, unless no job ever bound it. That is `Custody`, which every act keeps.

* `Engine.Opening.answered_once`: whatever the threads do in whatever order, the calls on the output
  of a connection are always a beginning of one answer and one close, and they are both of them as
  soon as a reply that was bound has no keeper left.
-/

namespace Switchboard

/-! ### Replies that are over -/

namespace Line

variable {line : Line}

theorem over_close (hr : line.reply = {}) (ho : line.output.Returns) :
    line.close.reply.Over := by
  simp only [close, hr]
  exact Reply.over_drop_after ho []

theorem over_refuse (hr : line.reply = {}) (ho : line.output.Returns) :
    line.refuse.close.reply.Over := by
  simp only [refuse, close, hr]
  exact Reply.over_drop_after ho [.fail]

/-- However a handler ends, the reply of its connection is over. -/
theorem over_treat (hr : line.reply = {}) (ho : line.output.Returns) (e : HandlerEnd) :
    (line.treat e).reply.Over := by
  cases e with
  | answered r =>
    simp only [treat, respond, close, hr]
    exact Reply.over_drop_after ho [.respond r]
  | failed e => exact over_refuse hr ho
  | panicked payload => exact over_close hr ho

end Line

/-! ### Keepers -/

/-- Whether an event owns the reply of its connection, or is the conversion that will bind it. -/
def Event.keeps : Event → ℕ
  | .conversion _ | .dispatch _ | .handler _ _ => 1
  | .noop | .middleware _ => 0

/-- Whether a hand-over holds a reply. -/
def HandOver.keeps : HandOver → ℕ
  | .ready c => if c.reply? = none then 0 else 1
  | _ => 0

/-- How many own the reply of a connection: its errands, or the hand-over. -/
def Engine.keepers (g : Engine) (k : ℕ) : ℕ :=
  weight Event.keeps (errandsOf k g.errands) + (g.shared.ledger.line k).handOver.keeps

/-- The reply of a connection with so many keepers: it is kept untouched, or it is over, or it was
never bound and is let go of untouched. -/
inductive Reply.Kept (bound : Prop) : ℕ → Reply → Prop where
  | kept : Kept bound 1 {}
  | finished {g : Reply} (h : g.Over) : Kept bound 0 g
  | unbound (h : ¬ bound) : Kept bound 0 {}

namespace Reply.Kept

variable {bound : Prop} {n : ℕ} {g : Reply}

/-- Where there is a keeper there is no other, and nothing was sent. -/
theorem of_succ (h : Kept bound (n + 1) g) : n = 0 ∧ g = {} := by
  cases h
  exact ⟨rfl, rfl⟩

theorem mono {bound' : Prop} (h : Kept bound n g) (hb : bound' → bound) : Kept bound' n g := by
  cases h with
  | kept => exact .kept
  | finished h => exact .finished h
  | unbound h => exact .unbound fun hb' => h (hb hb')

theorem le_one (h : Kept bound n g) : n ≤ 1 := by
  cases h <;> omega

end Reply.Kept

/-! ### When a reply is bound -/

/-- When the reply of an arriving connection is bound. -/
def Arrival.binding? : Arrival → Option Binding
  | connection _ _ binding _ => some binding
  | fault => none

/-- A move that binds the reply of a connection: the connection is let in and its reply is bound at
once, or its conversion job is run and binds it. -/
def Turn.Binds (k : ℕ) (u : Turn Chance Pipeline Thread) : Prop :=
  match u.thread with
  | .acceptor .listening =>
    u.before.ledger.length = k ∧ u.before.incoming.head?.bind Arrival.binding? = some .early
  | .task ⟨.conversion job, _, .working⟩ => job.connection = k ∧ job.Binds
  | _ => False

instance (k : ℕ) (u : Turn Chance Pipeline Thread) : Decidable (u.Binds k) := by
  unfold Turn.Binds
  split <;> infer_instance

/-- The reply of a connection was bound in one of these moves. -/
def Bound (k : ℕ) (turns : List (Turn Chance Pipeline Thread)) : Prop := ∃ u ∈ turns, u.Binds k

instance (k : ℕ) (turns : List (Turn Chance Pipeline Thread)) : Decidable (Bound k turns) :=
  inferInstanceAs (Decidable (∃ u ∈ turns, u.Binds k))

theorem Turn.Idle.not_binds {k : ℕ} {u : Turn Chance Pipeline Thread} (h : u.Idle k) :
    ¬ u.Binds k := by
  obtain ⟨i, t, p, q⟩ := u
  unfold Turn.Binds
  cases h with
  | elsewhere h =>
    dsimp only at h ⊢
    split
    · rintro ⟨rfl, hin⟩
      cases hp : p.incoming with
      | nil => simp [hp] at hin
      | cons a incoming =>
        cases a with
        | connection => exact h (by simp [Thread.connection?, hp])
        | fault => simp [hp, Arrival.binding?] at hin
    · rintro ⟨rfl, -⟩
      exact h rfl
    · exact id
  | carries h =>
    dsimp only at h ⊢
    split
    · rintro ⟨-, hin⟩
      have h : p.incoming = [] := h
      simp [h] at hin
    · rintro -
      obtain ⟨pub, hpub⟩ := h
      cases hpub
    · exact id

theorem bound_snoc {k : ℕ} {turns : List (Turn Chance Pipeline Thread)}
    {u : Turn Chance Pipeline Thread} : Bound k (turns ++ [u]) ↔ Bound k turns ∨ u.Binds k := by
  simp [Bound, or_and_right, exists_or]

/-! ### Custody -/

namespace Errand

/-- The job of a conversion that was not run yet. -/
def job? : Errand → Option Job
  | pending (.conversion job) _ | begun (.conversion job) _ => some job
  | _ => none

theorem keeps_of_job {a : Errand} {job : Job} (h : a.job? = some job) :
    a.weigh Event.keeps = 1 := by
  unfold job? at h
  split at h
  · rfl
  · rfl
  · cases h

end Errand

/-- What is so of a connection at any time: its reply has one keeper and is untouched, or has none
and is over or was never bound; and a reply that is not bound early is not bound before its job is
run. -/
structure Custody (turns : List (Turn Chance Pipeline Thread)) (k : ℕ) (line : Line)
    (es : Multiset Errand) : Prop where
  returns : line.output.Returns
  kept : line.reply.Kept (Bound k turns) (weight Event.keeps es + line.handOver.keeps)
  unbound : ∀ a ∈ es, ∀ job, a.job? = some job → job.binding ≠ .early → ¬ Bound k turns

variable {i : Chance} {p q : Pipeline} {t : Thread} {k : ℕ} {done due rest : Multiset Errand}
  {line : Line} {counts : List Counter} {notes : List Note}
  {turns : List (Turn Chance Pipeline Thread)}

/-- An act leaves no conversion behind that was not there before. -/
theorem Act.jobs (h : Act i p k t done due line counts notes) :
    ∀ a ∈ due, ∀ job, a.job? = some job → ∃ b ∈ done, b.job? = some job := by
  intro a ha job hj
  cases h with
  | @begins t ht he stays =>
    refine ⟨_, Multiset.mem_singleton_self _, ?_⟩
    rw [Multiset.mem_singleton.mp ha] at hj
    cases hte : t.event <;> rw [hte] at hj <;> exact hj
  | drop | discard | die | report => cases ha
  | @poll t ht he =>
    rw [Multiset.mem_singleton.mp ha, he] at hj
    cases hj
  | grant | dispatch =>
    simp only [Multiset.insert_eq_cons, Multiset.mem_cons, Multiset.mem_singleton] at ha
    rcases ha with rfl | rfl <;> cases hj
  | _ =>
    rw [Multiset.mem_singleton.mp ha] at hj
    cases hj

/-- Without keepers there is no job that was not run. -/
theorem job_eq_none_of_keepers {es : Multiset Errand} (h : weight Event.keeps es = 0) {a : Errand}
    (ha : a ∈ es) : a.job? = none := by
  cases hj : a.job? with
  | none => rfl
  | some job =>
    have := (weight_eq_zero_iff _ _).mp h a ha
    have := Errand.keeps_of_job hj
    omega

namespace Line

variable {line : Line} {bound : Prop} {n : ℕ}

theorem keeps_forsake (line : Line) : line.forsake.handOver.keeps = line.handOver.keeps := by
  unfold forsake
  split
  · rename_i hh
    rw [hh]
    rfl
  · rfl

theorem output_drop (line : Line) (e : Event) : (line.drop e).output = line.output := by
  cases e with
  | noop | dispatch x | handler x inst => rfl
  | conversion job =>
    rw [drop, Ledger.output_forsake]
    split <;> rfl
  | middleware c =>
    simp only [drop]
    split
    · split <;> rfl
    · rfl

theorem output_foldl_drop (line : Line) (es : List Event) :
    (es.foldl drop line).output = line.output := by
  induction es generalizing line with
  | nil => rfl
  | cons e es ih => exact (ih (line.drop e)).trans (output_drop line e)

theorem output_treat (line : Line) (e : HandlerEnd) : (line.treat e).output = line.output := by
  cases e <;> rfl

/-- Letting go of an event that owns the reply ends it, and letting go of another leaves it. -/
theorem kept_drop {e : Event} (ho : line.output.Returns)
    (h : line.reply.Kept bound (e.keeps + n + line.handOver.keeps))
    (hb : ∀ job, e = .conversion job → job.binding ≠ .early → ¬ bound) :
    (line.drop e).reply.Kept bound (n + (line.drop e).handOver.keeps) := by
  have hspend : e.keeps = 1 → n + line.handOver.keeps = 0 ∧ line.reply = {} := by
    intro he
    rw [he, add_assoc, add_comm] at h
    exact h.of_succ
  cases e with
  | noop => simpa [Event.keeps, drop] using h
  | dispatch x | handler x inst =>
    obtain ⟨hz, hr⟩ := hspend rfl
    have hz : n + (line.drop (.dispatch x)).handOver.keeps = 0 := hz
    exact hz ▸ .finished (over_close hr ho)
  | conversion job =>
    obtain ⟨hz, hr⟩ := hspend rfl
    have hz' : n + (line.drop (.conversion job)).handOver.keeps = 0 := by
      simp only [drop, keeps_forsake]
      split <;> exact hz
    rw [hz']
    by_cases hearly : job.binding = .early
    · simp only [drop, if_pos hearly, Ledger.reply_forsake]
      exact .finished (over_close hr ho)
    · simp only [drop, if_neg hearly, Ledger.reply_forsake, hr]
      exact .unbound (hb job rfl hearly)
  | middleware c =>
    simp only [Event.keeps, zero_add] at h
    cases hh : line.handOver with
    | ready r =>
      rw [hh] at h
      by_cases hr : r.reply? = none
      · simpa [drop, hh, hr, HandOver.keeps, leave] using h
      · have h : line.reply.Kept bound (n + 1) := by simpa [HandOver.keeps, hr] using h
        obtain ⟨rfl, hreply⟩ := h.of_succ
        simp only [drop, hh, if_neg hr]
        exact .finished (over_close hreply ho)
    | awaited | noSender | noReceiver =>
      simpa [drop, hh, HandOver.keeps, leave] using h

/-- The same for several events, one after the other. -/
theorem kept_foldl_drop {es : List Event} (ho : line.output.Returns)
    (h : line.reply.Kept bound ((es.map Event.keeps).sum + n + line.handOver.keeps))
    (hb : ∀ e ∈ es, ∀ job, e = .conversion job → job.binding ≠ .early → ¬ bound) :
    (es.foldl drop line).reply.Kept bound (n + (es.foldl drop line).handOver.keeps) := by
  induction es generalizing line with
  | nil => simpa using h
  | cons e es ih =>
    rw [List.map_cons, List.sum_cons, add_assoc e.keeps] at h
    have hfirst := kept_drop ho h (hb e List.mem_cons_self)
    exact ih (output_drop line e ▸ ho) hfirst fun e' he' => hb e' (List.mem_cons_of_mem e he')

end Line

namespace Custody

/-- A move that binds nothing may be added to the moves made so far. -/
theorem snoc {u : Turn Chance Pipeline Thread} (h : Custody turns k line rest)
    (hu : ¬ u.Binds k) : Custody (turns ++ [u]) k line rest := by
  have hb : Bound k (turns ++ [u]) ↔ Bound k turns := by rw [bound_snoc]; tauto
  exact ⟨h.returns, h.kept.mono hb.mp, fun a ha job hj he => mt hb.mp (h.unbound a ha job hj he)⟩

/-- A connection whose reply changes hands: what is due has as many keepers as what was done, the
hand-over included, and the jobs that were not run are the same. -/
theorem replace {line' : Line} (h : Custody turns k line (done + rest))
    (hreply : line'.reply = line.reply) (hout : line'.output = line.output)
    (hkeep : weight Event.keeps due + line'.handOver.keeps =
      weight Event.keeps done + line.handOver.keeps)
    (hjob : ∀ a ∈ due, ∀ job, a.job? = some job → ∃ b ∈ done, b.job? = some job) :
    Custody turns k line' (due + rest) where
  returns := hout ▸ h.returns
  kept := by
    have hk := h.kept
    rw [weight_add] at hk ⊢
    rw [hreply, add_right_comm, hkeep, add_right_comm]
    exact hk
  unbound a ha job hj := by
    rcases Multiset.mem_add.mp ha with ha | ha
    · obtain ⟨b, hb, hj⟩ := hjob a ha job hj
      exact h.unbound b (Multiset.mem_add.mpr (Or.inl hb)) job hj
    · exact h.unbound a (Multiset.mem_add.mpr (Or.inr ha)) job hj

/-- If an errand that is done keeps the reply, nobody else does. -/
theorem of_done (h : Custody turns k line (done + rest)) (hd : weight Event.keeps done = 1) :
    weight Event.keeps rest = 0 ∧ line.handOver.keeps = 0 ∧ line.reply = {} := by
  have hk := h.kept
  rw [weight_add, hd, add_assoc, add_comm] at hk
  obtain ⟨hz, hr⟩ := hk.of_succ
  exact ⟨by omega, by omega, hr⟩

/-- If the hand-over keeps the reply, no errand does. -/
theorem of_handOver (h : Custody turns k line (done + rest)) (hh : line.handOver.keeps = 1) :
    weight Event.keeps rest = 0 ∧ line.reply = {} := by
  have hk := h.kept
  rw [weight_add, hh] at hk
  obtain ⟨hz, hr⟩ := hk.of_succ
  exact ⟨by omega, hr⟩

/-- A connection without keepers. -/
theorem of_none {es : Multiset Errand} (ho : line.output.Returns) (hes : weight Event.keeps es = 0)
    (hh : line.handOver.keeps = 0) (hr : line.reply.Kept (Bound k turns) 0) :
    Custody turns k line es where
  returns := ho
  kept := by rw [hes, hh]; exact hr
  unbound a ha job hj := by
    rw [job_eq_none_of_keepers hes ha] at hj
    cases hj

/-- Errands without a reply may be added. -/
theorem add_due (h : Custody turns k line rest) (hdue : weight Event.keeps due = 0) :
    Custody turns k line (due + rest) where
  returns := h.returns
  kept := by
    rw [weight_add, hdue, zero_add]
    exact h.kept
  unbound a ha job hj := by
    rcases Multiset.mem_add.mp ha with ha | ha
    · rw [job_eq_none_of_keepers hdue ha] at hj
      cases hj
    · exact h.unbound a ha job hj

/-- Events that are let go of, one after the other. -/
theorem drops (es : List Event) (h : Custody turns k line (done + rest))
    (hkeep : weight Event.keeps done = (es.map Event.keeps).sum)
    (hjob : ∀ job, .conversion job ∈ es → ∃ a ∈ done, a.job? = some job) :
    Custody turns k (es.foldl Line.drop line) rest where
  returns := Line.output_foldl_drop line es ▸ h.returns
  kept := by
    refine Line.kept_foldl_drop h.returns ?_ ?_
    · rw [← hkeep, ← weight_add]
      exact h.kept
    · rintro e he job rfl
      obtain ⟨a, ha, hj⟩ := hjob job he
      exact h.unbound a (Multiset.mem_add.mpr (Or.inl ha)) job hj
  unbound a ha := h.unbound a (Multiset.mem_add.mpr (Or.inr ha))

/-- A task that runs no conversion binds no reply. -/
theorem not_binds_task {t : Task} (h : t.phase = .working → ∀ job, t.event ≠ .conversion job) :
    ¬ Turn.Binds k ⟨i, .task t, p, q⟩ := by
  unfold Turn.Binds
  split
  · rename_i heq
    cases heq
  · rename_i job _ heq
    obtain rfl := Thread.task.inj heq
    exact absurd rfl (h rfl job)
  · exact id

theorem binds_task_iff {t : Task} {job : Job} (ht : t.phase = .working)
    (he : t.event = .conversion job) (hk : job.connection = k) :
    Turn.Binds k ⟨i, .task t, p, q⟩ ↔ job.Binds := by
  obtain ⟨e, observers, phase⟩ := t
  obtain rfl : phase = .working := ht
  obtain rfl : e = .conversion job := he
  exact and_iff_right hk

/-- Every act keeps the custody of the reply. -/
theorem act (h : Custody turns k (p.ledger.line k) (done + rest))
    (hact : Act i p k t done due line counts notes) :
    Custody (turns ++ [⟨i, t, p, q⟩]) k line (due + rest) := by
  have ho := h.returns
  have hjobs := hact.jobs
  cases hact with
  | @drop e error next closed he =>
    refine snoc (add_due (drops _ h ?_ fun job hj => ?_) (weight_zero _)) id
    · simp [Function.comp_def]
    · rcases List.mem_cons.mp hj with hj | hj
      · exact ⟨_, Multiset.mem_cons_self _ _, by rw [← hj]; rfl⟩
      · exact ⟨.pending (.conversion job) p.queue.observers, Multiset.mem_cons_of_mem
          (Multiset.mem_coe.mpr (List.mem_map.mpr ⟨_, hj, rfl⟩)), rfl⟩
  | @discard _ e ht he =>
    refine snoc (add_due (drops [e.event] h (by simp) fun job hj => ?_) (weight_zero _)) ?_
    · exact ⟨_, Multiset.mem_singleton_self _, by rw [← List.mem_singleton.mp hj]; rfl⟩
    · cases ht <;> exact id
  | @begins t ht he stays =>
    exact snoc (h.replace rfl rfl (by simp) hjobs) (not_binds_task (by simp [ht]))
  | @poll t ht he =>
    exact snoc (h.replace rfl rfl (by simp) hjobs) (not_binds_task (by simp [he]))
  | @convert t job ht he hk awaited =>
    have hbinds := binds_task_iff (i := i) (p := p) (q := q) ht he hk
    obtain ⟨hz, hh, hr⟩ := h.of_done (by simp [he, Event.keeps])
    have hunbound := h.unbound (.begun t.event t.observers) (by simp) job (by rw [he]; rfl)
    by_cases hs : job.Spoils
    · -- the job closes what it does not hand on
      rw [Line.run, if_pos hs]
      refine of_none ho (by simp [hz]) ?_ (.finished (Line.over_close hr ho))
      simp [Line.handOn, HandOver.keeps, hs.2]
    rw [Line.run, if_neg hs]
    rcases job.reply?_result with hres | hres
    · -- a late job that fails has bound nothing
      have hlate : job.binding = .late := not_not.mp fun hl => hs ⟨hl, hres⟩
      refine of_none ho (by simp [hz]) (by simp [Line.handOn, HandOver.keeps, hres]) ?_
      rw [Line.handOn, hr]
      refine .unbound fun hb => ?_
      rcases bound_snoc.mp hb with hb | hb
      · exact hunbound (by simp [hlate]) hb
      · rcases hbinds.mp hb with hb | hb
        · exact hb hlate
        · simp [hres] at hb
    · -- the reply passes from the job to the hand-over
      refine ⟨ho, ?_, fun a ha job hj => ?_⟩
      · have hk : weight Event.keeps ({.reporting t.event t.observers job.result.outcome} + rest) +
            ((p.ledger.line k).handOn job.result).handOver.keeps = 1 := by
          simp [hz, Line.handOn, HandOver.keeps, hres]
        rw [hk, Line.handOn, hr]
        exact .kept
      · rw [job_eq_none_of_keepers (by simp [hz]) ha] at hj
        cases hj
  | @convertInVain t job ht he hk left =>
    have hbinds := binds_task_iff (i := i) (p := p) (q := q) ht he hk
    obtain ⟨hz, hh, hr⟩ := h.of_done (by simp [he, Event.keeps])
    have hunbound := h.unbound (.begun t.event t.observers) (by simp) job (by rw [he]; rfl)
    by_cases hb : job.Binds
    · -- nobody takes the result, and the reply is dropped with it
      rw [if_pos hb]
      exact of_none ho (by simp [hz]) hh (.finished (Line.over_close hr ho))
    · rw [if_neg hb]
      refine of_none ho (by simp [hz]) hh ?_
      rw [hr]
      refine .unbound fun hb' => ?_
      rcases bound_snoc.mp hb' with hb' | hb'
      · exact hunbound (fun hearly => hb (Or.inl (by simp [hearly]))) hb'
      · exact hb (hbinds.mp hb')
  | @giveUp t done he why =>
    refine snoc (add_due (drops [.middleware k] h ?_ (by simp)) (by simp))
      (not_binds_task (by simp [he]))
    rcases why with ⟨-, rfl, -⟩ | ⟨-, rfl, -⟩ <;> simp [he]
  | @malformed t e ht he ready =>
    have hnot : ¬ Turn.Binds k ⟨i, .task t, p, q⟩ := not_binds_task (by simp [he])
    by_cases hrep : e.reply = none
    · -- the failed job had bound nothing, or had closed what it had bound
      rw [if_pos hrep]
      refine snoc (h.replace rfl rfl ?_ hjobs) hnot
      simp [ready, HandOver.keeps, Conversion.reply?, hrep, he, Event.keeps, Line.leave]
    · rw [if_neg hrep]
      obtain ⟨hz, hr⟩ := h.of_handOver (by simp [ready, HandOver.keeps, Conversion.reply?, hrep])
      exact snoc (of_none ho (by simp [hz]) rfl (.finished (Line.over_close hr ho))) hnot
  | @deny t x gate ht he ready asked =>
    obtain ⟨hz, hr⟩ := h.of_handOver (by simp [ready, HandOver.keeps, Conversion.reply?])
    refine snoc (of_none ho (by simp [hz]) rfl ?_) (not_binds_task (by simp [he]))
    exact .finished (Line.over_refuse hr ho)
  | @grant t x gate ht he ready hx asked =>
    refine snoc (h.replace rfl rfl ?_ hjobs) (not_binds_task (by simp [he]))
    simp [ready, HandOver.keeps, Conversion.reply?, he, Event.keeps, Line.leave]
  | @noRoute t x memo found roster ht he hx resolved taken =>
    obtain ⟨hz, hh, hr⟩ := h.of_done (by simp [he, Event.keeps])
    refine snoc (of_none ho (by simp [hz]) hh ?_) (not_binds_task (by simp [he]))
    exact .finished (Line.over_refuse hr ho)
  | @die t x memo found roster ht he hx resolved taken =>
    obtain ⟨hz, hh, hr⟩ := h.of_done (by simp [he, Event.keeps])
    exact snoc (of_none ho (by simp [hz]) hh (.finished (Line.over_close hr ho)))
      (not_binds_task (by simp [he]))
  | @dispatch t x memo found roster inst ht he hx resolved taken =>
    refine snoc (h.replace rfl rfl ?_ hjobs) (not_binds_task (by simp [he]))
    simp [he, Event.keeps]
  | @handle t x inst e ht he hx run =>
    obtain ⟨hz, hh, hr⟩ := h.of_done (by simp [he, Event.keeps])
    refine snoc (of_none ?_ (by simp [hz]) ?_ (.finished (Line.over_treat hr ho e)))
      (not_binds_task (by simp [he]))
    · rw [Line.output_treat]
      exact ho
    · cases e <;> exact hh
  | @pass t ht =>
    exact snoc (h.replace rfl rfl (by simp) hjobs) (not_binds_task (by simp [ht]))
  | @refuse t e error ht closed he late =>
    refine snoc (add_due (drops [e.event] h (by simp) fun job hj => ?_) (by simp))
      (not_binds_task (by simp [ht]))
    refine ⟨.pending e.event e.observers, by simp, ?_⟩
    rw [← List.mem_singleton.mp hj]
    rfl
  | @report t o ht =>
    exact snoc (h.replace rfl rfl (by simp) hjobs) (not_binds_task (by simp [ht]))

/-- Nobody binds a reply before its connection is let in. -/
theorem not_bound (hidle : ∀ u ∈ turns, u.Idle k) : ¬ Bound k turns :=
  fun ⟨u, hu, hb⟩ => (hidle u hu).not_binds hb

/-- The custody of a connection that was just let in. -/
theorem enter {o : Offer} {incoming : List Arrival} {observers : List Observer}
    (ho : o.output.Returns) (hidle : ∀ u ∈ turns, u.Idle k)
    (hin : p.incoming = o.arrival :: incoming) :
    Custody (turns ++ [⟨i, .acceptor .listening, p, q⟩]) k { output := o.output }
      {.pending (.conversion (o.job k)) observers, .pending (.middleware k) observers} := by
  refine ⟨ho, .kept, fun a ha job hj hearly hb => ?_⟩
  have hjob : job.binding = o.binding := by
    simp only [Multiset.insert_eq_cons, Multiset.mem_cons, Multiset.mem_singleton] at ha
    rcases ha with rfl | rfl
    · obtain rfl : o.job k = job := Option.some.inj hj
      rfl
    · cases hj
  rcases bound_snoc.mp hb with hb | ⟨-, hin'⟩
  · exact not_bound hidle hb
  · have hbinding : o.binding = .early := by
      simpa [hin, Offer.arrival, Arrival.binding?] using hin'
    exact hearly (hjob.trans hbinding)

end Custody

/-- What is so of a connection at any time of a run. -/
theorem Engine.Opening.custody {g d : Engine} (h : g.Opening)
    (outputs : ∀ o ∈ g.shared.offers, o.output.Returns)
    {turns : List (Turn Chance Pipeline Thread)} (run : Crowd.Run Thread.move g turns d) (k : ℕ) :
    Custody turns k (d.shared.ledger.line k) (errandsOf k d.errands) := by
  refine (h.induct_connection run (k := k) (P := fun turns => Custody turns k) ?_ ?_ ?_).elim
    ?_ And.right
  · exact fun hidle _ hin ho _ _ => .enter (outputs _ (List.mem_of_getElem? ho)) hidle hin
  · exact fun hidle h => h.snoc hidle.not_binds
  · exact fun _ hacts h => h.act hacts.act
  · rintro ⟨hle, herr, hidle⟩
    rw [herr, Ledger.line_of_le _ _ hle]
    exact .of_none (by simp [Output.Returns, Output.reliable]) rfl rfl
      (.unbound (Custody.not_bound hidle))

/-- **One answer, one close.** Whatever the threads do in whatever order, the reply of a connection
has one keeper at most, the calls on its output are a beginning of one answer and one close, and
they are all of it once the reply was bound and has no keeper any more. -/
theorem Engine.Opening.answered_once {g d : Engine} (h : g.Opening)
    (outputs : ∀ o ∈ g.shared.offers, o.output.Returns)
    {turns : List (Turn Chance Pipeline Thread)} (run : Crowd.Run Thread.move g turns d) (k : ℕ) :
    d.keepers k ≤ 1 ∧
      (∃ c, c ≠ .close ∧ (d.shared.ledger.line k).reply.calls <+: [c, .close]) ∧
      (Bound k turns → d.keepers k = 0 →
        ∃ c, c ≠ .close ∧ (d.shared.ledger.line k).reply.calls = [c, .close]) := by
  have hkept := (h.custody outputs run k).kept
  change (d.shared.ledger.line k).reply.Kept (Bound k turns) (d.keepers k) at hkept
  refine ⟨hkept.le_one, ?_, fun hb hz => ?_⟩
  · generalize d.keepers k = n at hkept
    generalize (d.shared.ledger.line k).reply = g at hkept
    cases hkept with
    | finished h =>
      obtain ⟨sent, c, hc, rfl⟩ := h
      exact ⟨c, hc, List.prefix_rfl⟩
    | kept | unbound => exact ⟨.error, by simp, List.nil_prefix⟩
  · rw [hz] at hkept
    generalize (d.shared.ledger.line k).reply = g at hkept
    cases hkept with
    | finished h =>
      obtain ⟨sent, c, hc, rfl⟩ := h
      exact ⟨c, hc, rfl⟩
    | unbound h => exact absurd hb h

/-- Both connections of the sample were answered and closed. -/
theorem Engine.answered_once_sample :
    (∀ k < 2, Bound k sampleRun.1 ∧ sampleRun.2.keepers k = 0) ∧
      ∀ k < 2, ∃ c, c ≠ .close ∧
        (sampleRun.2.shared.ledger.line k).reply.calls = [c, .close] := by
  have hsettled : ∀ k < 2, Bound k sampleRun.1 ∧ sampleRun.2.keepers k = 0 := by decide +kernel
  refine ⟨hsettled, fun k hk => ?_⟩
  obtain ⟨hb, hz⟩ := hsettled k hk
  exact (opening_sample.answered_once returns_sample run_sample k).2.2 hb hz

end Switchboard
