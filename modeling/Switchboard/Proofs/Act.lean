import Switchboard.Proofs.Deed

/-!
# What happens to one connection

Every deed concerns one connection at most. `Act` lists what can happen to a connection, seen from
its own line of the ledger and its own errands, with what is counted and what is told meanwhile.
`Deed.case` says that a deed is an act of one connection, or lets one in, or does nothing to any.
By `Engine.Opening.induct_connection` a law about a connection is proved from its entry by going
through its acts, as if there were no other.
-/

namespace Switchboard

variable {i : Chance} {p q : Pipeline} {t : Thread} {k : ℕ}

/-! ### One line -/

namespace Line

/-- What is left of a line when an event of its connection is let go of. -/
def drop (line : Line) : Event → Line
  | .noop => line
  | .conversion job => (if job.binding = .early then line.close else line).forsake
  | .middleware _ =>
    match line.handOver with
    | .ready c => (if c.reply? = none then line else line.close).leave
    | _ => line.leave
  | .dispatch _ | .handler _ _ => line.close

/-- What is left of a line when its job was run. -/
def run (line : Line) (job : Job) : Line := if job.Spoils then line.close else line

/-- What is left of a line when its handler came to an end. -/
def treat (line : Line) : HandlerEnd → Line
  | .answered r => (line.respond r).close
  | .failed _ => line.refuse.close
  | .panicked _ => line.close

/-- A result is handed over. -/
def handOn (line : Line) (c : Conversion) : Line := { line with handOver := .ready c }

end Line

theorem Line.handOver_forsake {line : Line} {c : Conversion}
    (h : line.forsake.handOver = .ready c) : line.handOver = .ready c := by
  unfold Line.forsake at h
  split at h
  · cases h
  · exact h

/-- Letting go of an event hands nothing over. -/
theorem Line.handOver_drop {line : Line} {e : Event} {c : Conversion}
    (h : (line.drop e).handOver = .ready c) : line.handOver = .ready c := by
  cases e with
  | noop | dispatch x | handler x inst => exact h
  | middleware k =>
    simp only [Line.drop] at h
    split at h <;> cases h
  | conversion job =>
    have h := Line.handOver_forsake h
    split at h <;> exact h

/-- Nor does letting go of several, one after the other. -/
theorem Line.handOver_foldl_drop {line : Line} {es : List Event} {c : Conversion}
    (h : (es.foldl Line.drop line).handOver = .ready c) : line.handOver = .ready c := by
  induction es generalizing line with
  | nil => exact h
  | cons e es ih => exact handOver_drop (ih h)

/-- How a handler ends says nothing about the hand-over. -/
@[simp] theorem Line.handOver_treat (line : Line) (e : HandlerEnd) :
    (line.treat e).handOver = line.handOver := by
  cases e <;> rfl

namespace Ledger

variable {l l' : Ledger} {line : Line}

theorem Becomes.answer (h : l.Becomes k line p.ledger) (hk : k < l.length) (e : HandlerEnd) :
    l.Becomes k (line.treat e) (p.answer k e).ledger := by
  cases e with
  | answered r => exact (h.change hk fun line => line.respond r).change hk Line.close
  | failed e => exact (h.change hk Line.refuse).change hk Line.close
  | panicked payload => exact h.change hk Line.close

/-- Letting go of an event concerns the line of its connection. -/
theorem becomes_release (hh : l.Handed) (hk : k < l.length) {e : Event}
    (he : e.connection? = some k) : l.Becomes k ((l.line k).drop e) (l.release e) := by
  cases e with
  | noop => cases he
  | dispatch x | handler x inst =>
    obtain rfl : x.connection = k := Option.some.inj he
    exact becomes_self.change hk Line.close
  | conversion job =>
    obtain rfl : job.connection = k := Option.some.inj he
    rw [release_conversion]
    have hr : l.reply? (.conversion job) = none ∨
        l.reply? (.conversion job) = some job.connection := by
      by_cases hb : job.binding = .early <;> simp [reply?, hb]
    have := (becomes_self.dropReply hk hr).change hk Line.forsake
    by_cases hb : job.binding = .early <;> simpa [Line.drop, reply?, hb] using this
  | middleware c =>
    obtain rfl : c = k := Option.some.inj he
    rw [release_middleware]
    cases hready : (l.line c).handOver with
    | ready r =>
      have hr : l.reply? (.middleware c) = none ∨ l.reply? (.middleware c) = some c := by
        simpa only [reply?, hready] using hh c r hready
      have := (becomes_self.dropReply hk hr).change hk Line.leave
      simpa only [Line.drop, reply?, hready] using this
    | awaited | noSender | noReceiver =>
      have := (becomes_self (l := l)).change hk Line.leave
      simpa only [Line.drop, reply?, hready, dropReply] using this

theorem becomes_foldl_release (hh : l.Handed) (hk : k < l.length) {es : List Event}
    (he : ∀ e ∈ es, e.connection? = some k) :
    l.Becomes k (es.foldl Line.drop (l.line k)) (es.foldl Ledger.release l) := by
  induction es generalizing l with
  | nil => exact becomes_self
  | cons e es ih =>
    have hfirst := becomes_release hh hk (he e List.mem_cons_self)
    have hrest := ih (hh.of_becomes hfirst fun c hc => Or.inl (Line.handOver_drop hc))
      (hfirst.length_eq.symm ▸ hk) fun e' he' => he e' (List.mem_cons_of_mem e he')
    rw [hfirst.line_self] at hrest
    exact ⟨hrest.length_eq.trans hfirst.length_eq, hrest.line_self, fun j hj =>
      (hrest.line_of_ne j hj).trans (hfirst.line_of_ne j hj)⟩

end Ledger

/-! ### Acts -/

namespace Thread

/-- The connection that a thread is about to do something for. -/
def connection? (p : Pipeline) : Thread → Option ℕ
  | acceptor .listening =>
    match p.incoming with
    | .connection _ _ _ _ :: _ => some p.ledger.length
    | _ => none
  | acceptor (.publishing (.refused e _) _) => e.event.connection?
  | dispatcher (.consuming (.holding e)) => if p.accepting then none else e.event.connection?
  | task t => t.event.connection?
  | closer (.drained (e :: _)) | joiner (.closing (.drained (e :: _))) => e.event.connection?
  | _ => none

end Thread

/-- What failing counts as. -/
def Conversion.counts : Conversion → List Counter
  | .ok _ => []
  | .error _ => [.conversionFailure]

/-- What can happen to a connection: `Act i p k t done due line counts notes` takes its line in the
ledger of `p` to `line`, its errands `done` give way to `due`, and meanwhile `counts` are counted
and `notes` are told. -/
inductive Act (i : Chance) (p : Pipeline) (k : ℕ) :
    Thread → Multiset Errand → Multiset Errand → Line → List Counter → List Note → Prop where
  | drop {e : Envelope Event} {error : QueueError} {next : List Event}
    (closed : p.queue.ring.permitsClosed = true)
    (he : ∀ e' ∈ e.event :: next, e'.connection? = some k) :
    Act i p k (.acceptor (.publishing (.refused e error) next))
      (.pending e.event e.observers ::ₘ ↑(next.map fun e => Errand.pending e p.queue.observers)) 0
      ((e.event :: next).foldl Line.drop (p.ledger.line k)) [] []
  | discard {t : Thread} {e : Envelope Event} (ht : t.Discards p e)
    (he : e.event.connection? = some k) :
    Act i p k t {.pending e.event e.observers} 0 ((p.ledger.line k).drop e.event) []
      (notify e.kind .abandoned e.observers)
  | begins {t : Task} (ht : t.phase = .running)
    (he : t.event ≠ .noop ∧ ∀ x, t.event ≠ .dispatch x)
    (stays : ∀ k, t.event = .middleware k → p.shouldAbandon = false) :
    Act i p k (.task t) {.pending t.event t.observers} {.begun t.event t.observers}
      (p.ledger.line k) [] []
  | poll {t : Task} (ht : t.phase = .working) (he : t.event = .middleware k) :
    Act i p k (.task t) {.begun t.event t.observers} {.pending t.event t.observers}
      (p.ledger.line k) [] []
  | convert {t : Task} {job : Job} (ht : t.phase = .working) (he : t.event = .conversion job)
    (hk : job.connection = k) (awaited : (p.ledger.line k).handOver ≠ .noReceiver) :
    Act i p k (.task t) {.begun t.event t.observers}
      {.reporting t.event t.observers job.result.outcome}
      (((p.ledger.line k).run job).handOn job.result) job.result.counts []
  | convertInVain {t : Task} {job : Job} (ht : t.phase = .working)
    (he : t.event = .conversion job) (hk : job.connection = k)
    (left : (p.ledger.line k).handOver = .noReceiver) :
    Act i p k (.task t) {.begun t.event t.observers} {.reporting t.event t.observers .abandoned}
      (if job.Binds then (p.ledger.line k).close else p.ledger.line k) job.result.counts []
  | giveUp {t : Task} {done : Multiset Errand} (he : t.event = .middleware k)
    (why : t.phase = .running ∧ done = {.pending t.event t.observers} ∧ p.shouldAbandon = true ∨
      t.phase = .working ∧ done = {.begun t.event t.observers} ∧
        ((p.ledger.line k).handOver = .noSender ∨ (p.ledger.line k).handOver = .noReceiver)) :
    Act i p k (.task t) done {.reporting t.event t.observers .abandoned}
      ((p.ledger.line k).drop (.middleware k)) [.abandoned] []
  | malformed {t : Task} {e : ConversionError} (ht : t.phase = .working)
    (he : t.event = .middleware k) (ready : (p.ledger.line k).handOver = .ready (.error e)) :
    Act i p k (.task t) {.begun t.event t.observers} {.reporting t.event t.observers .malformed}
      (if e.reply = none then (p.ledger.line k).leave else (p.ledger.line k).leave.close) [] []
  | deny {t : Task} {x : Exchange} {gate : Gate} (ht : t.phase = .working)
    (he : t.event = .middleware k) (ready : (p.ledger.line k).handOver = .ready (.ok x))
    (asked : p.gate.allow i.moments x.request.source p.reverseLookup p.caseSensitive =
      (gate, false)) :
    Act i p k (.task t) {.begun t.event t.observers} {.reporting t.event t.observers .denied}
      (p.ledger.line k).leave.refuse.close [.denied] []
  | grant {t : Task} {x : Exchange} {gate : Gate} (ht : t.phase = .working)
    (he : t.event = .middleware k) (ready : (p.ledger.line k).handOver = .ready (.ok x))
    (hx : x.connection = k)
    (asked : p.gate.allow i.moments x.request.source p.reverseLookup p.caseSensitive =
      (gate, true)) :
    Act i p k (.task t) {.begun t.event t.observers}
      {.passing t.event t.observers, .pending (.dispatch x) p.queue.observers}
      (p.ledger.line k).leave [] []
  | noRoute {t : Task} {x : Exchange} {memo : RouteMemo} {found : Option String} {roster : Roster}
    (ht : t.phase = .running) (he : t.event = .dispatch x) (hx : x.connection = k)
    (resolved : p.memo.resolve p.roster x.request.path = (memo, found))
    (taken : p.roster.take (found.getD defaultCommand) = (roster, .unserved)) :
    Act i p k (.task t) {.pending t.event t.observers} {.reporting t.event t.observers .unrouted}
      (p.ledger.line k).refuse.close [.unrouted] []
  | die {t : Task} {x : Exchange} {memo : RouteMemo} {found : Option String} {roster : Roster}
    (ht : t.phase = .running) (he : t.event = .dispatch x) (hx : x.connection = k)
    (resolved : p.memo.resolve p.roster x.request.path = (memo, found))
    (taken : p.roster.take (found.getD defaultCommand) = (roster, .panicked)) :
    Act i p k (.task t) {.pending t.event t.observers} 0 (p.ledger.line k).close [] []
  | dispatch {t : Task} {x : Exchange} {memo : RouteMemo} {found : Option String}
    {roster : Roster} {inst : Instance} (ht : t.phase = .running) (he : t.event = .dispatch x)
    (hx : x.connection = k)
    (resolved : p.memo.resolve p.roster x.request.path = (memo, found))
    (taken : p.roster.take (found.getD defaultCommand) = (roster, .handed inst)) :
    Act i p k (.task t) {.pending t.event t.observers}
      {.passing t.event t.observers, .pending (.handler { x with request :=
        { x.request with command := some (found.getD defaultCommand) } } inst)
        p.queue.observers}
      (p.ledger.line k) [.dispatched] []
  | handle {t : Task} {x : Exchange} {inst : Instance} {e : HandlerEnd} (ht : t.phase = .working)
    (he : t.event = .handler x inst) (hx : x.connection = k)
    (run : (p.roster.run inst x.request).2 = e) :
    Act i p k (.task t) {.begun t.event t.observers} {.reporting t.event t.observers e.outcome}
      ((p.ledger.line k).treat e) [e.counter] []
  | pass {t : Task} (ht : t.phase = .publishing .published) :
    Act i p k (.task t) {.passing t.event t.observers} {.reporting t.event t.observers .forwarded}
      (p.ledger.line k) [] []
  | refuse {t : Task} {e : Envelope Event} {error : QueueError}
    (ht : t.phase = .publishing (.refused e error)) (closed : p.queue.ring.permitsClosed = true)
    (he : e.event.connection? = some k) (late : e.event.lates = 1) :
    Act i p k (.task t) {.passing t.event t.observers, .pending e.event e.observers}
      {.reporting t.event t.observers .abandoned} ((p.ledger.line k).drop e.event) [.abandoned] []
  | report {t : Task} {o : Outcome} (ht : t.phase = .ended o) :
    Act i p k (.task t) {.reporting t.event t.observers o} 0 (p.ledger.line k) []
      (notify t.event.kind o t.observers)

/-- Everything that is to be done concerns a connection that was let in, and what was handed over
stays with its connection. -/
structure Charted (p : Pipeline) (es : Multiset Errand) : Prop where
  entered : ∀ a ∈ es, ∃ k, a.event.connection? = some k ∧ k < p.ledger.length
  handed : p.ledger.Handed

/-- A deed that is an act of a connection. -/
structure Deed.Acts (i : Chance) (p : Pipeline) (t : Thread) (done due : Multiset Errand)
    (q : Pipeline) (k : ℕ) (line : Line) (counts : List Counter) (notes : List Note) : Prop where
  act : Act i p k t done due line counts notes
  lt : k < p.ledger.length
  connection : t.connection? p = some k
  errands : ∀ a ∈ done + due, a.event.connection? = some k
  ledger : p.ledger.Becomes k line q.ledger
  counters : q.counters = counts.foldl Counters.bump p.counters
  notes_eq : q.notes = p.notes ++ notes
  incoming : q.incoming = p.incoming

namespace Deed

/-- What a pipeline has in common with one that is the same but for the passing of envelopes. -/
theorem of_still {p' : Pipeline} (h : q.still = p'.still) : q.ledger = p'.ledger ∧
    q.counters = p'.counters ∧ q.notes = p'.notes ∧ q.incoming = p'.incoming :=
  ⟨(congrArg Pipeline.ledger h :), (congrArg Pipeline.counters h :),
    (congrArg Pipeline.notes h :), (congrArg Pipeline.incoming h :)⟩

/-- A deed is one of four things: nothing of interest, a failed accept, a new connection, or an act
of a connection. -/
inductive Case (i : Chance) (p : Pipeline) :
    Thread → Multiset Errand → Multiset Errand → Pipeline → Prop where
  | carry {t : Thread} {q : Pipeline} (ht : t.Carries p) (hq : q.still = p.still) :
    Case i p t 0 0 q
  | fault {incoming : List Arrival} {q : Pipeline} (h : p.incoming = .fault :: incoming)
    (hq : q.still = ({ p with incoming }.count .acceptError).still) :
    Case i p (.acceptor .listening) 0 0 q
  | enter {output : Output} {ending : JobEnd} {binding : Binding} {latch : Option String}
    {incoming : List Arrival} {q : Pipeline}
    (h : p.incoming = .connection output ending binding latch :: incoming)
    (hq : q.still = ({ p with incoming }.enter output).1.still) :
    Case i p (.acceptor .listening) 0
      {.pending (.conversion { connection := p.ledger.length, ending, binding, latch })
        p.queue.observers, .pending (.middleware p.ledger.length) p.queue.observers} q
  | act {t : Thread} {done due : Multiset Errand} {q : Pipeline} {k : ℕ} {line : Line}
    {counts : List Counter} {notes : List Note} (h : Acts i p t done due q k line counts notes) :
    Case i p t done due q

variable {done due rest : Multiset Errand}

/-- An act whose effect on the shared state is spelled out in another pipeline. -/
theorem Case.of_act {p' : Pipeline} {line : Line} {counts : List Counter} {notes : List Note}
    (hc : Charted p (done + rest)) (hq : q.still = p'.still)
    (act : Act i p k t done due line counts notes) (connection : t.connection? p = some k)
    (hdone : ∀ a ∈ done, a.event.connection? = some k) (hne : done ≠ 0)
    (hdue : ∀ a ∈ due, a.event.connection? = some k)
    (ledger : p.ledger.Handed → k < p.ledger.length → p.ledger.Becomes k line p'.ledger)
    (counters : p'.counters = counts.foldl Counters.bump p.counters)
    (notes_eq : p'.notes = p.notes ++ notes) (incoming : p'.incoming = p.incoming) :
    Case i p t done due q := by
  obtain ⟨h1, h2, h3, h4⟩ := of_still hq
  obtain ⟨a, ha⟩ := Multiset.exists_mem_of_ne_zero hne
  obtain ⟨k', hk', hlt⟩ := hc.entered a (Multiset.mem_add.mpr (Or.inl ha))
  obtain rfl : k = k' := Option.some.inj ((hdone a ha).symm.trans hk')
  refine .act ⟨act, hlt, connection, ?_, h1 ▸ ledger hc.handed hlt, h2 ▸ counters, h3 ▸ notes_eq,
    h4 ▸ incoming⟩
  intro b hb
  exact (Multiset.mem_add.mp hb).elim (hdone b) (hdue b)

/-- The same for a task that has one errand of its own. -/
theorem Case.of_task {t : Task} {a : Errand} {p' : Pipeline} {line : Line} {counts : List Counter}
    {notes : List Note} (hc : Charted p (t.errands + rest)) (hq : q.still = p'.still)
    (herr : t.errands = {a}) (ha : a.event = t.event)
    (act : Act i p k (.task t) {a} due line counts notes) (he : t.event.connection? = some k)
    (hdue : ∀ b ∈ due, b.event.connection? = some k)
    (ledger : p.ledger.Handed → k < p.ledger.length → p.ledger.Becomes k line p'.ledger)
    (counters : p'.counters = counts.foldl Counters.bump p.counters)
    (notes_eq : p'.notes = p.notes ++ notes) (incoming : p'.incoming = p.incoming) :
    Case i p (.task t) t.errands due q := by
  rw [herr] at hc ⊢
  refine .of_act hc hq act he ?_ (Multiset.singleton_ne_zero a) hdue ledger counters notes_eq
    incoming
  intro b hb
  rw [Multiset.mem_singleton.mp hb, ha, he]

theorem errands_running {t : Task} (ht : t.phase = .running) :
    t.errands = {.pending t.event t.observers} := by
  rw [Task.errands, ht]

theorem errands_working {t : Task} (ht : t.phase = .working) :
    t.errands = {.begun t.event t.observers} := by
  rw [Task.errands, ht]

theorem case (h : Deed i p t done due q) (hc : Charted p (done + rest)) :
    Case i p t done due q := by
  cases h with
  | carry ht hq => exact .carry ht hq
  | fault hin hq => exact .fault hin hq
  | enter hin hq => exact .enter hin hq
  | @drop e error next _ closed same hq =>
    obtain ⟨k, hk, -⟩ := hc.entered (.pending e.event e.observers) (by simp)
    have hnext : ∀ e' ∈ e.event :: next, e'.connection? = some k := by
      intro e' he'
      rcases List.mem_cons.mp he' with rfl | he'
      · exact hk
      · exact (same e' he').trans hk
    refine .of_act hc hq (.drop closed hnext) hk ?_ (Multiset.cons_ne_zero) (by simp) ?_ ?_ ?_ ?_
    · intro a ha
      rcases Multiset.mem_cons.mp ha with rfl | ha
      · exact hk
      · obtain ⟨e', he', rfl⟩ := List.mem_map.mp (Multiset.mem_coe.mp ha)
        exact hnext e' (List.mem_cons_of_mem _ he')
    · intro hh hlt
      rw [Pipeline.foldl_release]
      exact Ledger.becomes_foldl_release hh hlt hnext
    all_goals rw [Pipeline.foldl_release]
    · rfl
    · exact (List.append_nil _).symm
  | @discard _ e _ ht hq =>
    obtain ⟨k, hk, -⟩ := hc.entered (.pending e.event e.observers) (by simp)
    have hconn : t.connection? p = some k := by
      cases ht with
      | dispatcher h => simpa [Thread.connection?, h] using hk
      | closer | joiner => exact hk
    exact .of_act hc hq (.discard ht hk) hconn (by simpa using hk)
      (Multiset.singleton_ne_zero _) (by simp) (fun hh hlt => Ledger.becomes_release hh hlt hk) rfl
      rfl rfl
  | @noop t _ ht he hq =>
    obtain ⟨k, hk, -⟩ := hc.entered (.pending t.event t.observers) (by simp [errands_running ht])
    rw [Errand.event, he] at hk
    cases hk
  | @begins t _ ht he stays hq =>
    obtain ⟨k, hk, -⟩ := hc.entered (.pending t.event t.observers) (by simp [errands_running ht])
    exact .of_task hc hq (errands_running ht) rfl (.begins ht he stays) hk (by simpa using hk)
      (fun _ _ => Ledger.becomes_self) rfl (List.append_nil _).symm rfl
  | @poll t k _ ht he hq =>
    exact .of_task hc hq (errands_working ht) rfl (.poll ht he) (by simp [he]) (by simp [he])
      (fun _ _ => Ledger.becomes_self) rfl (List.append_nil _).symm rfl
  | @convert t job result ledger _ ht he awaited run hq =>
    have hrun := p.ledger.runJob_eq job
    obtain rfl : job.result = result := by simpa [hrun] using congrArg Prod.snd run
    obtain rfl : (p.ledger.runJob job).1 = ledger := congrArg Prod.fst run
    refine .of_task hc hq (errands_working ht) rfl (.convert ht he rfl awaited) (by simp [he])
      (by simp [he]) (fun _ hlt => ?_) ?_ ?_ ?_
    · have := (Ledger.becomes_self.runJob hlt rfl).change hlt fun l => l.handOn job.result
      cases hres : job.result <;> rw [hres] at this <;> exact this
    all_goals cases job.result <;> simp [Pipeline.countResult, Conversion.counts, Pipeline.change,
      Pipeline.count]
  | @convertInVain t job result ledger _ ht he left run hq =>
    have hrun := p.ledger.runJob_eq job
    obtain rfl : job.result = result := by simpa [hrun] using congrArg Prod.snd run
    obtain rfl : (p.ledger.runJob job).1 = ledger := congrArg Prod.fst run
    refine .of_task hc hq (errands_working ht) rfl (.convertInVain ht he rfl left) (by simp [he])
      (by simp [he]) (fun _ hlt => ?_) ?_ ?_ ?_
    · have := (Ledger.becomes_self.runJob hlt rfl).dropReply hlt job.reply?_result
      rw [← Ledger.dropConversion_eq] at this
      have hline : (if job.result.reply? = none then (p.ledger.line job.connection).run job
          else ((p.ledger.line job.connection).run job).close) =
          if job.Binds then (p.ledger.line job.connection).close
          else p.ledger.line job.connection := by
        unfold Line.run Job.Spoils Job.Binds
        rcases job.reply?_result with hr | hr <;> simp [hr]
      rw [← hline]
      cases hres : job.result <;> rw [hres] at this <;> exact this
    all_goals cases job.result <;> simp [Pipeline.countResult, Conversion.counts, Pipeline.count]
  | @giveUp t k _ he why hq =>
    have hk : t.event.connection? = some k := by simp [he]
    rcases why with ⟨ht, why⟩ | ⟨ht, why⟩
    · exact .of_task hc hq (errands_running ht) rfl (.giveUp he (Or.inl ⟨ht, rfl, why⟩)) hk
        (by simpa using hk) (fun hh hlt => Ledger.becomes_release hh hlt rfl) rfl
        (List.append_nil _).symm rfl
    · exact .of_task hc hq (errands_working ht) rfl (.giveUp he (Or.inr ⟨ht, rfl, why⟩)) hk
        (by simpa using hk) (fun hh hlt => Ledger.becomes_release hh hlt rfl) rfl
        (List.append_nil _).symm rfl
  | @malformed t k e _ ht he ready hq =>
    exact .of_task hc hq (errands_working ht) rfl (.malformed ht he ready) (by simp [he])
      (by simp [he]) (fun hh hlt => (Ledger.becomes_self.change hlt Line.leave).dropReply hlt
        (hh k _ ready)) rfl (List.append_nil _).symm rfl
  | @deny t k x gate _ ht he ready asked hq =>
    obtain rfl | hx := eq_or_ne x.connection k
    · exact .of_task hc hq (errands_working ht) rfl (.deny ht he ready asked) (by simp [he])
        (by simp [he]) (fun hh hlt => ((Ledger.becomes_self.change hlt Line.leave).change hlt
          Line.refuse).change hlt Line.close) rfl (List.append_nil _).symm rfl
    · have hreply := (hc.handed k _ ready).resolve_left (by simp [Conversion.reply?])
      exact absurd (Option.some.inj hreply) hx
  | @grant t k x gate _ ht he ready asked hq =>
    have hx : x.connection = k :=
      Option.some.inj ((hc.handed k _ ready).resolve_left (by simp [Conversion.reply?]))
    exact .of_task hc hq (errands_working ht) rfl (.grant ht he ready hx asked) (by simp [he])
      (by simp [he, hx]) (fun hh hlt => Ledger.becomes_self.change hlt Line.leave) rfl
      (List.append_nil _).symm rfl
  | @noRoute t x memo found roster _ ht he resolved taken hq =>
    exact .of_task hc hq (errands_running ht) rfl (.noRoute ht he rfl resolved taken) (by simp [he])
      (by simp [he]) (fun hh hlt => (Ledger.becomes_self.change hlt Line.refuse).change hlt
        Line.close) rfl (List.append_nil _).symm rfl
  | @die t x memo found roster _ ht he resolved taken hq =>
    exact .of_task hc hq (errands_running ht) rfl (.die ht he rfl resolved taken) (by simp [he])
      (by simp) (fun hh hlt => Ledger.becomes_self.change hlt Line.close) rfl
      (List.append_nil _).symm rfl
  | @dispatch t x memo found roster inst _ ht he resolved taken hq =>
    exact .of_task hc hq (errands_running ht) rfl (.dispatch ht he rfl resolved taken)
      (by simp [he]) (by simp [he]) (fun hh hlt => Ledger.becomes_self) rfl
      (List.append_nil _).symm rfl
  | @handle t x inst e _ ht he run hq =>
    refine .of_task hc hq (errands_working ht) rfl (.handle ht he rfl run) (by simp [he])
      (by simp [he]) (fun hh hlt => Ledger.becomes_self.answer hlt e) ?_ ?_ ?_
    all_goals cases e <;> simp [Pipeline.answer, Pipeline.count, Pipeline.turnDown,
      Pipeline.change, HandlerEnd.counter]
  | @pass t _ ht hq =>
    have herr : t.errands = {.passing t.event t.observers} := by rw [Task.errands, ht]; rfl
    obtain ⟨k, hk, -⟩ := hc.entered (.passing t.event t.observers) (by simp [herr])
    exact .of_task hc hq herr rfl (.pass ht) hk (by simpa using hk)
      (fun _ _ => Ledger.becomes_self) rfl (List.append_nil _).symm rfl
  | @refuse t e error _ ht closed same late hq =>
    have herr : t.errands = {.passing t.event t.observers, .pending e.event e.observers} := by
      rw [Task.errands, ht]; rfl
    rw [herr] at hc ⊢
    obtain ⟨k, hk, -⟩ := hc.entered (.passing t.event t.observers) (by simp)
    have he : e.event.connection? = some k := same.trans hk
    refine .of_act hc hq (.refuse ht closed he late) hk ?_ (Multiset.cons_ne_zero)
      (by simpa using hk) (fun hh hlt => Ledger.becomes_release hh hlt he) rfl
      (List.append_nil _).symm rfl
    intro a ha
    rcases Multiset.mem_cons.mp ha with rfl | ha
    · exact hk
    · rw [Multiset.mem_singleton.mp ha]
      exact he
  | @report t o _ ht hq =>
    have herr : t.errands = {.reporting t.event t.observers o} := by rw [Task.errands, ht]
    obtain ⟨k, hk, -⟩ := hc.entered (.reporting t.event t.observers o) (by simp [herr])
    exact .of_task hc hq herr rfl (.report ht) hk (by simp) (fun _ _ => Ledger.becomes_self) rfl
      rfl rfl

end Deed

end Switchboard
