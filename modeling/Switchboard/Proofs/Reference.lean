import Switchboard.Proofs.Custody
import Switchboard.Proofs.House

/-!
# Each connection on its own

`Course.of` says what becomes of a connection on its own. `Engine.Opening.agrees_with_course` says
that this is what becomes of it among any number of others, in whatever order the threads move, as
long as nobody shuts the server down and the house is in order.

The proof keeps account of marks: what is seen of a connection at any time and what its errands are
still bound to leave behind come to its whole course, and every act only turns the one into the
other.
-/

namespace Switchboard

/-! ### Marks -/

/-- What can be seen of a connection: a call on its output, a note to an observer, a count, the
taking of an instance for its path, and the run of a handler. -/
inductive Mark where
  | call (c : Call)
  | note (n : Note)
  | count (c : Counter)
  | take (path : String)
  | handle (template : ℕ) (request : Request)

/-- How often marks are there. -/
abbrev Marks := Mark → ℕ

namespace Marks

/-- The marks of these calls, notes, counts, takings and runs. -/
def of (calls : List Call) (notes : List Note) (counts : List Counter) (takings : List String)
    (handlings : List (ℕ × Request)) : Marks
  | .call c => calls.count c
  | .note n => notes.count n
  | .count c => counts.count c
  | .take path => takings.count path
  | .handle n r => handlings.count (n, r)

theorem of_add (calls calls' : List Call) (notes notes' : List Note) (counts counts' : List Counter)
    (takings takings' : List String) (handlings handlings' : List (ℕ × Request)) :
    of calls notes counts takings handlings + of calls' notes' counts' takings' handlings' =
      of (calls ++ calls') (notes ++ notes') (counts ++ counts') (takings ++ takings')
        (handlings ++ handlings') := by
  funext m
  cases m <;> simp [of]

theorem of_nil : of [] [] [] [] [] = 0 := by
  funext m
  cases m <;> rfl

/-- What was seen of a connection so far. -/
def seen (k : ℕ) (turns : List (Turn Chance Pipeline Thread)) (line : Line) : Marks
  | .call c => line.reply.calls.count c
  | .note n => (notesOf k turns).count n
  | .count c => countOf k c turns
  | .take path => (takingsOf k turns).count path
  | .handle n r => (handlingsOf k turns).count (n, r)

end Marks

/-! ### What is bound to be seen -/

/-- The calls of a connection whose handler ends so. -/
def HandlerEnd.calls : HandlerEnd → List Call
  | answered r => [r.call, .close]
  | failed _ | panicked _ => Course.turnedDown

/-- What the observers are told in a course. -/
def Course.notes (c : Course) (observers : List Observer) : List Note :=
  c.ends.flatMap fun e => notify e.1 e.2 observers

namespace Pipeline

variable (p : Pipeline) (list : AllowList) (observers : List Observer)

/-- The command under which a path is served. -/
def commandOf (path : String) : String := (Route.lookup p.roster.contains path).getD defaultCommand

/-- The end of the first run of the first copy of a template. -/
def treatment (n : ℕ) (r : Request) : HandlerEnd :=
  (p.roster.run { template := n, number := 1 } r).2

/-- The marks of a handler. -/
def handlerMarks (n : ℕ) (r : Request) : Marks :=
  .of (p.treatment n r).calls (notify .handler (p.treatment n r).outcome observers)
    [(p.treatment n r).counter] [] [(n, r)]

/-- The marks of a dispatch and of what follows it. -/
def dispatchMarks (r : Request) : Marks :=
  match p.roster.served? (p.commandOf r.path) with
  | none =>
    .of Course.turnedDown (notify .dispatch .unrouted observers) [.unrouted] [r.path] []
  | some n =>
    .of [] (notify .dispatch .forwarded observers) [.dispatched] [r.path] [] +
      p.handlerMarks p.queue.observers n { r with command := some (p.commandOf r.path) }

/-- The marks of a middleware that is given a result, and of what follows it. -/
def middlewareMarks : Conversion → Marks
  | .error e =>
    .of (if e.reply = none then [] else Course.turnedDown)
      (notify .middleware .malformed observers) [] [] []
  | .ok x =>
    if (House.ofPipeline p list).admits x.request.source then
      .of [] (notify .middleware .forwarded observers) [] [] [] +
        p.dispatchMarks p.queue.observers x.request
    else .of Course.turnedDown (notify .middleware .denied observers) [.denied] [] []

/-- The paths for which an instance is taken in the course of a job. -/
def takings (job : Job) : List String :=
  match job.ending with
  | .request r => if (House.ofPipeline p list).admits r.source then [r.path] else []
  | _ => []

/-- The runs of handlers in the course of a job. -/
def handlings (job : Job) : List (ℕ × Request) :=
  match job.ending with
  | .request r =>
    if (House.ofPipeline p list).admits r.source then
      (p.roster.served? (p.commandOf r.path)).toList.map fun n =>
        (n, { r with command := some (p.commandOf r.path) })
    else []
  | _ => []

/-- The marks of the whole course of a job. -/
def courseMarks (job : Job) : Marks :=
  let course := Course.of (House.ofPipeline p list) job
  .of course.calls (course.notes p.queue.observers) course.counts (p.takings list job)
    (p.handlings list job)

end Pipeline

/-- The marks of a conversion. -/
def Job.marks (observers : List Observer) (job : Job) : Marks :=
  .of (if job.Spoils then Course.turnedDown else [])
    (notify .conversion job.result.outcome observers) job.result.counts [] []

/-- The marks that an errand of the connection of a job is still bound to leave behind. -/
def Errand.dues (p : Pipeline) (list : AllowList) (job : Job) : Errand → Marks
  | pending e observers | begun e observers =>
    match e with
    | .noop => 0
    | .conversion job => job.marks observers
    | .middleware _ => p.middlewareMarks list observers job.result
    | .dispatch x => p.dispatchMarks observers x.request
    | .handler x inst => p.handlerMarks observers inst.template x.request
  | passing e observers => .of [] (notify e.kind .forwarded observers) [] [] []
  | reporting e observers o => .of [] (notify e.kind o observers) [] [] []

/-- The marks that errands are still bound to leave behind. -/
def duesOf (p : Pipeline) (list : AllowList) (job : Job) (es : Multiset Errand) : Marks :=
  (es.map (Errand.dues p list job)).sum

section

variable (p : Pipeline) (list : AllowList) (job : Job) (a : Errand) (es es' : Multiset Errand)

@[simp] theorem duesOf_zero : duesOf p list job 0 = 0 := rfl

@[simp] theorem duesOf_singleton : duesOf p list job {a} = a.dues p list job := by simp [duesOf]

@[simp] theorem duesOf_cons :
    duesOf p list job (a ::ₘ es) = a.dues p list job + duesOf p list job es := by simp [duesOf]

@[simp] theorem duesOf_add :
    duesOf p list job (es + es') = duesOf p list job es + duesOf p list job es' := by
  simp [duesOf]

end

/-! ### The whole course -/

namespace Pipeline

variable {p : Pipeline} {list : AllowList}

theorem template?_ofPipeline (h : p.roster.Stocked) (command : String) :
    ((House.ofPipeline p list).template? command).isSome = p.roster.contains command := by
  rw [Roster.contains_eq]
  simp only [House.ofPipeline]
  cases hn : p.roster.template? command with
  | none => rfl
  | some n => simp [h.lt_of_template? hn]

theorem command_ofPipeline (h : p.roster.Stocked) (path : String) :
    (House.ofPipeline p list).command path = p.commandOf path := by
  have hregistered : (House.ofPipeline p list).registered = p.roster.contains := by
    funext command
    exact template?_ofPipeline h command
  rw [House.command, hregistered, commandOf]

/-- The template that the house finds for a command is the one whose copies are handed out. -/
theorem served?_ofPipeline (h : p.roster.Stocked) (command : String) :
    ((House.ofPipeline p list).template? command).or
        ((House.ofPipeline p list).template? defaultCommand) =
      (p.roster.served? command).bind fun n => (p.roster.templates.map Prod.fst)[n]? := by
  simp only [House.ofPipeline, Roster.served?, List.getElem?_map]
  cases hn : p.roster.template? command with
  | none => rfl
  | some n => simp [h.lt_of_template? hn]

theorem lt_of_served? (h : p.roster.Stocked) {command : String} {n : ℕ}
    (hn : p.roster.served? command = some n) : n < p.roster.templates.length := by
  rcases Option.or_eq_some_iff.mp hn with hn | ⟨-, hn⟩
  · exact h.lt_of_template? hn
  · exact h.lt_of_template? hn

/-- The marks of an admitted request. -/
theorem marks_request (h : p.roster.Stocked) (r : Request)
    (admitted : (House.ofPipeline p list).admits r.source = true) (job : Job)
    (hjob : job.ending = .request r) :
    .of [] [] [.accepted] [] [] +
      (.of [] (notify .conversion .forwarded p.queue.observers) [] [] [] +
        (.of [] (notify .middleware .forwarded p.queue.observers) [] [] [] +
          p.dispatchMarks p.queue.observers r)) = p.courseMarks list job := by
  have hcourse : Course.of (House.ofPipeline p list) job =
      (p.roster.served? (p.commandOf r.path)).elim .ofNoRoute fun n =>
        .ofHandlerEnd (p.treatment n { r with command := some (p.commandOf r.path) }) := by
    simp only [Course.of, hjob, Course.ofRequest, admitted, if_true, command_ofPipeline h,
      served?_ofPipeline h]
    cases hn : p.roster.served? (p.commandOf r.path) with
    | none => rfl
    | some n =>
      have hlt := lt_of_served? h hn
      simp [treatment, Roster.snd_run, hlt]
  unfold courseMarks takings handlings dispatchMarks
  rw [hcourse, hjob]
  simp only [admitted, if_true]
  cases p.roster.served? (p.commandOf r.path) with
  | none => simp [Marks.of_add, Course.notes, Course.ofNoRoute]
  | some n =>
    simp only [handlerMarks, Marks.of_add, Option.elim_some]
    cases p.treatment n { r with command := some (p.commandOf r.path) } <;>
      simp [Course.notes, Course.ofHandlerEnd, Course.ofHandling, HandlerEnd.calls,
        HandlerEnd.outcome, HandlerEnd.counter]

/-- A connection is counted as accepted, and the rest of its course is bound to be seen of its
conversion and its middleware. -/
theorem marks_course (h : p.roster.Stocked) (job : Job) :
    .of [] [] [.accepted] [] [] + (job.marks p.queue.observers +
      p.middlewareMarks list p.queue.observers job.result) = p.courseMarks list job := by
  cases hjob : job.ending with
  | request r =>
    have hres : job.result = .ok { request := r, connection := job.connection } := by
      simp [Job.result, hjob]
    have hspoils : ¬ job.Spoils := by simp [Job.Spoils, hres, Conversion.reply?]
    have hmarks : job.marks p.queue.observers =
        .of [] (notify .conversion .forwarded p.queue.observers) [] [] [] := by
      rw [Job.marks, if_neg hspoils, hres]
      rfl
    rw [hmarks, hres]
    unfold middlewareMarks
    by_cases admitted : (House.ofPipeline p list).admits r.source = true
    · simp only [admitted, if_true]
      exact marks_request h r admitted job hjob
    · simp [admitted, Marks.of_add, courseMarks, takings, handlings, Course.of, hjob,
        Course.ofRequest, Course.ofDenial, Course.notes]
  | malformed reason binds =>
    by_cases hlate : job.binding = .late <;> cases binds <;>
      simp [Job.marks, middlewareMarks, Marks.of_add, courseMarks, takings, handlings, Course.of,
        Course.ofFailure, Course.notes, Job.result, Job.Spoils, Conversion.reply?,
        Conversion.outcome, Conversion.counts, hjob, hlate]
  | panicked payload =>
    by_cases hlate : job.binding = .late <;>
      simp [Job.marks, middlewareMarks, Marks.of_add, courseMarks, takings, handlings, Course.of,
        Course.ofFailure, Course.notes, Job.result, Job.Spoils, Conversion.reply?,
        Conversion.outcome, Conversion.counts, hjob, hlate]

end Pipeline

/-! ### What an act shows -/

namespace Task

variable {t : Task} {x : Exchange} {inst : Instance}

theorem taking?_eq_none (h : t.phase ≠ .running ∨ ∀ x, t.event ≠ .dispatch x) :
    (Thread.task t).taking? = none := by
  unfold Thread.taking?
  split
  · rename_i heq
    obtain rfl := Thread.task.inj heq
    rcases h with h | h
    · exact absurd rfl h
    · exact absurd rfl (h _)
  · rfl

theorem handling?_eq_none (h : t.phase ≠ .working ∨ ∀ x inst, t.event ≠ .handler x inst) :
    (Thread.task t).handling? = none := by
  unfold Thread.handling?
  split
  · rename_i heq
    obtain rfl := Thread.task.inj heq
    rcases h with h | h
    · exact absurd rfl h
    · exact absurd rfl (h _ _)
  · rfl

theorem taking?_dispatch (ht : t.phase = .running) (he : t.event = .dispatch x) :
    (Thread.task t).taking? = some x.request.path := by
  obtain ⟨e, observers, phase⟩ := t
  obtain rfl : phase = .running := ht
  obtain rfl : e = .dispatch x := he
  rfl

theorem handling?_handler (ht : t.phase = .working) (he : t.event = .handler x inst) :
    (Thread.task t).handling? = some (inst.template, x.request) := by
  obtain ⟨e, observers, phase⟩ := t
  obtain rfl : phase = .working := ht
  obtain rfl : e = .handler x inst := he
  rfl

end Task

namespace Line

variable {line : Line}

theorem calls_close (hr : line.reply = {}) (ho : line.output.Returns) :
    line.close.reply.calls = Course.turnedDown := by
  simp [close, hr, Reply.drop, Reply.close, Reply.fail, Reply.canSend, Reply.call_of_returns ho,
    Course.turnedDown]

theorem calls_refuse (hr : line.reply = {}) (ho : line.output.Returns) :
    line.refuse.close.reply.calls = Course.turnedDown := by
  simp [refuse, close, hr, Reply.drop, Reply.close, Reply.fail, Reply.canSend,
    Reply.call_of_returns ho, Course.turnedDown]

theorem calls_treat (hr : line.reply = {}) (ho : line.output.Returns) (e : HandlerEnd) :
    (line.treat e).reply.calls = e.calls := by
  cases e with
  | answered r =>
    simp [treat, respond, close, hr, Reply.respond, Reply.drop, Reply.close, Reply.fail,
      Reply.canSend, Reply.call_of_returns ho, HandlerEnd.calls]
  | failed e => exact calls_refuse hr ho
  | panicked payload => exact calls_close hr ho

end Line

variable {i : Chance} {p q p₀ : Pipeline} {t : Thread} {k : ℕ} {done due rest : Multiset Errand}
  {line : Line} {counts : List Counter} {notes : List Note} {list : AllowList} {job : Job}
  {turns : List (Turn Chance Pipeline Thread)} {u : Turn Chance Pipeline Thread}

/-- An act shows what it calls, tells, counts, takes and runs. -/
theorem Deed.Acts.seen_snoc (h : Acts i p t done due q k line counts notes) {calls : List Call}
    (hcalls : line.reply.calls = (p.ledger.line k).reply.calls ++ calls) :
    Marks.seen k (turns ++ [⟨i, t, p, q⟩]) line = Marks.seen k turns (p.ledger.line k) +
      .of calls notes counts t.taking?.toList t.handling?.toList := by
  funext m
  cases m <;> simp [Marks.seen, Marks.of, hcalls, h.notesOf_snoc, h.countOf_snoc, h.takingsOf_snoc,
    h.handlingsOf_snoc]

theorem Turn.Idle.seen_snoc (h : u.Idle k) (line : Line) :
    Marks.seen k (turns ++ [u]) line = Marks.seen k turns line := by
  funext m
  cases m <;> simp [Marks.seen, h.notesOf_snoc, h.countOf_snoc, h.takingsOf_snoc,
    h.handlingsOf_snoc]

/-- A dispatch finds the command of its path, and is given a copy of the template that serves it, if
there is one. -/
theorem Pipeline.Steady.answer (hs : p₀.Steady list p) {path : String} {memo : RouteMemo}
    {found : Option String} {roster : Roster} {taken : Roster.Taken}
    (resolved : p.memo.resolve p.roster path = (memo, found))
    (took : p.roster.take (found.getD defaultCommand) = (roster, taken)) :
    found.getD defaultCommand = p₀.commandOf path ∧
      (p₀.roster.served? (p₀.commandOf path) = none ∧ taken = .unserved ∨
        ∃ inst, p₀.roster.served? (p₀.commandOf path) = some inst.template ∧
          taken = .handed inst) := by
  have hfound := hs.resolve path
  rw [resolved] at hfound
  have hcommand : found.getD defaultCommand = p₀.commandOf path :=
    congrArg (Option.getD · defaultCommand) hfound
  obtain ⟨hnone, hsome⟩ := hs.take (p₀.commandOf path)
  rw [← hcommand, took] at hnone hsome
  refine ⟨hcommand, ?_⟩
  rw [← hcommand]
  cases hn : p₀.roster.served? (found.getD defaultCommand) with
  | none => exact Or.inl ⟨rfl, hnone hn⟩
  | some n =>
    obtain ⟨inst, htaken, rfl⟩ := hsome n hn
    exact Or.inr ⟨inst, rfl, htaken⟩

/-! ### On course -/

/-- How far the hand-over is, with so many errands that wait and so many that convert: the job is
still to be run, or its result waits to be taken, or it was taken. -/
inductive HandOver.Fits (job : Job) : HandOver → ℕ → ℕ → Prop where
  | awaited : Fits job .awaited 1 1
  | ready : Fits job (.ready job.result) 1 0
  | taken : Fits job .noReceiver 0 0

/-- What is so of the connection of a job at any time, while the house answers as it did at the
beginning: what was seen and what is due are the whole course. -/
structure OnCourse (p₀ : Pipeline) (list : AllowList) (job : Job)
    (turns : List (Turn Chance Pipeline Thread)) (k : ℕ) (line : Line) (es : Multiset Errand) :
    Prop where
  custody : Custody turns k line es
  jobs : ∀ a ∈ es, ∀ job', a.job? = some job' → job' = job
  fits : line.handOver.Fits job (weight Event.waits es) (weight Event.converts es)
  law : Marks.seen k turns line + duesOf p₀ list job es = p₀.courseMarks list job

namespace HandOver.Fits

variable {hand : HandOver} {w c : ℕ}

theorem converting (h : hand.Fits job w (1 + c)) : hand = .awaited ∧ w = 1 ∧ c = 0 := by
  rw [Nat.add_comm] at h
  cases h
  exact ⟨rfl, rfl, rfl⟩

theorem waiting (h : hand.Fits job (1 + w) c) :
    w = 0 ∧ (hand = .awaited ∧ c = 1 ∨ hand = .ready job.result ∧ c = 0) := by
  rw [Nat.add_comm] at h
  cases h with
  | awaited => exact ⟨rfl, Or.inl ⟨rfl, rfl⟩⟩
  | ready => exact ⟨rfl, Or.inr ⟨rfl, rfl⟩⟩

theorem keeps (h : hand.Fits job 0 0) : hand.keeps = 0 := by
  cases h
  rfl

end HandOver.Fits

namespace OnCourse

/-- What is to be shown of an act: the hand-over goes on, and what the act shows was due. -/
structure Step (p₀ : Pipeline) (list : AllowList) (job : Job) (t : Thread) (before line : Line)
    (done due rest : Multiset Errand) (counts : List Counter) (notes : List Note)
    (calls : List Call) : Prop where
  fits : line.handOver.Fits job (weight Event.waits due + weight Event.waits rest)
    (weight Event.converts due + weight Event.converts rest)
  made : line.reply.calls = before.reply.calls ++ calls
  dues : duesOf p₀ list job done =
    .of calls notes counts t.taking?.toList t.handling?.toList + duesOf p₀ list job due

/-- A task that neither takes an instance nor runs a handler shows what it calls, tells and
counts. -/
theorem Step.of_task {t : Task} {before : Line} {calls : List Call}
    (taking : t.phase ≠ .running ∨ ∀ x, t.event ≠ .dispatch x)
    (handling : t.phase ≠ .working ∨ ∀ x inst, t.event ≠ .handler x inst)
    (fits : line.handOver.Fits job (weight Event.waits due + weight Event.waits rest)
      (weight Event.converts due + weight Event.converts rest))
    (made : line.reply.calls = before.reply.calls ++ calls)
    (dues : duesOf p₀ list job done = .of calls notes counts [] [] + duesOf p₀ list job due) :
    Step p₀ list job (.task t) before line done due rest counts notes calls where
  fits := fits
  made := made
  dues := by
    rw [Task.taking?_eq_none taking, Task.handling?_eq_none handling]
    exact dues

/-- A middleware that finds a result takes it, and nobody waits or converts any more. -/
theorem taking {t : Task} {before : Line} {c : Conversion}
    (fits : before.handOver.Fits job
      (weight Event.waits {.begun t.event t.observers} + weight Event.waits rest)
      (weight Event.converts {.begun t.event t.observers} + weight Event.converts rest))
    (he : t.event = .middleware k) (ready : before.handOver = .ready c) :
    job.result = c ∧ weight Event.waits rest = 0 ∧ weight Event.converts rest = 0 := by
  have hwaits : weight Event.waits {.begun t.event t.observers} = 1 := by simp [he, Event.waits]
  have hconverts : weight Event.converts {.begun t.event t.observers} = 0 := by
    simp [he, Event.converts]
  rw [hwaits, hconverts, zero_add] at fits
  obtain ⟨hw, ⟨hhand, -⟩ | ⟨hhand, hc⟩⟩ := fits.waiting
  · rw [ready] at hhand
    cases hhand
  · rw [ready] at hhand
    exact ⟨(HandOver.ready.inj hhand).symm, hw, hc⟩

/-- Every act keeps its connection on course. -/
theorem act (h : OnCourse p₀ list job turns k (p.ledger.line k) (done + rest))
    (hacts : Deed.Acts i p t done due q k line counts notes) (steady : p₀.Steady list p)
    (spare : i.moments.Spare list) (quiet : p.Open) :
    OnCourse p₀ list job (turns ++ [⟨i, t, p, q⟩]) k line (due + rest) := by
  suffices hstep : ∃ calls, Step p₀ list job t (p.ledger.line k) line done due rest counts notes
      calls by
    obtain ⟨calls, fits, hcalls, hdues⟩ := hstep
    refine ⟨h.custody.act hacts.act, fun a ha job' hj => ?_, by simpa using fits, ?_⟩
    · rcases Multiset.mem_add.mp ha with ha | ha
      · obtain ⟨b, hb, hj⟩ := hacts.act.jobs a ha job' hj
        exact h.jobs b (Multiset.mem_add.mpr (Or.inl hb)) job' hj
      · exact h.jobs a (Multiset.mem_add.mpr (Or.inr ha)) job' hj
    · rw [hacts.seen_snoc hcalls, ← h.law, duesOf_add, duesOf_add, hdues]
      abel
  have hcustody := h.custody
  have ho := hcustody.returns
  have hfits := h.fits
  rw [weight_add, weight_add] at hfits
  have hobservers : p.queue.observers = p₀.queue.observers := congrArg Prod.fst steady.manners
  have hshut : p.shouldAbandon = false := by simp [Pipeline.shouldAbandon, quiet.quitting]
  cases hacts.act with
  -- without a shutdown nothing is dropped, discarded or refused
  | drop closed => exact absurd closed (by simp [quiet.permitsClosed])
  | discard ht he =>
    cases ht with
    | dispatcher h => exact absurd quiet.accepting (by simp [h])
    | closer h | joiner h => exact absurd h (by simp [quiet.closed])
  | refuse ht closed => exact absurd closed (by simp [quiet.permitsClosed])
  | @begins t ht he stays =>
    refine ⟨[], .of_task (Or.inr he.2) (Or.inl (by simp [ht])) (by simpa using hfits)
      (List.append_nil _).symm ?_⟩
    simp [Marks.of_nil, Errand.dues]
  | @poll t ht he =>
    refine ⟨[], .of_task (Or.inl (by simp [ht])) (Or.inr (by simp [he])) (by simpa using hfits)
      (List.append_nil _).symm ?_⟩
    simp [Marks.of_nil, Errand.dues]
  | @convert t job' ht he hk awaited =>
    obtain rfl : job' = job := h.jobs (.begun t.event t.observers) (by simp) job' (by rw [he]; rfl)
    obtain ⟨-, -, hr⟩ := hcustody.of_done (by simp [he, Event.keeps])
    have hwaits : weight Event.waits {.begun t.event t.observers} = 0 := by simp [he, Event.waits]
    have hconverts : weight Event.converts {.begun t.event t.observers} = 1 := by
      simp [he, Event.converts]
    rw [hwaits, hconverts, zero_add] at hfits
    -- no other conversion is left, and a middleware still waits
    obtain ⟨-, hw, hc⟩ := hfits.converting
    refine ⟨if job'.Spoils then Course.turnedDown else [],
      .of_task (Or.inl (by simp [ht])) (Or.inr (by simp [he])) ?_ ?_ ?_⟩
    · simpa [hw, hc, Line.handOn] using HandOver.Fits.ready
    · by_cases hs : job'.Spoils
      · simp [Line.handOn, Line.run, hs, Line.calls_close hr ho, hr]
      · simp [Line.handOn, Line.run, hs]
    · simp [Errand.dues, he, Job.marks, Marks.of_add, Event.kind]
  | @convertInVain t job' ht he hk left =>
    have hconverts : weight Event.converts {.begun t.event t.observers} = 1 := by
      simp [he, Event.converts]
    rw [hconverts] at hfits
    obtain ⟨hawaited, -, -⟩ := hfits.converting
    rw [hawaited] at left
    cases left
  | @giveUp t done he why =>
    -- a wait is given up for a shutdown, or when nothing will come
    exfalso
    rcases why with ⟨-, -, hshut'⟩ | ⟨-, rfl, hleft⟩
    · rw [hshut] at hshut'
      cases hshut'
    · have hwaits : weight Event.waits {.begun t.event t.observers} = 1 := by simp [he, Event.waits]
      rw [hwaits] at hfits
      obtain ⟨-, ⟨hhand, -⟩ | ⟨hhand, -⟩⟩ := hfits.waiting
      · rw [hhand] at hleft
        rcases hleft with hleft | hleft <;> cases hleft
      · rw [hhand] at hleft
        rcases hleft with hleft | hleft <;> cases hleft
  | @malformed t e ht he ready =>
    obtain ⟨hres, hw, hc⟩ := taking hfits he ready
    refine ⟨if e.reply = none then [] else Course.turnedDown,
      .of_task (Or.inl (by simp [ht])) (Or.inr (by simp [he])) ?_ ?_ ?_⟩
    · have hleft : (if e.reply = none then (p.ledger.line k).leave
          else (p.ledger.line k).leave.close).handOver = .noReceiver := by
        split <;> rfl
      simpa [hleft, hw, hc] using HandOver.Fits.taken
    · by_cases hrep : e.reply = none
      · simp [hrep, Line.leave]
      · obtain ⟨-, hr⟩ := hcustody.of_handOver
          (by simp [ready, HandOver.keeps, Conversion.reply?, hrep])
        have hclose : (p.ledger.line k).leave.close.reply.calls = Course.turnedDown :=
          Line.calls_close hr ho
        simp [hrep, hclose, hr]
    · simp [Errand.dues, he, hres, Pipeline.middlewareMarks, Marks.of_add, Event.kind]
  | @deny t x gate ht he ready asked =>
    obtain ⟨hres, hw, hc⟩ := taking hfits he ready
    obtain ⟨-, hr⟩ := hcustody.of_handOver (by simp [ready, HandOver.keeps, Conversion.reply?])
    have hadmits := steady.allow spare x.request.source
    rw [asked] at hadmits
    refine ⟨Course.turnedDown,
      .of_task (Or.inl (by simp [ht])) (Or.inr (by simp [he])) ?_ ?_ ?_⟩
    · simpa [Line.refuse, Line.leave, Line.close, hw, hc] using HandOver.Fits.taken
    · have hrefuse : (p.ledger.line k).leave.refuse.close.reply.calls = Course.turnedDown :=
        Line.calls_refuse hr ho
      rw [hrefuse, hr]
      rfl
    · simp [Errand.dues, he, hres, Pipeline.middlewareMarks, ← hadmits, Marks.of_add, Event.kind]
  | @grant t x gate ht he ready hx asked =>
    obtain ⟨hres, hw, hc⟩ := taking hfits he ready
    have hadmits := steady.allow spare x.request.source
    rw [asked] at hadmits
    refine ⟨[], .of_task (Or.inl (by simp [ht])) (Or.inr (by simp [he])) ?_
      (List.append_nil _).symm ?_⟩
    · simpa [Line.leave, hw, hc, Event.waits, Event.converts] using HandOver.Fits.taken
    · simp [Errand.dues, he, hres, Pipeline.middlewareMarks, ← hadmits, Marks.of_nil, Event.kind,
        hobservers]
  | @noRoute t x memo found roster ht he hx resolved taken =>
    obtain ⟨-, -, hr⟩ := hcustody.of_done (by simp [he, Event.keeps])
    have hserved : p₀.roster.served? (p₀.commandOf x.request.path) = none := by
      obtain ⟨-, ⟨hnone, -⟩ | ⟨inst, -, hinst⟩⟩ := steady.answer resolved taken
      · exact hnone
      · cases hinst
    refine ⟨Course.turnedDown, ?_, ?_, ?_⟩
    · simpa [he, Event.waits, Event.converts, Line.refuse, Line.close] using hfits
    · rw [Line.calls_refuse hr ho, hr]
      rfl
    · rw [Task.taking?_dispatch ht he, Task.handling?_eq_none (Or.inl (by simp [ht]))]
      simp [Errand.dues, he, Pipeline.dispatchMarks, hserved, Marks.of_add, Event.kind]
  | @die t x memo found roster ht he hx resolved taken =>
    -- making a copy does not panic in a house in order
    obtain ⟨-, ⟨-, htaken⟩ | ⟨inst, -, htaken⟩⟩ := steady.answer resolved taken
    · cases htaken
    · cases htaken
  | @dispatch t x memo found roster inst ht he hx resolved taken =>
    obtain ⟨hfound, ⟨-, hunserved⟩ | ⟨inst', hserved, hinst⟩⟩ := steady.answer resolved taken
    · cases hunserved
    obtain rfl : inst = inst' := Roster.Taken.handed.inj hinst
    refine ⟨[], ?_, (List.append_nil _).symm, ?_⟩
    · simpa [he, Event.waits, Event.converts] using hfits
    · rw [Task.taking?_dispatch ht he, Task.handling?_eq_none (Or.inl (by simp [ht]))]
      have hmarks : Marks.of [] (notify .dispatch .forwarded t.observers) [.dispatched]
          [x.request.path] [] = .of [] [] [.dispatched] [x.request.path] [] +
            .of [] (notify .dispatch .forwarded t.observers) [] [] [] := by
        simp [Marks.of_add]
      simp [Errand.dues, he, Pipeline.dispatchMarks, hserved, hfound, hobservers, Event.kind,
        hmarks, add_assoc]
  | @handle t x inst e ht he hx run =>
    obtain ⟨-, -, hr⟩ := hcustody.of_done (by simp [he, Event.keeps])
    -- any copy does what the first one would have done
    obtain rfl : p₀.treatment inst.template x.request = e :=
      (steady.run inst x.request).symm.trans run
    refine ⟨(p₀.treatment inst.template x.request).calls, ?_, ?_, ?_⟩
    · simpa [he, Event.waits, Event.converts] using hfits
    · rw [Line.calls_treat hr ho, hr]
      rfl
    · rw [Task.taking?_eq_none (Or.inl (by simp [ht])), Task.handling?_handler ht he]
      simp [Errand.dues, he, Pipeline.handlerMarks, Marks.of_add, Event.kind]
  | @pass t ht =>
    refine ⟨[], .of_task (Or.inl (by simp [ht])) (Or.inl (by simp [ht])) (by simpa using hfits)
      (List.append_nil _).symm ?_⟩
    simp [Marks.of_nil, Errand.dues]
  | @report t o ht =>
    refine ⟨[], .of_task (Or.inl (by simp [ht])) (Or.inl (by simp [ht])) (by simpa using hfits)
      (List.append_nil _).symm ?_⟩
    simp [Errand.dues]

/-- A connection that was just let in is on course. -/
theorem enter {o : Offer} {incoming : List Arrival} (ho : o.output.Returns)
    (hidle : ∀ u ∈ turns, u.Idle k) (hlen : p.ledger.length = k)
    (hin : p.incoming = o.arrival :: incoming)
    (counters : q.counters = p.counters.bump .accepted) (notes : q.notes = p.notes)
    (stocked : p₀.roster.Stocked) (observers : p.queue.observers = p₀.queue.observers) :
    OnCourse p₀ list (o.job k) (turns ++ [⟨i, .acceptor .listening, p, q⟩]) k
      { output := o.output }
      {.pending (.conversion (o.job k)) p.queue.observers,
        .pending (.middleware k) p.queue.observers} := by
  obtain ⟨hcounts, hnotes, htakings, hhandlings⟩ :=
    record_enter (i := i) hidle hlen hin counters notes
  refine ⟨.enter ho hidle hin, fun a ha job hj => ?_, ?_, ?_⟩
  · simp only [Multiset.insert_eq_cons, Multiset.mem_cons, Multiset.mem_singleton] at ha
    rcases ha with rfl | rfl
    · exact (Option.some.inj hj).symm
    · cases hj
  · simpa [Event.waits, Event.converts] using HandOver.Fits.awaited
  · rw [← Pipeline.marks_course stocked]
    have hseen : Marks.seen k (turns ++ [⟨i, .acceptor .listening, p, q⟩]) { output := o.output } =
        .of [] [] [.accepted] [] [] := by
      funext m
      cases m with
      | count c =>
        by_cases hc : c = .accepted
        · simp [Marks.seen, Marks.of, hcounts, hc]
        · simp [Marks.seen, Marks.of, hcounts, hc, Ne.symm hc]
      | _ => simp [Marks.seen, Marks.of, hnotes, htakings, hhandlings]
    rw [hseen, observers]
    simp [Errand.dues]

/-- A move that is idle for a connection leaves it on course. -/
theorem idle {es : Multiset Errand} (h : OnCourse p₀ list job turns k line es) (hu : u.Idle k) :
    OnCourse p₀ list job (turns ++ [u]) k line es :=
  ⟨h.custody.snoc hu.not_binds, h.jobs, h.fits, by rw [hu.seen_snoc, h.law]⟩

end OnCourse

/-- What is so of a connection that was let in, at any time of a run in a house in order. -/
theorem Engine.Opening.onCourse {g d : Engine} (h : g.Opening) (order : g.shared.InOrder list)
    (outputs : ∀ o ∈ g.shared.offers, o.output.Returns) (run : Crowd.Run Thread.move g turns d)
    (spare : ∀ u ∈ turns, u.chance.moments.Spare list) (quiet : d.shared.Open)
    (hk : k < d.shared.ledger.length) {o : Offer} (ho : g.shared.offers[k]? = some o) :
    OnCourse g.shared list (o.job k) turns k (d.shared.ledger.line k) (errandsOf k d.errands) := by
  -- whatever is so of the house at every turn
  have hturns : ∀ u ∈ turns, g.shared.Steady list u.before ∧ u.chance.moments.Spare list ∧
      u.before.Open := fun u hu =>
    ⟨h.steady order run spare u hu, spare u hu, h.open_before run quiet u hu⟩
  refine (h.induct_connection run (k := k) (P := fun turns line es =>
    (∀ u ∈ turns, g.shared.Steady list u.before ∧ u.chance.moments.Spare list ∧ u.before.Open) →
      OnCourse g.shared list (o.job k) turns k line es) ?_ ?_ ?_).elim
    (fun hle => absurd hk (not_lt.mpr hle.1)) fun hP => hP.2 hturns
  · intro turns i p q o' incoming hidle hlen hin ho' hcounters hnotes hturns
    obtain rfl : o = o' := Option.some.inj (ho.symm.trans ho')
    have hobservers : p.queue.observers = g.shared.queue.observers :=
      congrArg Prod.fst (hturns _ (List.mem_append_right _ List.mem_cons_self)).1.manners
    exact .enter (outputs o (List.mem_of_getElem? ho)) hidle hlen hin hcounters hnotes
      order.stocked hobservers
  · exact fun hidle h hturns =>
      (h fun u hu => hturns u (List.mem_append_left _ hu)).idle hidle
  · intro turns i p t q done due rest line counts notes _ hacts h hturns
    obtain ⟨hsteady, hspare, hopen⟩ := hturns _ (List.mem_append_right _ List.mem_cons_self)
    exact (h fun u hu => hturns u (List.mem_append_left _ hu)).act hacts hsteady hspare hopen

/-! ### The whole run -/

/-- A course calls nothing, or one answer and a close. -/
theorem Course.calls_of (house : House) (job : Job) :
    (Course.of house job).calls = [] ∨
      ∃ c, c ≠ .close ∧ (Course.of house job).calls = [c, .close] := by
  have hfailure : ∀ bound, (ofFailure bound).calls = [] ∨
      ∃ c, c ≠ .close ∧ (ofFailure bound).calls = [c, .close] := by
    intro bound
    cases bound with
    | true => exact Or.inr ⟨.error, by simp, rfl⟩
    | false => exact Or.inl rfl
  unfold Course.of
  split
  · refine Or.inr ?_
    unfold ofRequest
    split
    · dsimp only
      split
      · rename_i t _
        cases t.handle 1 1 _ with
        | answered r =>
          refine ⟨r.call, ?_, rfl⟩
          unfold Response.call
          cases r.status <;> simp
        | failed e => exact ⟨.error, by simp, rfl⟩
        | panicked payload => exact ⟨.error, by simp, rfl⟩
      · exact ⟨.error, by simp, rfl⟩
    · exact ⟨.error, by simp, rfl⟩
  · exact hfailure _
  · exact hfailure _

namespace Pipeline

variable (p : Pipeline)

theorem length_takings : (p.takings list job).length ≤ 1 := by
  unfold takings
  split
  · split <;> simp
  · simp

theorem length_handlings : (p.handlings list job).length ≤ 1 := by
  unfold handlings
  split
  · split
    · rename_i r _ _
      cases p.roster.served? (p.commandOf r.path) <;> simp
    · simp
  · simp

end Pipeline

theorem eq_of_perm_of_short {α : Type*} {xs ys : List α} (h : xs.Perm ys) (hy : ys.length ≤ 1) :
    xs = ys := by
  match ys, hy with
  | [], _ => exact h.eq_nil
  | [y], _ => exact List.perm_singleton.mp h

/-- The calls on an output that are right but for their order are right. -/
theorem Custody.calls_eq (h : Custody turns k line 0) (hz : line.handOver.keeps = 0)
    {calls : List Call} (hperm : line.reply.calls.Perm calls)
    (hcalls : calls = [] ∨ ∃ c, c ≠ .close ∧ calls = [c, .close]) : line.reply.calls = calls := by
  have hkept : line.reply.Kept (Bound k turns) 0 := by simpa [hz] using h.kept
  revert hperm
  generalize line.reply = g at hkept
  intro hperm
  cases hkept with
  | finished hover =>
    obtain ⟨sent, c, hc, rfl⟩ := hover
    rcases hcalls with rfl | ⟨c', hc', rfl⟩
    · exact hperm.eq_nil
    · have hmem : c ∈ [c', Call.close] := hperm.subset List.mem_cons_self
      simp only [List.mem_cons, List.not_mem_nil, or_false, hc] at hmem
      rw [hmem]
  | unbound => exact hperm.symm.eq_nil.symm

/-- **Each connection on its own.** In a house in order, with nobody shutting the server down, a
connection for which nothing is left to be done has gone the course that it would have gone alone,
whatever else the threads did and in whatever order: the same calls on its output, the same notes
to the observers, the same counts, an instance taken for its path and run just if the course says
so; and if none was to be taken, no move made for it touched the roster. -/
theorem Engine.Opening.agrees_with_course {g d : Engine} (h : g.Opening)
    (order : g.shared.InOrder list) (outputs : ∀ o ∈ g.shared.offers, o.output.Returns)
    (run : Crowd.Run Thread.move g turns d) (spare : ∀ u ∈ turns, u.chance.moments.Spare list)
    (quiet : d.shared.Open) (hk : k < d.shared.ledger.length)
    (finished : errandsOf k d.errands = 0) {o : Offer} (ho : g.shared.offers[k]? = some o) :
    let course := Course.of (House.ofPipeline g.shared list) (o.job k)
    (d.shared.ledger.line k).reply.calls = course.calls ∧
      (notesOf k turns).Perm (course.notes g.shared.queue.observers) ∧
      (∀ c, countOf k c turns = course.counts.count c) ∧
      takingsOf k turns = g.shared.takings list (o.job k) ∧
      handlingsOf k turns = g.shared.handlings list (o.job k) ∧
      (takingsOf k turns = [] → ∀ u ∈ turnsOf k turns, u.after.roster = u.before.roster) := by
  intro course
  have hcourse := h.onCourse order outputs run spare quiet hk ho
  rw [finished] at hcourse
  have hlaw : ∀ m, Marks.seen k turns (d.shared.ledger.line k) m =
      g.shared.courseMarks list (o.job k) m := fun m => by
    rw [← hcourse.law, duesOf_zero, add_zero]
  -- nothing is due any more, so what was seen is the whole course, but for the order
  have htakings : (takingsOf k turns).Perm (g.shared.takings list (o.job k)) :=
    List.perm_iff_count.mpr fun path => hlaw (.take path)
  have hhandlings : (handlingsOf k turns).Perm (g.shared.handlings list (o.job k)) :=
    List.perm_iff_count.mpr fun run => hlaw (.handle run.1 run.2)
  have hcalls : (d.shared.ledger.line k).reply.calls.Perm course.calls :=
    List.perm_iff_count.mpr fun c => hlaw (.call c)
  have hkeeps : (d.shared.ledger.line k).handOver.keeps = 0 := hcourse.fits.keeps
  refine ⟨hcourse.custody.calls_eq hkeeps hcalls (Course.calls_of _ _),
    List.perm_iff_count.mpr fun n => hlaw (.note n), fun c => hlaw (.count c),
    eq_of_perm_of_short htakings (g.shared.length_takings),
    eq_of_perm_of_short hhandlings (g.shared.length_handlings), fun hnone u hu => ?_⟩
  obtain ⟨hmem, -⟩ := List.mem_filter.mp hu
  exact h.roster_eq run u hmem (List.filterMap_eq_nil_iff.mp hnone u hu)

namespace Engine

theorem inOrder_sample : sample.shared.InOrder sampleList := by
  have htemplates : ∀ t ∈ sample.shared.roster.templates.map Prod.fst, t = default := by
    intro t ht
    exact List.mem_singleton.mp ht
  refine ⟨rfl, (Roster.stocked_empty 0 0).register defaultCommand default, fun t ht n => ?_,
    fun t ht => ?_, RouteMemo.sound_ofCapacity 1 _⟩
  · rw [htemplates t ht]
    rfl
  · rw [htemplates t ht]
    exact ⟨fun _ => .answered {}, fun _ _ _ => rfl⟩

/-- The request of the sample is handled by the only handler and answered, and the connection that
cannot be read is turned down. -/
theorem agrees_with_course_sample :
    ((sampleRun.2.shared.ledger.line 0).reply.calls = [.ok {}, .close] ∧
      handlingsOf 0 sampleRun.1 = [(0, { path := "/", source := "a", command := some "" })]) ∧
    (sampleRun.2.shared.ledger.line 1).reply.calls = [.error, .close] ∧
      handlingsOf 1 sampleRun.1 = [] := by
  have spare : ∀ u ∈ sampleRun.1, u.chance.moments.Spare sampleList := by decide +kernel
  have quiet : sampleRun.2.shared.Open := by constructor <;> decide +kernel
  have finished : ∀ k < 2, errandsOf k sampleRun.2.errands = 0 := by decide +kernel
  have hlength : sampleRun.2.shared.ledger.length = 2 := by decide +kernel
  obtain ⟨hcalls, -, -, -, hhandlings, -⟩ := opening_sample.agrees_with_course inOrder_sample
    returns_sample run_sample spare quiet (by omega) (finished 0 (by omega))
    (o := ⟨.reliable, .request { path := "/", source := "a" }, .early, none⟩) rfl
  obtain ⟨hcalls', -, -, -, hhandlings', -⟩ := opening_sample.agrees_with_course inOrder_sample
    returns_sample run_sample spare quiet (by omega) (finished 1 (by omega))
    (o := ⟨.reliable, .malformed "unreadable" true, .late, none⟩) rfl
  exact ⟨⟨hcalls.trans (by decide +kernel), hhandlings.trans (by decide +kernel)⟩,
    hcalls'.trans (by decide +kernel), hhandlings'.trans (by decide +kernel)⟩

end Engine
end Switchboard
