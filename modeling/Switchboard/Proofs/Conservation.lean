import Switchboard.Pipeline.Basic
import Switchboard.Proofs.Fifo

/-!
# What becomes of published envelopes

One thing after another is done with the queue of a pipeline: envelopes are published, right away or
as soon as there is room, the consumer takes some, and the queue is closed. A `Journal` keeps,
beside the pipeline, who waits for room, and which envelopes were published, taken and discarded,
each in order.

Main statement: `Journal.conserves`. What was taken, what was discarded and what lies in the queue
is, in this order, exactly what was published; and observers are told of what is discarded, once
each, and of nothing else.
-/

namespace Switchboard

/-- What is done with the queue of a pipeline. -/
inductive QueueAct where
  /-- An event is published if there is room for it right away. -/
  | tryPublish (event : Event)
  /-- An envelope with observers of its own is published as soon as there is room for it. -/
  | publish (e : Envelope Event)
  /-- One of those who wait for room gives up, and its event is dropped. -/
  | giveUp (place : ℕ)
  /-- The consumer looks for the next envelope. -/
  | next
  /-- The next envelope is taken, also from a closed queue. -/
  | tryNext
  | close

/-- A pipeline, and what was done with its queue. -/
structure Journal where
  pipeline : Pipeline
  /-- The envelopes of those who wait for room, first come first. -/
  waiting : List (Envelope Event) := []
  /-- The envelopes whose publication succeeded, as they were handed in. -/
  published : List (Envelope Event) := []
  taken : List (Envelope Event) := []
  /-- The envelopes that were discarded when the queue was closed. -/
  discarded : List (Envelope Event) := []

/-- The envelope that the consumer finds. -/
def Ring.Next.item? {ε : Type} : Ring.Next ε → Option (Envelope ε)
  | .item e => some e
  | .finished | .waits => none

/-- An envelope as it lies in a queue with these default observers: they come after its own. -/
def Envelope.laidIn {ε : Type} (e : Envelope ε) (observers : List Observer) : Envelope ε :=
  (e.addObservers observers).stamp

namespace Journal

/-! ### Acts -/

/-- Publishes an envelope if there is room for it. -/
def publish (j : Journal) (e : Envelope Event) : Journal × Except QueueError Unit :=
  match j.pipeline.publish e with
  | (p, .ok _) => ({ j with pipeline := p, published := j.published ++ [e] }, .ok ())
  | (p, .error error) => ({ j with pipeline := p }, .error error)

/-- Those who wait have another look, first come first, until one of them finds no room. A closed
queue turns all of them away. -/
def letIn (j : Journal) : List (Envelope Event) → Journal
  | [] => { j with waiting := [] }
  | e :: rest =>
    match j.publish e with
    | (_, .error .full) => { j with waiting := e :: rest }
    | (j, _) => j.letIn rest

/-- Goes on with the queue that is left after looking for an envelope, and with what was found. Who
waits may find room then. -/
def take (j : Journal) (queue : EventQueue Event) : Option (Envelope Event) → Journal
  | some e =>
    ({ j with pipeline := { j.pipeline with queue }, taken := j.taken ++ [e] } : Journal).letIn
      j.waiting
  | none => { j with pipeline := { j.pipeline with queue } }

/-- Whoever waits at this place leaves, and lets go of the event. -/
def giveUp (j : Journal) (place : ℕ) : Journal :=
  match j.waiting[place]? with
  | some e =>
    { j with
      pipeline := j.pipeline.release e.event
      waiting := j.waiting.eraseIdx place }
  | none => j

/-- An act, after which nobody waits who could go on. -/
def perform (j : Journal) : QueueAct → Journal
  | .tryPublish event => (j.publish { event }).1
  | .publish e => j.letIn (j.waiting ++ [e])
  | .giveUp place => j.giveUp place
  | .next => j.take j.pipeline.queue.next.1 j.pipeline.queue.next.2.item?
  | .tryNext => j.take j.pipeline.queue.tryNext.1 j.pipeline.queue.tryNext.2
  | .close =>
    ({ j with
      pipeline := j.pipeline.closeQueue.1
      discarded := j.discarded ++ j.pipeline.queue.close.2 } : Journal).letIn j.waiting

/-- The journal after one act after the other. -/
def after (j : Journal) (acts : List QueueAct) : Journal := acts.foldl perform j

end Journal

/-- What the consumer finds is the oldest envelope; in a closed ring there must be none. -/
theorem Ring.Holds.next {ε : Type} {r : Ring ε} {l : Fifo ε} [Payload ε] (h : r.Holds l)
    (hclosed : l.closed = true → l.held = []) :
    r.next.2.item? = l.held.head? ∧ r.next.1.Holds { l with held := l.held.tail } := by
  obtain ⟨hfound, hrest⟩ := h.tryNext
  unfold Ring.next
  split
  · rename_i hr
    have hheld := hclosed (h.closed_eq.symm.trans hr)
    refine ⟨by rw [hheld]; rfl, ?_⟩
    rw [hheld, List.tail_nil, ← hheld]
    exact h
  · rcases hnext : r.tryNext with ⟨q, _ | e⟩ <;> rw [hnext] at hfound hrest
    · have hcalm : q.Calm { q with notified := false } := ⟨rfl, rfl, rfl, rfl, id⟩
      exact ⟨hfound, hrest.of_calm hcalm hrest.closed_eq hrest.permitsClosed_eq⟩
    · exact ⟨hfound, hrest⟩

namespace Pipeline

variable {p : Pipeline} {l : Fifo Event}

/-- Publishing is refused by a closed queue, else by a full one, and else adds the envelope with the
default observers after its own. Who is refused has the event dropped, and nothing else. -/
theorem publish_cases (h : p.queue.ring.Holds l) (e : Envelope Event) :
    (∃ ledger error, p.publish e = ({ p with ledger }, .error error)) ∨
      l.closed = false ∧ ∃ ring, p.publish e = (p.withRing ring, .ok ()) ∧
        ring.Holds { l with held := l.held ++ [e.laidIn p.queue.observers] } := by
  unfold publish EventQueue.publishEnvelope
  obtain ⟨-, he⟩ | ⟨-, -, he⟩ | ⟨hopen, -, ring, he, hring⟩ :=
    h.tryPublish (e.addObservers p.queue.observers) <;> rw [he]
  · exact .inl ⟨_, _, rfl⟩
  · exact .inl ⟨_, _, rfl⟩
  · exact .inr ⟨hopen, ring, rfl, hring⟩

/-- Discarding envelopes tells the observers of one after the other. -/
theorem foldl_discard (p : Pipeline) (es : List (Envelope Event)) :
    (es.foldl (fun p e => p.discard e .abandoned) p).queue = p.queue ∧
      (es.foldl (fun p e => p.discard e .abandoned) p).notes =
        p.notes ++ EventQueue.discardNotes es := by
  induction es generalizing p with
  | nil => exact ⟨rfl, (List.append_nil _).symm⟩
  | cons e es ih =>
    obtain ⟨hqueue, hnotes⟩ := ih (p.discard e .abandoned)
    refine ⟨hqueue, hnotes.trans ?_⟩
    exact List.append_assoc p.notes (e.notes .abandoned) (EventQueue.discardNotes es)

/-- Closing the queue discards everything that it holds. -/
theorem closeQueue_spec (h : p.queue.ring.Holds l) :
    p.queue.close.2 = l.held ∧ p.closeQueue.2 = l.held.length ∧
      p.closeQueue.1.queue.ring.Holds { l with held := [], closed := true } ∧
      p.closeQueue.1.queue.observers = p.queue.observers ∧
      p.closeQueue.1.notes = p.notes ++ EventQueue.discardNotes l.held := by
  obtain ⟨hheld, hring⟩ := h.close.drain
  have hleft : p.queue.close.2 = l.held := hheld
  obtain ⟨hqueue, hnotes⟩ :=
    foldl_discard { p with queue := p.queue.close.1 } p.queue.close.2
  change p.closeQueue.1.queue = _ at hqueue
  change p.closeQueue.1.notes = _ at hnotes
  refine ⟨hleft, congrArg List.length hleft, ?_, ?_, ?_⟩
  · rw [hqueue]
    exact hring
  · rw [hqueue]
    rfl
  · rw [hnotes, hleft]

end Pipeline

theorem EventQueue.observers_ofCapacity {ε : Type} [Payload ε] {capacity : ℕ}
    {observers : List Observer} {queue : EventQueue ε}
    (h : EventQueue.ofCapacity capacity observers = .ok queue) : queue.observers = observers := by
  have hring := EventQueue.ring_ofCapacity h
  unfold EventQueue.ofCapacity at h
  rw [hring] at h
  exact congrArg EventQueue.observers (Except.ok.inj h).symm

namespace Journal

variable {j : Journal} {l : Fifo Event} {observers : List Observer} {told : List Note}

/-! ### Keeping the journal -/

/-- A journal is **sound** with the list that its queue holds: what was taken, what was discarded
and what is held are what was published; and besides what observers had been told at the beginning
they were told of what was discarded. Nothing is discarded before the queue is closed, and nothing
is held afterwards. -/
structure Sound (observers : List Observer) (told : List Note) (l : Fifo Event) (j : Journal) :
    Prop where
  holds : j.pipeline.queue.ring.Holds l
  observers_eq : j.pipeline.queue.observers = observers
  accounted : j.taken ++ j.discarded ++ l.held = j.published.map (·.laidIn observers)
  notes_eq : j.pipeline.notes = told ++ EventQueue.discardNotes j.discarded
  discarded_eq : l.closed = false → j.discarded = []
  held_eq : l.closed = true → l.held = []

namespace Sound

theorem publish (h : j.Sound observers told l) (e : Envelope Event) :
    ∃ l', (j.publish e).1.Sound observers told l' ∧ l'.closed = l.closed := by
  unfold Journal.publish
  obtain ⟨ledger, error, he⟩ | ⟨hopen, ring, he, hring⟩ := Pipeline.publish_cases h.holds e <;>
    rw [he]
  · exact ⟨l, { h with }, rfl⟩
  · refine ⟨_, ⟨hring, h.observers_eq, ?_, h.notes_eq, h.discarded_eq, ?_⟩, rfl⟩
    · rw [h.observers_eq, List.map_append, ← h.accounted]
      exact (List.append_assoc _ _ _).symm
    · intro hclosed
      cases hopen.symm.trans hclosed

theorem letIn (h : j.Sound observers told l) (waiting : List (Envelope Event)) :
    ∃ l', (j.letIn waiting).Sound observers told l' ∧ l'.closed = l.closed := by
  induction waiting generalizing j l with
  | nil => exact ⟨l, { h with }, rfl⟩
  | cons e rest ih =>
    obtain ⟨l', h', hclosed⟩ := h.publish e
    unfold Journal.letIn
    split
    · exact ⟨l, { h with }, rfl⟩
    · rename_i hpublish
      rw [hpublish] at h'
      obtain ⟨l'', h'', hclosed'⟩ := ih h'
      exact ⟨l'', h'', hclosed'.trans hclosed⟩

/-- What is taken is the oldest envelope that is held. -/
theorem take (h : j.Sound observers told l) (queue : EventQueue Event)
    {found : Option (Envelope Event)} (hobservers : queue.observers = observers)
    (hfound : found = l.held.head?) (hring : queue.ring.Holds { l with held := l.held.tail }) :
    ∃ l', (j.take queue found).Sound observers told l' ∧ l'.closed = l.closed := by
  subst hfound
  have haccounted := h.accounted
  cases hheld : l.held with
  | nil =>
    rw [hheld] at hring haccounted
    exact ⟨_, ⟨hring, hobservers, haccounted, h.notes_eq, h.discarded_eq, fun _ => rfl⟩, rfl⟩
  | cons e es =>
    rw [hheld] at hring haccounted
    -- a closed queue holds nothing, so nothing was discarded before what is taken now
    have hopen : l.closed = false := by
      cases hclosed : l.closed with
      | false => rfl
      | true => cases hheld.symm.trans (h.held_eq hclosed)
    have hdiscarded := h.discarded_eq hopen
    have hrest : ({ j with
        pipeline := { j.pipeline with queue }
        taken := j.taken ++ [e] } : Journal).Sound observers told { l with held := es } := by
      refine ⟨hring, hobservers, ?_, h.notes_eq, h.discarded_eq, fun hclosed => ?_⟩
      · rw [hdiscarded, List.append_nil] at haccounted
        change j.taken ++ [e] ++ j.discarded ++ es = _
        rw [hdiscarded, List.append_nil, ← haccounted, List.append_cons j.taken e es]
      · cases hopen.symm.trans hclosed
    exact hrest.letIn j.waiting

/-- An act keeps the journal, and a closed queue closed. -/
theorem perform (h : j.Sound observers told l) (act : QueueAct) :
    ∃ l', (j.perform act).Sound observers told l' ∧ (l.closed = true → l'.closed = true) ∧
      (act = .close → l'.closed = true) := by
  cases act with
  | tryPublish event =>
    obtain ⟨l', h', hclosed⟩ := h.publish { event }
    exact ⟨l', h', hclosed.trans, nofun⟩
  | publish e =>
    obtain ⟨l', h', hclosed⟩ := h.letIn (j.waiting ++ [e])
    exact ⟨l', h', hclosed.trans, nofun⟩
  | giveUp place =>
    refine ⟨l, ?_, id, nofun⟩
    change (j.giveUp place).Sound observers told l
    unfold Journal.giveUp
    cases j.waiting[place]? with
    | none => exact h
    | some e => exact { h with }
  | next =>
    obtain ⟨hfound, hring⟩ := h.holds.next h.held_eq
    obtain ⟨l', h', hclosed⟩ := h.take j.pipeline.queue.next.1 h.observers_eq hfound hring
    exact ⟨l', h', hclosed.trans, nofun⟩
  | tryNext =>
    obtain ⟨hfound, hring⟩ := h.holds.tryNext
    obtain ⟨l', h', hclosed⟩ := h.take j.pipeline.queue.tryNext.1 h.observers_eq hfound hring
    exact ⟨l', h', hclosed.trans, nofun⟩
  | close =>
    -- the discarding comes first; those who wait then find a closed queue
    obtain ⟨hleft, -, hring, hobservers, hnotes⟩ := Pipeline.closeQueue_spec h.holds
    have hdropped : ({ j with
        pipeline := j.pipeline.closeQueue.1
        discarded := j.discarded ++ j.pipeline.queue.close.2 } : Journal).Sound observers told
          { l with held := [], closed := true } := by
      refine ⟨hring, hobservers.trans h.observers_eq, ?_, ?_, nofun, fun _ => rfl⟩
      · rw [hleft, ← List.append_assoc, List.append_nil]
        exact h.accounted
      · rw [hnotes, hleft, h.notes_eq, List.append_assoc, EventQueue.discardNotes,
          EventQueue.discardNotes, EventQueue.discardNotes, List.flatMap_append]
    obtain ⟨l', h', hclosed⟩ := hdropped.letIn j.waiting
    exact ⟨l', h', fun _ => hclosed, fun _ => hclosed⟩

theorem after (h : j.Sound observers told l) (acts : List QueueAct) :
    ∃ l', (j.after acts).Sound observers told l' ∧ (l.closed = true → l'.closed = true) := by
  induction acts generalizing j l with
  | nil => exact ⟨l, h, id⟩
  | cons act acts ih =>
    obtain ⟨l', h', hclosed, -⟩ := h.perform act
    obtain ⟨l'', h'', hclosed'⟩ := ih h'
    exact ⟨l'', h'', hclosed' ∘ hclosed⟩

/-- What the queue would yield is what its list holds. -/
theorem drain_eq (h : j.Sound observers told l) : j.pipeline.queue.drain.2 = l.held :=
  h.holds.drain.1

end Sound

/-- A new queue is on the journal with nothing done to it. -/
theorem sound_ofCapacity {capacity : ℕ} {queue : EventQueue Event}
    (h : EventQueue.ofCapacity capacity observers = .ok queue) (p : Pipeline) :
    ({ pipeline := { p with queue } } : Journal).Sound observers p.notes { capacity } where
  holds := Ring.holds_ofCapacity (EventQueue.ring_ofCapacity h)
  observers_eq := EventQueue.observers_ofCapacity h
  accounted := rfl
  notes_eq := (List.append_nil _).symm
  discarded_eq := fun _ => rfl
  held_eq := fun _ => rfl

/-! ### Who is told -/

theorem discarded_publish (j : Journal) (e : Envelope Event) :
    (j.publish e).1.discarded = j.discarded := by
  unfold publish
  split <;> rfl

theorem discarded_letIn (j : Journal) (waiting : List (Envelope Event)) :
    (j.letIn waiting).discarded = j.discarded := by
  induction waiting generalizing j with
  | nil => rfl
  | cons e rest ih =>
    have hpublish := j.discarded_publish e
    unfold letIn
    split
    · rfl
    · rename_i hj
      rw [hj] at hpublish
      exact (ih _).trans hpublish

theorem discarded_take (j : Journal) (queue : EventQueue Event)
    (found : Option (Envelope Event)) : (j.take queue found).discarded = j.discarded := by
  cases found with
  | none => rfl
  | some e => exact discarded_letIn _ _

/-- Only closing discards anything. -/
theorem discarded_perform (j : Journal) {act : QueueAct} (h : act ≠ .close) :
    (j.perform act).discarded = j.discarded := by
  cases act with
  | tryPublish event => exact j.discarded_publish { event }
  | publish e => exact j.discarded_letIn _
  | giveUp place =>
    change (j.giveUp place).discarded = j.discarded
    unfold giveUp
    cases j.waiting[place]? <;> rfl
  | next => exact j.discarded_take _ _
  | tryNext => exact j.discarded_take _ _
  | close => exact absurd rfl h

/-- **Nothing is lost.** Whatever is done with a queue, one thing after another, from when it was
made: what was taken, what was discarded and what lies in it are, in this order, the envelopes whose
publication succeeded, each with its own observers and then those of the queue. Only closing tells
observers anything: each of a discarded envelope is told once, in order, that an event of its kind
was abandoned, whichever of them panic. Closing discards what lies in the queue and answers how much
it was; and from then on the queue is closed and empty, and closing it again answers zero. -/
theorem conserves {capacity : ℕ} {observers : List Observer} {queue : EventQueue Event}
    (h : EventQueue.ofCapacity capacity observers = .ok queue) (p : Pipeline)
    (acts : List QueueAct) :
    let j := after { pipeline := { p with queue } } acts
    let left := j.pipeline.queue.drain.2
    j.taken ++ j.discarded ++ left = j.published.map (·.laidIn observers) ∧
      j.pipeline.notes = p.notes ++
        j.discarded.flatMap (fun e => e.observers.map fun o => ⟨o, e.kind, .abandoned⟩) ∧
      (∀ act ≠ .close, (j.perform act).pipeline.notes = j.pipeline.notes) ∧
      j.pipeline.closeQueue.2 = left.length ∧
      (j.perform .close).discarded = j.discarded ++ left ∧
      ∀ more, let k := (j.perform .close).after more
        k.taken ++ k.discarded = k.published.map (·.laidIn observers) ∧
          k.pipeline.queue.isClosed = true ∧ k.pipeline.queue.length = 0 ∧
          k.pipeline.closeQueue.2 = 0 := by
  intro j left
  obtain ⟨l, hj, -⟩ := (sound_ofCapacity h p).after acts
  have hleft : left = l.held := hj.drain_eq
  obtain ⟨hclose, hcount, -⟩ := Pipeline.closeQueue_spec hj.holds
  have hnotes : EventQueue.discardNotes j.discarded =
      j.discarded.flatMap fun e => e.observers.map fun o => ⟨o, e.kind, .abandoned⟩ := by
    unfold EventQueue.discardNotes Envelope.notes
    simp only [notify_eq_map]
  refine ⟨hleft ▸ hj.accounted, hnotes ▸ hj.notes_eq, fun act hact => ?_, hleft ▸ hcount, ?_,
    fun more => ?_⟩
  · obtain ⟨l', hact', -⟩ := hj.perform act
    rw [hact'.notes_eq, j.discarded_perform hact, ← hj.notes_eq]
  · rw [hleft, ← hclose]
    exact discarded_letIn _ _
  · obtain ⟨l', hdropped, -, hclosed⟩ := hj.perform .close
    obtain ⟨l'', hk, hclosed'⟩ := hdropped.after more
    have hempty := hk.held_eq (hclosed' (hclosed rfl))
    obtain ⟨-, hcount', -⟩ := Pipeline.closeQueue_spec hk.holds
    refine ⟨?_, hk.holds.closed_eq.trans (hclosed' (hclosed rfl)), ?_, ?_⟩
    · rw [← hk.accounted, hempty, List.append_nil]
    · exact hk.holds.length_eq.trans (congrArg List.length hempty)
    · exact hcount'.trans (congrArg List.length hempty)

/-- A queue of one slot with one default observer. -/
def sampleQueue : EventQueue Event where
  ring := { slots := #[{ envelope := .empty }], free := 1 }
  observers := [{ tag := "d" }]

def samplePipeline : Pipeline where
  gate := { source := .inline [], canaries := [], timeToLive := 1 }
  roster := .empty 0 0
  memo := .ofCapacity 1
  queue := sampleQueue

/-- An envelope is published, an event finds no room, and an envelope waits, one of whose observers
panics; when the first one is taken the second one is published. -/
def sampleActs : List QueueAct :=
  [.publish { event := .noop, observers := [{ tag := "a" }] },
    .tryPublish .noop,
    .publish
      { event := .middleware 0, observers := [{ tag := "b", panics := true }, { tag := "c" }] },
    .next]

/-- Closing the queue then discards the second envelope, and tells all of its observers. -/
theorem conserves_sample :
    EventQueue.ofCapacity 1 [{ tag := "d" }] = .ok sampleQueue ∧
      let j := after { pipeline := samplePipeline } sampleActs
      j.published.length = 2 ∧ j.waiting = [] ∧ j.taken.length = 1 ∧
        j.pipeline.closeQueue.2 = j.pipeline.queue.drain.2.length ∧
        (j.perform .close).taken ++ (j.perform .close).discarded =
          j.published.map (·.laidIn [{ tag := "d" }]) ∧
        (j.perform .close).pipeline.notes.map (fun n => (n.observer.tag, n.kind, n.outcome)) =
          [("b", .middleware, .abandoned), ("c", .middleware, .abandoned),
            ("d", .middleware, .abandoned)] := by
  have hqueue : EventQueue.ofCapacity 1 [{ tag := "d" }] = .ok sampleQueue := rfl
  obtain ⟨-, -, -, hcount, -, hclosed⟩ := conserves hqueue samplePipeline sampleActs
  exact ⟨hqueue, by decide, by decide, by decide, hcount, (hclosed []).1, by decide⟩

end Journal

end Switchboard
