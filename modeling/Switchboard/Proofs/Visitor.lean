import Switchboard.Access.Thread
import Switchboard.Proofs.Interleaving
import Switchboard.Proofs.Vetting

/-!
# A visitor on its own

A thread that asks a gate takes many moves: it fetches the kept list, waits for the lock, sees
whether somebody else has loaded, loads in four moves, and asks the list. If nobody else moves
meanwhile, all this comes to one call of `Gate.allow`.

Main statement: `Gatehouse.reaches_allow`. A visitor that starts while nobody has the lock, and that
nobody interrupts, ends with the decision of the gate and leaves the gate as that leaves it.
-/

namespace Switchboard

namespace Gatehouse

variable {h h' : Gatehouse} {v : Visit} {s s' : Visitor} {before after : List Thread}

/-- What a visitor comes to while nobody else moves. -/
def Comes (before after : List Thread) (v : Visit) (h : Gatehouse) (s : Visitor) (h' : Gatehouse)
    (s' : Visitor) : Prop :=
  Crowd.Reaches move ⟨h, before ++ .visitor v s :: after⟩ ⟨h', before ++ .visitor v s' :: after⟩

theorem Comes.trans {h'' : Gatehouse} {s'' : Visitor} (first : Comes before after v h s h' s')
    (rest : Comes before after v h' s' h'' s'') : Comes before after v h s h'' s'' :=
  Crowd.Reaches.trans first rest

theorem comes_of_ask (hask : h.ask v s = some (h', s')) : Comes before after v h s h' s' := by
  have hm : move 0 h (.visitor v s) = some ⟨h', some (.visitor v s'), []⟩ := by
    change (h.ask v s).bind _ = _
    rw [hask]
    rfl
  simpa [Comes] using Crowd.Reaches.refl.tail (.of before after hm)

/-- The gatehouse after a load. -/
def reloaded (h : Gatehouse) (gate : Gate) : Gatehouse :=
  { gate, now := h.now, readings := h.readings + 1, keptReading := h.readings }

/-- A visitor after a load. -/
def Visitor.onLoaded (again : Bool) (r : ℕ) : Except AccessError AllowList → Visitor
  | .ok list => .checking again list r
  | .error _ => .decided false none

/-- A load that nobody interrupts is a load of the gate. -/
theorem comes_load (again : Bool) {gate : Gate} {result : Except AccessError AllowList}
    (hload : h.gate.load h.now = (gate, result)) :
    Comes before after v h (.loading again .counting) (h.reloaded gate)
      (.onLoaded again h.readings result) := by
  obtain ⟨rfl, rfl⟩ := Prod.mk.inj hload
  have count : Comes before after v h (.loading again .counting)
    { h with gate := h.gate.countLoad } (.loading again .reading) := comes_of_ask rfl
  have read : Comes before after v { h with gate := h.gate.countLoad } (.loading again .reading)
    { h with gate := h.gate.countLoad, readings := h.readings + 1 }
    (.loading again (.vetting h.gate.source.contents h.readings)) := comes_of_ask rfl
  have vet : Comes before after v { h with gate := h.gate.countLoad, readings := h.readings + 1 }
    (.loading again (.vetting h.gate.source.contents h.readings))
    { h with gate := h.gate.countLoad, readings := h.readings + 1 }
    (.loading again (.keeping (h.gate.attempt h.now) h.readings)) := comes_of_ask rfl
  have keep : Comes before after v { h with gate := h.gate.countLoad, readings := h.readings + 1 }
    (.loading again (.keeping (h.gate.attempt h.now) h.readings)) (h.reloaded (h.gate.load h.now).1)
    (.loading again (.loaded (h.gate.attempt h.now) h.readings)) := comes_of_ask rfl
  refine count.trans (read.trans (vet.trans (keep.trans (comes_of_ask ?_))))
  change _ = some (h.reloaded _, Visitor.onLoaded again h.readings (h.gate.attempt h.now))
  cases h.gate.attempt h.now <;> rfl

/-- What a gate decides by a list that it has fetched, or by the next one if that has expired: the
end of `Gate.allow`. -/
def judge (g : Gate) (now : ℕ) (list : AllowList) (v : Visit) : Gate × Bool :=
  match g.check list v.source v.reverse v.caseSensitive with
  | (g, true) => (g, true)
  | (g, false) =>
    if list.expired now then
      match g.load now with
      | (g, .error _) => (g, false)
      | (g, .ok list) => g.check list v.source v.reverse v.caseSensitive
    else (g, false)

theorem comes_judge {list : AllowList} {r : ℕ} (free : h.locked = false) :
    ∃ h' reading, Comes before after v h (.checking false list r) h'
        (.decided (judge h.gate h.now list v).2 reading) ∧
      h'.gate = (judge h.gate h.now list v).1 ∧ h'.locked = false := by
  unfold judge
  cases hcheck : h.gate.check list v.source v.reverse v.caseSensitive with
  | mk gate answer =>
    cases answer with
    | true =>
      exact ⟨{ h with gate }, some r, comes_of_ask (by simp only [ask, hcheck]), rfl, free⟩
    | false =>
      have refuse : Comes before after v h (.checking false list r) { h with gate }
        (.refused list r) := comes_of_ask (by simp [ask, hcheck])
      dsimp only
      cases hexpired : list.expired h.now with
      | false =>
        exact ⟨{ h with gate }, some r, refuse.trans (comes_of_ask (by simp [ask, hexpired])), rfl,
          free⟩
      | true =>
        have queue : Comes before after v { h with gate } (.refused list r) { h with gate }
          (.queueing true) := comes_of_ask (by simp [ask, hexpired])
        have lock : Comes before after v { h with gate } (.queueing true)
          { h with gate, locked := true } (.loading true .counting) :=
          comes_of_ask (by simp [ask, free])
        rw [if_pos rfl]
        cases hload : gate.load h.now with
        | mk loaded result =>
          have load := refuse.trans (queue.trans (lock.trans (comes_load true hload)))
          cases result with
          | error e => exact ⟨_, none, load, rfl, rfl⟩
          | ok next =>
            dsimp only
            cases hnext : loaded.check next v.source v.reverse v.caseSensitive with
            | mk gate answer =>
              refine ⟨h.reloaded gate, some h.readings, load.trans (comes_of_ask ?_), rfl, rfl⟩
              cases answer <;> simp [ask, Visitor.onLoaded, reloaded, hnext]

/-- Someone who asks while nobody has the lock, and whom nobody interrupts, is decided on as the
gate decides, all at one time. -/
theorem reaches_allow (v : Visit) (before after : List Thread) (free : h.locked = false) :
    let t : Moments := { fetch := h.now, load := h.now, recheck := h.now, reload := h.now }
    let decision := h.gate.allow t v.source v.reverse v.caseSensitive
    ∃ h' reading, Crowd.Reaches move ⟨h, before ++ .visitor v .fetching :: after⟩
        ⟨h', before ++ .visitor v (.decided decision.2 reading) :: after⟩ ∧
      h'.gate = decision.1 ∧ h'.locked = false := by
  intro t decision
  change ∃ h' reading, Comes before after v h .fetching h' (.decided decision.2 reading) ∧ _
  have hdecision : decision = if v.source.isEmpty then (h.gate, false)
      else match h.gate.currentOrLoad h.now h.now with
        | (g, .error _) => (g, false)
        | (g, .ok list) => judge g h.now list v := rfl
  rw [hdecision]
  cases hname : v.source.isEmpty with
  | true => exact ⟨h, none, comes_of_ask (by simp [ask, hname]), rfl, free⟩
  | false =>
    unfold Gate.currentOrLoad
    cases hf : h.gate.fresh? h.now with
    | some list =>
      have fetch : Comes before after v h .fetching h (.checking false list h.keptReading) :=
        comes_of_ask (by simp [ask, hname, fresh?, hf])
      obtain ⟨h', reading, comes, hdecided⟩ := comes_judge free
      exact ⟨h', reading, fetch.trans comes, hdecided⟩
    | none =>
      have queue : Comes before after v h .fetching h (.queueing false) :=
        comes_of_ask (by simp [ask, hname, fresh?, hf])
      have lock : Comes before after v h (.queueing false) { h with locked := true } .confirming :=
        comes_of_ask (by simp [ask, free])
      have confirm : Comes before after v { h with locked := true } .confirming
        { h with locked := true } (.loading false .counting) :=
        comes_of_ask (by simp [ask, fresh?, hf])
      cases hload : h.gate.load h.now with
      | mk loaded result =>
        have load := queue.trans (lock.trans (confirm.trans (comes_load false hload)))
        cases result with
        | error e => exact ⟨_, none, load, rfl, rfl⟩
        | ok list =>
          obtain ⟨h', reading, comes, hdecided⟩ := comes_judge (h := h.reloaded loaded) rfl
          exact ⟨h', reading, load.trans comes, hdecided⟩

end Gatehouse

end Switchboard
