import Mathlib.Tactic
import Switchboard.Pipeline.Ledger

/-!
# One line of the ledger

What the operations of the ledger do to the line of one connection. An event that is let go of
touches the reply of the connection whose reply it owns, which is closed, and the hand-over of the
connection it belongs to; all other lines stay what they are.
-/

namespace Switchboard

/-! ### Results of conversions -/

/-- The connection whose reply comes with a result. -/
def Conversion.reply? : Conversion → Option ℕ
  | .ok x => some x.connection
  | .error e => e.reply

namespace Job

/-- What a job yields. -/
def result (job : Job) : Conversion :=
  match job.ending with
  | .request request => .ok { request, connection := job.connection }
  | .malformed reason true => .error { reason, reply := some job.connection }
  | .malformed reason false => .error { reason }
  | .panicked p => .error { reason := "conversion panicked: " ++ p.message }

/-- Whether a job that is run binds the reply of its connection. -/
def Binds (job : Job) : Prop := job.binding ≠ .late ∨ job.result.reply? = some job.connection

/-- Whether a job binds the reply and ends without handing it on. -/
def Spoils (job : Job) : Prop := job.binding ≠ .late ∧ job.result.reply? = none

instance (job : Job) : Decidable job.Binds := inferInstanceAs (Decidable (_ ∨ _))

instance (job : Job) : Decidable job.Spoils := inferInstanceAs (Decidable (_ ∧ _))

/-- The reply that comes with the result of a job is that of its own connection. -/
theorem reply?_result (job : Job) :
    job.result.reply? = none ∨ job.result.reply? = some job.connection := by
  unfold result
  split
  · exact Or.inr rfl
  · exact Or.inr rfl
  · exact Or.inl rfl
  · exact Or.inl rfl

end Job

namespace Ledger

variable (l : Ledger) (k : ℕ)

theorem runJob_eq (job : Job) :
    l.runJob job = (if job.Spoils then l.dropReply (some job.connection) else l, job.result) := by
  obtain ⟨c, ending, binding, latch⟩ := job
  cases ending with
  | request r => simp [runJob, Job.Spoils, Job.result, Conversion.reply?]
  | panicked payload =>
    by_cases hb : binding = .late <;> simp [runJob, Job.Spoils, Job.result, Conversion.reply?, hb]
  | malformed reason binds =>
    cases binds with
    | true => simp [runJob, Job.Spoils, Job.result, Conversion.reply?]
    | false =>
      by_cases hb : binding = .late <;>
        simp [runJob, Job.Spoils, Job.result, Conversion.reply?, hb]

theorem dropConversion_eq (c : Conversion) : l.dropConversion c = l.dropReply c.reply? := by
  cases c <;> rfl

/-! ### Lines -/

@[simp] theorem length_change (c : ℕ) (f : Line → Line) : (l.change c f).length = l.length :=
  List.length_modify _ _ _

theorem line_of_le (h : l.length ≤ k) : l.line k = {} := by
  rw [line, List.getElem?_eq_none h]
  rfl

/-- A change is seen in its own line and nowhere else. -/
theorem line_change (c : ℕ) (f : Line → Line) :
    (l.change c f).line k = if c = k ∧ k < l.length then f (l.line k) else l.line k := by
  unfold line change
  rw [List.getElem?_modify]
  by_cases hk : k < l.length
  · by_cases hc : c = k <;> simp [hk, hc]
  · rw [List.getElem?_eq_none (not_lt.mp hk), if_neg fun h => hk h.2]
    rfl

theorem line_change_self (h : k < l.length) (f : Line → Line) :
    (l.change k f).line k = f (l.line k) := by
  rw [line_change, if_pos ⟨rfl, h⟩]

theorem line_change_of_ne {c : ℕ} (h : c ≠ k) (f : Line → Line) :
    (l.change c f).line k = l.line k := by
  rw [line_change, if_neg fun hc => h hc.1]

theorem line_dropReply (r : Option ℕ) :
    (l.dropReply r).line k = if r = some k ∧ k < l.length then (l.line k).close else l.line k := by
  cases r with
  | none => simp [dropReply]
  | some c => simp [dropReply, line_change]

theorem line_runJob (job : Job) : (l.runJob job).1.line k =
    if job.Spoils ∧ job.connection = k ∧ k < l.length then (l.line k).close else l.line k := by
  rw [runJob_eq]
  by_cases hs : job.Spoils
  · simp [hs, line_dropReply]
  · simp [hs]

/-- A new connection has a line of its own. -/
theorem line_enter (line : Line) :
    (l.enter line).1.line k = if k = l.length then line else l.line k := by
  unfold Ledger.line enter
  rcases lt_trichotomy k l.length with h | rfl | h
  · rw [if_neg h.ne, List.getElem?_append_left h]
  · simp
  · rw [if_neg h.ne', List.getElem?_eq_none h.le, List.getElem?_eq_none (by simpa using h)]

/-! ### Hand-overs and replies -/

theorem handOver_runJob (job : Job) :
    ((l.runJob job).1.line k).handOver = (l.line k).handOver := by
  rw [line_runJob]
  split <;> rfl

/-- What was handed over to a waiter comes with the reply of its own connection or with none. -/
def Handed (l : Ledger) : Prop :=
  ∀ k c, (l.line k).handOver = .ready c → c.reply? = none ∨ c.reply? = some k

/-- The connection whose reply goes with an event; that of a waiter is the one that was handed
over. -/
def reply? (l : Ledger) : Event → Option ℕ
  | .noop => none
  | .conversion job => if job.binding = .early then some job.connection else none
  | .middleware c =>
    match (l.line c).handOver with
    | .ready result => result.reply?
    | _ => none
  | .dispatch x | .handler x _ => some x.connection

theorem release_conversion (job : Job) : l.release (.conversion job) =
    (l.dropReply (l.reply? (.conversion job))).change job.connection Line.forsake := by
  by_cases hb : job.binding = .early <;> simp [release, dropJob, reply?, dropReply, hb]

theorem release_middleware (c : ℕ) : l.release (.middleware c) =
    (l.dropReply (l.reply? (.middleware c))).change c Line.leave := by
  cases hh : (l.line c).handOver with
  | ready result => simp only [release, dropWaiter, reply?, hh, dropConversion_eq]
  | awaited | noSender | noReceiver => simp only [release, dropWaiter, reply?, hh, dropReply]

theorem reply_forsake (line : Line) : line.forsake.reply = line.reply := by
  unfold Line.forsake
  split <;> rfl

theorem output_forsake (line : Line) : line.forsake.output = line.output := by
  unfold Line.forsake
  split <;> rfl

/-- One line of a ledger gives way to another, and the others stay. -/
structure Becomes (l : Ledger) (k : ℕ) (line : Line) (l' : Ledger) : Prop where
  length_eq : l'.length = l.length
  line_self : l'.line k = line
  line_of_ne : ∀ j, j ≠ k → l'.line j = l.line j

variable {l k}

theorem becomes_self : l.Becomes k (l.line k) l := ⟨rfl, rfl, fun _ _ => rfl⟩

variable {line : Line} {l' : Ledger}

/-- A line that has become another is changed further. -/
theorem Becomes.change (h : l.Becomes k line l') (hk : k < l.length) (f : Line → Line) :
    l.Becomes k (f line) (l'.change k f) where
  length_eq := (l'.length_change k f).trans h.length_eq
  line_self := by rw [line_change_self l' k (h.length_eq.symm ▸ hk), h.line_self]
  line_of_ne j hj := (l'.line_change_of_ne j (Ne.symm hj) f).trans (h.line_of_ne j hj)

theorem Becomes.dropReply (h : l.Becomes k line l') (hk : k < l.length) {r : Option ℕ}
    (hr : r = none ∨ r = some k) :
    l.Becomes k (if r = none then line else line.close) (l'.dropReply r) := by
  rcases hr with rfl | rfl
  · rw [if_pos rfl]
    exact h
  · rw [if_neg (by simp)]
    exact h.change hk Line.close

theorem Becomes.runJob (h : l.Becomes k line l') (hk : k < l.length) {job : Job}
    (hj : job.connection = k) :
    l.Becomes k (if job.Spoils then line.close else line) (l'.runJob job).1 := by
  subst hj
  rw [runJob_eq]
  by_cases hs : job.Spoils
  · simp only [if_pos hs]
    exact h.change hk Line.close
  · simp only [if_neg hs]
    exact h

theorem Handed.of_becomes (hh : l.Handed) (h : l.Becomes k line l')
    (hline : ∀ c, line.handOver = .ready c → (l.line k).handOver = .ready c ∨
      c.reply? = none ∨ c.reply? = some k) : l'.Handed := by
  intro j c hc
  by_cases hj : j = k
  · subst hj
    rw [h.line_self] at hc
    exact (hline c hc).elim (hh j c) id
  · rw [h.line_of_ne j hj] at hc
    exact hh j c hc

end Ledger

end Switchboard
