import Switchboard.Proofs.Visitor

/-!
# What a visit costs

What is dear about asking a gate are the attempts to load a list and the questions for host names.
`Gatehouse.Effort` is what is done for one visitor; it can be read off the moves that the visitor
makes (`Gatehouse.effort`), whatever happens to the gate, its source and the time between them, as
well as off a single call of `Gate.allow` (`Effort.Covers`). A host name costs nothing further: it
is checked as a source is whose own host names nobody asks for (`Gate.check_hosts`).

* `Effort.Sparing` says that no more is done than has to be: a list is loaded only for want of one
  that has not expired, and host names are asked for only if the source itself is not admitted.
* `Gatehouse.Doing` is how much is done at each stage of a visit.

Main statement: `Gatehouse.visits_sparingly`.
-/

namespace Switchboard

/-! ### Asking a list -/

/-- A list that is asked, and the host names that the source has then. -/
structure Consultation where
  list : AllowList
  hosts : List String

namespace Consultation

/-- Whether the list admits the source, itself or by one of its host names. -/
def admits (c : Consultation) (v : Visit) : Bool :=
  c.list.admits v.source v.caseSensitive ||
    (v.reverse && c.hosts.any fun host => c.list.admits host v.caseSensitive)

/-- Whose host names are asked for: those of the source, if the list does not admit it by itself. -/
def asks (c : Consultation) (v : Visit) : List String :=
  if v.reverse && !c.list.admits v.source v.caseSensitive then [v.source] else []

end Consultation

namespace Gate

variable {g : Gate} {v : Visit} {list : AllowList}

/-- A list is asked of a gate. -/
def consultation (g : Gate) (list : AllowList) (v : Visit) : Consultation := ⟨list, g.hosts v.source⟩

theorem check_eq (g : Gate) (list : AllowList) (v : Visit) :
    g.check list v.source v.reverse v.caseSensitive =
      ({ g with asked := g.asked ++ (g.consultation list v).asks v },
        (g.consultation list v).admits v) := by
  unfold check consultation Consultation.asks Consultation.admits
  cases list.admits v.source v.caseSensitive <;> cases v.reverse <;> simp

/-- A host name is checked as a source is whose own host names nobody wants to know; that asks for
nothing further. -/
theorem check_hosts (g : Gate) (list : AllowList) (source : String) (caseSensitive : Bool) :
    (g.check list source true caseSensitive).2 =
        (list.admits source caseSensitive ||
          (g.hosts source).any fun host => (g.check list host false caseSensitive).2) ∧
      ∀ host, (g.check list host false caseSensitive).1 = g := by
  have hhost : ∀ host, g.check list host false caseSensitive =
      (g, list.admits host caseSensitive) := by
    intro host
    unfold check
    cases list.admits host caseSensitive <;> rfl
  simp only [hhost, implies_true, and_true]
  unfold check
  cases list.admits source caseSensitive <;> rfl

end Gate

namespace Gatehouse

variable {v : Visit} {c : Consultation} {list : AllowList} {answer : Bool} {now : ℕ}

/-! ### The effort -/

/-- What is done for one visitor. -/
structure Effort where
  /-- The kept list that had not expired, if one was found. -/
  found : Option AllowList := none
  /-- What came of attempts to load a list, before one was asked and after. -/
  early : List (Except AccessError AllowList) := []
  late : List (Except AccessError AllowList) := []
  /-- The lists that were asked, in order. -/
  consulted : List Consultation := []
  /-- When the list that was asked first was looked at once more. -/
  rechecked : Option ℕ := none
  /-- How many attempts to load a list were counted. -/
  loads : ℕ := 0
  /-- The sources whose host names were asked for. -/
  asked : List String := []

namespace Effort

variable {w : Effort}

/-- No more was done than had to be, and this is the answer. -/
structure Sparing (w : Effort) (v : Visit) (answer : Bool) : Prop where
  loads : w.loads = w.early.length + w.late.length
  loads_le : w.loads ≤ 2
  /-- Nothing is loaded as long as a list that was found has not expired. -/
  spared : ∀ list, w.found = some list →
    (∀ now, w.rechecked = some now → list.expired now = false) → w.loads = 0
  early_le : w.early.length ≤ 1
  late_le : w.late.length ≤ 1
  /-- A list is loaded before one is asked if and only if none was found. -/
  early_iff : w.early.length = 1 ↔ w.found = none
  /-- The first list is looked at once more if and only if it does not admit the source. -/
  rechecked_iff : w.rechecked.isSome ↔ ∃ c, w.consulted.head? = some c ∧ c.admits v = false
  /-- A list is loaded after one was asked if and only if that does not admit the source, neither
  itself nor by a host name, and has expired by then. -/
  late_iff : w.late.length = 1 ↔ ∃ c now, w.consulted.head? = some c ∧ c.admits v = false ∧
    w.rechecked = some now ∧ c.list.expired now = true
  /-- All lists that were found or loaded are asked, and no others. -/
  consulted : w.consulted.map Consultation.list =
    w.found.toList ++ (w.early ++ w.late).filterMap Except.toOption
  /-- An attempt that failed is the last one. -/
  failed : ∀ e, .error e ∈ w.early ++ w.late →
    (w.early ++ w.late).getLast? = some (.error e) ∧ answer = false
  /-- Host names are asked for once for every list that does not admit the source by itself, if they
  are wanted. -/
  asked : w.asked = w.consulted.flatMap fun c => c.asks v
  answer : answer = w.consulted.any fun c => c.admits v

/-! ### Where effort leads -/

/-- The effort of having a list: it was kept, or it was loaded. -/
def having (kept : Bool) (list : AllowList) : Effort :=
  if kept then { found := some list } else { early := [.ok list], loads := 1 }

/-- A list is asked. -/
def consult (w : Effort) (v : Visit) (c : Consultation) : Effort :=
  { w with consulted := w.consulted ++ [c], asked := w.asked ++ c.asks v }

/-- The list is looked at once more. -/
def recheck (w : Effort) (now : ℕ) : Effort := { w with rechecked := some now }

/-- A list is loaded in the place of an expired one, or that is tried. -/
def retry (w : Effort) (n : ℕ) (outcome : List (Except AccessError AllowList)) : Effort :=
  { w with loads := w.loads + n, late := outcome }

/-- The effort up to where the first list did not admit the source. -/
def Refused (w : Effort) (v : Visit) (c : Consultation) : Prop :=
  c.admits v = false ∧ ∃ kept, w = (having kept c.list).consult v c

/-- The effort up to where that list has turned out to be expired. -/
def Outdated (w : Effort) (v : Visit) : Prop :=
  ∃ w₀ c now, Refused w₀ v c ∧ c.list.expired now = true ∧ w = w₀.recheck now

theorem sparing_of_failed (v : Visit) (e : AccessError) :
    Sparing { early := [.error e], loads := 1 } v false := by
  constructor <;> simp [Except.toOption]

theorem sparing_of_admits (kept : Bool) (h : c.admits v = true) :
    Sparing ((having kept c.list).consult v c) v true := by
  cases kept <;> constructor <;> simp [having, consult, Except.toOption, h]

theorem Refused.sparing (hw : w.Refused v c) (hlives : c.list.expired now = false) :
    (w.recheck now).Sparing v false := by
  obtain ⟨hadmits, kept, rfl⟩ := hw
  cases kept <;> constructor <;> simp [having, consult, recheck, Except.toOption, hadmits, hlives]

theorem Refused.outdated (hw : w.Refused v c) (hexpired : c.list.expired now = true) :
    (w.recheck now).Outdated v :=
  ⟨w, c, now, hw, hexpired, rfl⟩

/-- Nothing was loaded in its place yet. -/
theorem Outdated.retry_zero (hw : w.Outdated v) : w.retry 0 [] = w := by
  obtain ⟨w₀, c, now, ⟨-, kept, rfl⟩, -, rfl⟩ := hw
  cases kept <;> rfl

theorem Outdated.sparing_of_failed (hw : w.Outdated v) (e : AccessError) :
    Sparing (w.retry 1 [.error e]) v false := by
  obtain ⟨w₀, c, now, ⟨hadmits, kept, rfl⟩, hexpired, rfl⟩ := hw
  cases kept <;> constructor <;>
    simp [having, consult, recheck, retry, Except.toOption, hadmits, hexpired]

theorem Outdated.sparing (hw : w.Outdated v) (c : Consultation) :
    Sparing ((w.retry 1 [.ok c.list]).consult v c) v (c.admits v) := by
  obtain ⟨w₀, c₀, now, ⟨hadmits, kept, rfl⟩, hexpired, rfl⟩ := hw
  cases kept <;> constructor <;>
    simp [having, consult, recheck, retry, Except.toOption, hadmits, hexpired]

/-! ### One call -/

variable {g g' : Gate} {t : Moments}

/-- What a call does to the gate is this effort: the attempts come to what they come to at their
times, and the lists are asked with the host names that the gate looks up. -/
structure Covers (w : Effort) (g : Gate) (t : Moments) (v : Visit) (g' : Gate) : Prop where
  found : w.found = g.fresh? t.fetch
  early : ∀ result ∈ w.early, result = g.attempt t.load
  late : ∀ result ∈ w.late, result = g.attempt t.reload
  rechecked : ∀ now, w.rechecked = some now → now = t.recheck
  consulted : ∀ c ∈ w.consulted, c = g.consultation c.list v
  loads : g'.loads = g.loads + w.loads
  asked : g'.asked = g.asked ++ w.asked
  tried : Gate.Tried g (w.early ++ w.late) g'

theorem Covers.consult (hw : w.Covers g t v g') (list : AllowList) :
    (w.consult v (g'.consultation list v)).Covers g t v
      (g'.check list v.source v.reverse v.caseSensitive).1 := by
  have htried := hw.tried.trans (Gate.tried_check g' list v.source v.reverse v.caseSensitive)
  rw [List.append_nil, Gate.check_eq] at htried
  rw [Gate.check_eq]
  refine ⟨hw.found, hw.early, hw.late, hw.rechecked, fun c hc => ?_, hw.loads, ?_, htried⟩
  · rcases List.mem_append.mp hc with hc | hc
    · exact hw.consulted c hc
    · rw [List.mem_singleton.mp hc, Gate.consultation, hw.tried.hosts_eq]
      rfl
  · change g'.asked ++ _ = g.asked ++ (w.asked ++ _)
    rw [hw.asked, List.append_assoc]

theorem Covers.recheck (hw : w.Covers g t v g') :
    (w.recheck t.recheck).Covers g t v g' :=
  ⟨hw.found, hw.early, hw.late, fun _ h => (Option.some.inj h).symm, hw.consulted, hw.loads,
    hw.asked, hw.tried⟩

theorem Covers.retry (hw : w.Covers g t v g') (hlate : w.late = []) :
    (w.retry 1 [g.attempt t.reload]).Covers g t v (g'.load t.reload).1 := by
  have htried := hw.tried.trans (Gate.tried_load g' t.reload)
  rw [hlate, List.append_nil, hw.tried.attempt_eq] at htried
  refine ⟨hw.found, hw.early, fun _ h => List.mem_singleton.mp h, hw.rechecked, hw.consulted, ?_,
    hw.asked, htried⟩
  change g'.loads + 1 = g.loads + (w.loads + 1)
  rw [hw.loads, add_assoc]

/-- Once there is a list. -/
theorem exists_covers_ask (kept : Bool) (hw : (having kept list).Covers g t v g') :
    ∃ w : Effort, w.Covers g t v (g'.ask t v.source v.reverse v.caseSensitive list).1 ∧
      w.Sparing v (g'.ask t v.source v.reverse v.caseSensitive list).2 := by
  have hasked := hw.consult list
  have hanswer := Gate.check_eq g' list v
  unfold Gate.ask
  revert hasked hanswer
  generalize hc : g'.consultation list v = c
  have hlist : list = c.list := by rw [← hc]; rfl
  subst hlist
  rcases g'.check c.list v.source v.reverse v.caseSensitive with ⟨g₁, answer⟩
  intro hasked hanswer
  obtain ⟨-, rfl⟩ := Prod.mk.inj hanswer
  cases hadmits : c.admits v with
  | true => exact ⟨_, hasked, sparing_of_admits kept hadmits⟩
  | false =>
    have hrefused : Refused ((having kept c.list).consult v c) v c := ⟨hadmits, kept, rfl⟩
    dsimp only
    cases hexpired : c.list.expired t.recheck with
    | false => exact ⟨_, hasked.recheck, hrefused.sparing hexpired⟩
    | true =>
      have houtdated := hrefused.outdated hexpired
      have hretried := hasked.recheck.retry (by cases kept <;> rfl)
      have hload : g₁.load t.reload = ((g₁.load t.reload).1, g.attempt t.reload) :=
        Prod.ext rfl (hasked.tried.attempt_eq t.reload)
      rw [if_pos rfl, hload]
      generalize (g₁.load t.reload).1 = g₂ at hretried
      cases hattempt : g.attempt t.reload with
      | error e =>
        rw [hattempt] at hretried
        exact ⟨_, hretried, houtdated.sparing_of_failed e⟩
      | ok list =>
        rw [hattempt] at hretried
        refine ⟨_, hretried.consult list, ?_⟩
        change Sparing _ v (g₂.check list v.source v.reverse v.caseSensitive).2
        rw [Gate.check_eq]
        exact houtdated.sparing (g₂.consultation list v)

theorem exists_covers (named : v.source ≠ "") :
    ∃ w : Effort, w.Covers g t v (g.allow t v.source v.reverse v.caseSensitive).1 ∧
      w.Sparing v (g.allow t v.source v.reverse v.caseSensitive).2 := by
  rw [Gate.allow_eq, if_neg (by simpa using named)]
  cases hfresh : g.fresh? t.fetch with
  | some list =>
    exact exists_covers_ask true ⟨hfresh.symm, by simp [having], by simp [having],
      by simp [having], by simp [having], rfl, (List.append_nil _).symm, by constructor <;> rfl⟩
  | none =>
    have htried := Gate.tried_load g t.load
    cases hattempt : g.attempt t.load with
    | error e =>
      exact ⟨_, ⟨hfresh.symm, by simp [hattempt], by simp, by simp, by simp, rfl,
        (List.append_nil _).symm, by simpa [hattempt] using htried⟩, sparing_of_failed v e⟩
    | ok list =>
      exact exists_covers_ask false ⟨hfresh.symm, by simp [having, hattempt],
        by simp [having], by simp [having], by simp [having], rfl, (List.append_nil _).symm,
        by simpa [having, hattempt] using htried⟩

end Effort

/-! ### Many moves -/

variable {h h' : Gatehouse} {w : Effort} {s s' : Visitor}

/-- What can be seen of a thread that moves: the list that it finds, the attempt that it makes, the
list that it asks, or the time at which it looks at one once more. -/
def Effort.see (w : Effort) (g : Gate) (now : ℕ) : Thread → Effort
  | .visitor v .fetching => if v.source.isEmpty then w else { w with found := g.fresh? now }
  | .visitor _ .confirming => { w with found := g.fresh? now }
  | .visitor _ (.loading false (.keeping result _)) => { w with early := w.early ++ [result] }
  | .visitor _ (.loading true (.keeping result _)) => { w with late := w.late ++ [result] }
  | .visitor v (.checking _ list _) => { w with consulted := w.consulted ++ [g.consultation list v] }
  | .visitor _ (.refused _ _) => w.recheck now
  | _ => w

/-- What is done to the books of the gate. -/
def Effort.charge (w : Effort) (before after : Gate) : Effort :=
  { w with
    loads := w.loads + (after.loads - before.loads)
    asked := w.asked ++ after.asked.drop before.asked.length }

/-- One more move. -/
def Effort.add (w : Effort) (u : Turn ℕ Gatehouse Thread) : Effort :=
  (w.see u.before.gate (u.before.now + u.chance) u.thread).charge u.before.gate u.after.gate

/-- What was done in these moves. -/
def effort (turns : List (Turn ℕ Gatehouse Thread)) : Effort := turns.foldl Effort.add {}

theorem effort_snoc (turns : List (Turn ℕ Gatehouse Thread)) (u : Turn ℕ Gatehouse Thread) :
    effort (turns ++ [u]) = (effort turns).add u := List.foldl_append

theorem Effort.charge_of {g g' : Gate} {n : ℕ} {sources : List String}
    (hloads : g'.loads = g.loads + n) (hasked : g'.asked = g.asked ++ sources) :
    w.charge g g' = { w with loads := w.loads + n, asked := w.asked ++ sources } := by
  rw [charge, hloads, hasked, Nat.add_sub_cancel_left, List.drop_left]

theorem Effort.charge_of_asked_eq {g g' : Gate} {n : ℕ} (hloads : g'.loads = g.loads + n)
    (hasked : g'.asked = g.asked) : w.charge g g' = { w with loads := w.loads + n } := by
  rw [charge_of hloads (hasked.trans (List.append_nil _).symm), List.append_nil]

/-- Nothing was done to the books. -/
theorem Effort.charge_self (w : Effort) (g : Gate) : w.charge g g = w :=
  charge_of_asked_eq (n := 0) rfl rfl

/-! ### Loading -/

/-- How many attempts a load has counted so far. -/
def Loader.counted : Loader → ℕ
  | .counting => 0
  | _ => 1

/-- What a load has come to so far. -/
def Loader.outcome : Loader → List (Except AccessError AllowList)
  | .loaded result _ => [result]
  | _ => []

/-- What can be seen of a load. -/
def Loader.yields : Loader → List (Except AccessError AllowList)
  | .keeping result _ => [result]
  | _ => []

/-- A load is charged once. -/
theorem charged_of_load {l l' : Loader} (hload : h.load l = some (h', l')) :
    ∃ n, h'.gate.loads = h.gate.loads + n ∧ l'.counted = l.counted + n ∧
      h'.gate.asked = h.gate.asked ∧ l'.outcome = l.outcome ++ l.yields := by
  cases l with
  | counting =>
    obtain ⟨rfl, rfl⟩ := Prod.mk.inj (Option.some.inj hload)
    exact ⟨1, rfl, rfl, rfl, rfl⟩
  | reading | vetting | keeping =>
    obtain ⟨rfl, rfl⟩ := Prod.mk.inj (Option.some.inj hload)
    exact ⟨0, rfl, rfl, rfl, rfl⟩
  | loaded => cases hload

/-! ### Stages -/

/-- How much is done for a visitor with a name at each stage. -/
def Doing (v : Visit) (w : Effort) : Visitor → Prop
  | .fetching | .queueing false | .confirming => w = {}
  | .loading false l => w = { loads := l.counted, early := l.outcome }
  | .checking false list _ => ∃ kept, w = .having kept list
  | .refused list _ => ∃ c, c.list = list ∧ w.Refused v c
  | .queueing true => w.Outdated v
  | .loading true l => ∃ w₀ : Effort, w₀.Outdated v ∧ w = w₀.retry l.counted l.outcome
  | .checking true list _ => ∃ w₀ : Effort, w₀.Outdated v ∧ w = w₀.retry 1 [.ok list]
  | .decided answer _ => w.Sparing v answer

/-- The effort of a visitor after a move. -/
def Effort.moved (w : Effort) (h h' : Gatehouse) (v : Visit) (s : Visitor) : Effort :=
  (w.see h.gate h.now (.visitor v s)).charge h.gate h'.gate

/-- A visitor looks for a list that is kept. -/
theorem doing_of_fresh? {r : ℕ} (hf : h.fresh? = some (list, r)) :
    Doing v { found := h.gate.fresh? h.now } (.checking false list r) := by
  obtain ⟨_, hfresh, heq⟩ := Option.map_eq_some_iff.mp hf
  obtain ⟨rfl, -⟩ := Prod.mk.inj heq
  exact ⟨true, by rw [hfresh]; rfl⟩

theorem Doing.fetching (named : v.source ≠ "") (hd : Doing v w .fetching)
    (hask : h.ask v .fetching = some (h', s')) : Doing v (w.moved h h' v .fetching) s' := by
  obtain rfl : w = {} := hd
  have hname : ¬ v.source.isEmpty = true := by simpa using named
  rw [ask, if_neg hname] at hask
  rw [Effort.moved, Effort.see, if_neg hname]
  split at hask
  next list r hf =>
    obtain ⟨rfl, rfl⟩ := Prod.mk.inj (Option.some.inj hask)
    rw [Effort.charge_self]
    exact doing_of_fresh? hf
  next hf =>
    obtain ⟨rfl, rfl⟩ := Prod.mk.inj (Option.some.inj hask)
    rw [Effort.charge_self, Option.map_eq_none_iff.mp hf]
    rfl

theorem Doing.confirming (hd : Doing v w .confirming)
    (hask : h.ask v .confirming = some (h', s')) : Doing v (w.moved h h' v .confirming) s' := by
  obtain rfl : w = {} := hd
  rw [ask] at hask
  rw [Effort.moved, Effort.see]
  split at hask
  next list r hf =>
    obtain ⟨rfl, rfl⟩ := Prod.mk.inj (Option.some.inj hask)
    rw [Effort.charge_self]
    exact doing_of_fresh? hf
  next hf =>
    obtain ⟨rfl, rfl⟩ := Prod.mk.inj (Option.some.inj hask)
    rw [Effort.charge_self, Option.map_eq_none_iff.mp hf]
    rfl

/-- A step of a load. -/
theorem Doing.loading {again : Bool} {l l' : Loader} (hd : Doing v w (.loading again l))
    (hload : h.load l = some (h', l')) :
    Doing v (w.moved h h' v (.loading again l)) (.loading again l') := by
  obtain ⟨n, hloads, hcounted, hasked, houtcome⟩ := charged_of_load hload
  rw [Effort.moved, Effort.charge_of_asked_eq hloads hasked]
  cases again with
  | false =>
    obtain rfl : w = { loads := l.counted, early := l.outcome } := hd
    change _ = _
    rw [hcounted, houtcome]
    cases l <;> simp [Effort.see, Loader.yields]
  | true =>
    obtain ⟨w₀, hw₀, rfl⟩ := hd
    refine ⟨w₀, hw₀, ?_⟩
    rw [hcounted, houtcome]
    cases l <;> simp [Effort.see, Effort.retry, Loader.yields, add_assoc]

/-- A load is over. -/
theorem Doing.loaded {again : Bool} {result : Except AccessError AllowList} {r : ℕ}
    (hd : Doing v w (.loading again (.loaded result r)))
    (hask : h.ask v (.loading again (.loaded result r)) = some (h', s')) :
    Doing v (w.moved h h' v (.loading again (.loaded result r))) s' := by
  cases result with
  | error e =>
    obtain ⟨rfl, rfl⟩ := Prod.mk.inj (Option.some.inj hask)
    rw [Effort.moved, Effort.charge_self]
    cases again with
    | false =>
      obtain rfl : w = _ := hd
      exact Effort.sparing_of_failed v e
    | true =>
      obtain ⟨w₀, hw₀, rfl⟩ := hd
      exact hw₀.sparing_of_failed e
  | ok list =>
    obtain ⟨rfl, rfl⟩ := Prod.mk.inj (Option.some.inj hask)
    rw [Effort.moved, Effort.charge_self]
    cases again with
    | false => exact ⟨false, hd⟩
    | true => exact hd

/-- A list is asked. -/
theorem Doing.checking {again : Bool} {r : ℕ} (hd : Doing v w (.checking again list r))
    (hask : h.ask v (.checking again list r) = some (h', s')) :
    Doing v (w.moved h h' v (.checking again list r)) s' := by
  set c := h.gate.consultation list v with hc
  let asked : Gate := { h.gate with asked := h.gate.asked ++ c.asks v }
  have hcharge (w : Effort) : w.charge h.gate asked =
      { w with loads := w.loads + 0, asked := w.asked ++ c.asks v } := Effort.charge_of rfl rfl
  have hmoved : w.moved h { h with gate := asked } v (.checking again list r) = w.consult v c :=
    hcharge _
  simp only [ask, Gate.check_eq, ← hc] at hask
  cases again with
  | false =>
    obtain ⟨kept, rfl⟩ := hd
    cases hadmits : c.admits v with
    | true =>
      rw [hadmits] at hask
      obtain ⟨rfl, rfl⟩ := Prod.mk.inj (Option.some.inj hask)
      rw [hmoved]
      exact Effort.sparing_of_admits kept hadmits
    | false =>
      rw [hadmits] at hask
      obtain ⟨rfl, rfl⟩ := Prod.mk.inj (Option.some.inj hask)
      rw [hmoved]
      exact ⟨c, rfl, hadmits, kept, rfl⟩
  | true =>
    -- the second list decides, whatever it says
    obtain ⟨w₀, hw₀, rfl⟩ := hd
    have hsparing := hw₀.sparing c
    cases hadmits : c.admits v with
    | true | false =>
      rw [hadmits] at hask hsparing
      obtain ⟨rfl, rfl⟩ := Prod.mk.inj (Option.some.inj hask)
      rw [hmoved]
      exact hsparing

/-- **One move** of a visitor with a name. -/
theorem Doing.moves (named : v.source ≠ "") (hd : Doing v w s)
    (hask : h.ask v s = some (h', s')) : Doing v (w.moved h h' v s) s' := by
  cases s with
  | fetching => exact hd.fetching named hask
  | queueing again =>
    rw [ask] at hask
    split at hask
    next => cases hask
    next =>
      obtain ⟨rfl, rfl⟩ := Prod.mk.inj (Option.some.inj hask)
      rw [Effort.moved, Effort.charge_self]
      cases again with
      | false => exact hd
      | true => exact ⟨w, hd, hd.retry_zero.symm⟩
  | confirming => exact hd.confirming hask
  | loading again l =>
    cases l with
    | loaded result r => exact hd.loaded hask
    | counting | reading | vetting | keeping =>
      simp only [ask, Option.map_eq_some_iff] at hask
      obtain ⟨_, hload, heq⟩ := hask
      obtain ⟨rfl, rfl⟩ := Prod.mk.inj heq
      exact hd.loading hload
  | checking again list r => exact hd.checking hask
  | refused list r =>
    obtain ⟨rfl, rfl⟩ := Prod.mk.inj (Option.some.inj hask)
    obtain ⟨c, rfl, hrefused⟩ := hd
    rw [Effort.moved, Effort.charge_self]
    cases hexpired : c.list.expired h.now with
    | false => exact hrefused.sparing hexpired
    | true => exact hrefused.outdated hexpired
  | decided => cases hask

/-! ### Visits -/

/-- A visitor goes from one stage to the next. -/
theorem of_life {P : Effort → Visitor → Prop} {turns : List (Turn ℕ Gatehouse Thread)}
    {o : Option Thread} (begins : P {} .fetching)
    (moves : ∀ {w s h h' s'}, P w s → h.ask v s = some (h', s') → P (w.moved h h' v s) s')
    (life : Crowd.Life move (.visitor v .fetching) turns h o) :
    ∃ s, o = some (.visitor v s) ∧ P (effort turns) s := by
  induction life with
  | begins => exact ⟨_, rfl, begins⟩
  | meanwhile _ _ ih =>
    -- what others do is not charged to the visitor
    exact ih
  | @moves turns i h u m _ hm ih =>
    obtain ⟨s, hu, hs⟩ := ih
    obtain rfl := Option.some.inj hu
    obtain ⟨⟨h', s'⟩, hask, heq⟩ := Option.bind_eq_some_iff.mp hm
    obtain rfl := Option.some.inj heq
    refine ⟨s', rfl, ?_⟩
    rw [effort_snoc]
    exact moves hs hask

/-- Whoever has no name is turned away at once. -/
theorem effort_of_unnamed (unnamed : v.source = "") {turns : List (Turn ℕ Gatehouse Thread)}
    {o : Option Thread} (life : Crowd.Life move (.visitor v .fetching) turns h o) :
    ∃ s, o = some (.visitor v s) ∧ effort turns = {} ∧
      (s = .fetching ∨ s = .decided false none) := by
  have hname : v.source.isEmpty = true := by simp [unnamed]
  refine of_life (P := fun w s => w = {} ∧ (s = .fetching ∨ s = .decided false none))
    ⟨rfl, .inl rfl⟩ ?_ life
  rintro w s h h' s' ⟨rfl, rfl | rfl⟩ hask
  · rw [ask, if_pos hname] at hask
    obtain ⟨rfl, rfl⟩ := Prod.mk.inj (Option.some.inj hask)
    rw [Effort.moved, Effort.see, if_pos hname, Effort.charge_self]
    exact ⟨rfl, .inr rfl⟩
  · cases hask

/-- **Visits are spared what they can do without.** For a source without a name nothing is done. For
any other, no more is done than has to be: in a single call, whatever the gate and its source hold,
whichever host names it looks up and whatever time passes; and also in a visit during which others
change all that between one move and the next. -/
theorem visits_sparingly (v : Visit) :
    (∀ (g : Gate) (t : Moments),
      let decision := g.allow t v.source v.reverse v.caseSensitive
      (v.source = "" → decision = (g, false)) ∧
      (v.source ≠ "" → ∃ w : Effort, w.Covers g t v decision.1 ∧ w.Sparing v decision.2)) ∧
    ∀ turns h answer reading,
      Crowd.Life move (.visitor v .fetching) turns h (some (.visitor v (.decided answer reading))) →
      (v.source = "" → effort turns = {} ∧ answer = false) ∧
      (v.source ≠ "" → (effort turns).Sparing v answer) := by
  refine ⟨fun g t => ⟨fun unnamed => ?_, Effort.exists_covers⟩,
    fun turns h answer reading life => ⟨fun unnamed => ?_, fun named => ?_⟩⟩
  · exact if_pos (by simp [unnamed])
  · obtain ⟨s, hs, heffort, hstage⟩ := effort_of_unnamed unnamed life
    obtain ⟨-, rfl⟩ := Thread.visitor.inj (Option.some.inj hs)
    obtain ⟨rfl, -⟩ := Visitor.decided.inj (hstage.resolve_left nofun)
    exact ⟨heffort, rfl⟩
  · obtain ⟨s, hs, hdoing⟩ := of_life (P := Doing v) rfl (fun hd hask => hd.moves named hask) life
    obtain ⟨-, rfl⟩ := Thread.visitor.inj (Option.some.inj hs)
    exact hdoing

/-- A gate that keeps a list without patterns, and whose source has become unusable. -/
def staleGate : Gate where
  source := { description := "list", contents := .error (.malformed "list") }
  canaries := []
  timeToLive := 60
  hosts := fun _ => ["localhost"]
  current := some { patterns := [], timeToLive := 60 }

/-- The list is fetched just before it expires. It does not admit the visitor, whose host names are
asked for once, and the only attempt to load another one fails. -/
theorem visits_sparingly_sample :
    let v : Visit := { source := "10.0.0.1", reverse := true }
    ∃ turns h, Crowd.Life move (.visitor v .fetching) turns h
        (some (.visitor v (.decided false none))) ∧
      (effort turns).Sparing v false ∧ (effort turns).loads = 1 ∧
      (effort turns).asked = ["10.0.0.1"] := by
  intro v
  have begins : Crowd.Life move (.visitor v .fetching) [] { gate := staleGate }
      (some (.visitor v .fetching)) := .begins _
  have fetched := begins.moves (i := 59) rfl
  have refused := fetched.moves (i := 0) rfl
  have queueing := refused.moves (i := 1) rfl
  have counting := queueing.moves (i := 0) rfl
  have reading := counting.moves (i := 0) rfl
  have vetting := reading.moves (i := 0) rfl
  have keeping := vetting.moves (i := 0) rfl
  have loaded := keeping.moves (i := 0) rfl
  have decided := loaded.moves (i := 0) rfl
  exact ⟨_, _, decided, ((visits_sparingly v).2 _ _ _ _ decided).2 (by decide), rfl, rfl⟩

end Gatehouse

end Switchboard
