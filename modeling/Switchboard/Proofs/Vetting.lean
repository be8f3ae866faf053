import Switchboard.Proofs.Gate

/-!
# The gate fails closed

A history of a gate is a list of acts: it is asked, it is made to load its list, it drops the list,
or the source comes to hold something else. `Gate.attempts` are the attempts to load a list that are
made when the gate is asked. What asking comes to is said in terms of them: the last attempt decides
which list is kept (`Gate.tried_allow`), and a source may go on exactly if it is admitted by a list
that was kept and had not expired, or by one that was loaded meanwhile (`Gate.allow_eq_true_iff`).

Main statement: `Gate.fails_closed`. After any history the kept list, if there is one, was loaded
from the source and passed the self-test, and after an attempt that failed nothing is let through
until one succeeds.
-/

namespace Switchboard

theorem AllowList.timeToLive_compile {patterns : List String} {timeToLive now : ℕ}
    {list : AllowList} (h : compile patterns timeToLive now = .ok list) :
    list.timeToLive = timeToLive := by
  unfold compile at h
  cases hp : patterns.mapM AllowPattern.compile with
  | error e => rw [hp] at h; cases h
  | ok ps => rw [hp] at h; rw [← Except.ok.inj h]

namespace Gate

variable {g : Gate} {t : Moments} {list : AllowList} {source : String} {reverse sensitive : Bool}

/-! ### Loading -/

/-- What an attempt to load a list comes to now. -/
def attempt (g : Gate) (now : ℕ) : Except AccessError AllowList :=
  vet g.canaries g.timeToLive now g.source.contents

/-- A list that was loaded was compiled from what the source held, and passed the self-test. -/
theorem vet_eq_ok_iff {canaries : List String} {timeToLive now : ℕ}
    {read : Except AccessError (List String)} :
    vet canaries timeToLive now read = .ok list ↔ ∃ patterns, read = .ok patterns ∧
      AllowList.compile patterns timeToLive now = .ok list ∧ list.selfTest canaries = .ok () := by
  unfold vet
  cases read with
  | error e => simp
  | ok patterns =>
    cases hc : AllowList.compile patterns timeToLive now with
    | error e => simp [hc]
    | ok l =>
      cases ht : l.selfTest canaries with
      | error e =>
        simp only [Except.ok.injEq, exists_eq_left', hc, ht, reduceCtorEq, false_iff, not_and]
        rintro rfl
        simp [ht]
      | ok _ =>
        simp only [Except.ok.injEq, exists_eq_left', hc, ht, iff_self_and]
        rintro rfl
        exact ht

theorem load_eq (g : Gate) (now : ℕ) :
    g.load now = ({ g with current := (g.attempt now).toOption, loads := g.loads + 1 },
      g.attempt now) := rfl

/-! ### Asking -/

/-- Whether a list admits a source, itself or by one of its host names. -/
def admits (g : Gate) (list : AllowList) (source : String) (reverse sensitive : Bool) : Bool :=
  list.admits source sensitive ||
    (reverse && (g.hosts source).any fun host => list.admits host sensitive)

theorem snd_check (g : Gate) (list : AllowList) (source : String) (reverse sensitive : Bool) :
    (g.check list source reverse sensitive).2 = g.admits list source reverse sensitive := by
  unfold check admits
  cases list.admits source sensitive <;> cases reverse <;> rfl

/-- The attempts that follow when a list was asked: one, if it did not admit the source and has
expired by then. -/
def retries (g : Gate) (t : Moments) (source : String) (reverse sensitive : Bool)
    (list : AllowList) : List (Except AccessError AllowList) :=
  if !g.admits list source reverse sensitive && list.expired t.recheck then [g.attempt t.reload]
  else []

/-- The attempts to load a list that are made when the gate is asked, with what they come to. -/
def attempts (g : Gate) (t : Moments) (source : String) (reverse sensitive : Bool) :
    List (Except AccessError AllowList) :=
  if source.isEmpty then []
  else
    match g.fresh? t.fetch with
    | some list => g.retries t source reverse sensitive list
    | none =>
      match g.attempt t.load with
      | .error e => [.error e]
      | .ok list => .ok list :: g.retries t source reverse sensitive list

/-- At most two attempts are made, and a second one only after a first that succeeded. -/
theorem attempts_cases (g : Gate) (t : Moments) (source : String) (reverse sensitive : Bool) :
    g.attempts t source reverse sensitive = [] ∨
      (∃ now, g.attempts t source reverse sensitive = [g.attempt now]) ∨
      ∃ list, g.attempt t.load = .ok list ∧
        g.attempts t source reverse sensitive = [.ok list, g.attempt t.reload] := by
  have hretry (list : AllowList) : g.retries t source reverse sensitive list = [] ∨
      g.retries t source reverse sensitive list = [g.attempt t.reload] := by
    unfold retries
    split
    · exact .inr rfl
    · exact .inl rfl
  unfold attempts
  split
  · exact .inl rfl
  · cases g.fresh? t.fetch with
    | some list => exact (hretry list).imp_right fun h => .inl ⟨_, h⟩
    | none =>
      cases hload : g.attempt t.load with
      | error e => exact .inr (.inl ⟨t.load, by rw [hload]⟩)
      | ok list =>
        rcases hretry list with h | h
        · exact .inr (.inl ⟨t.load, by simp [h, hload]⟩)
        · exact .inr (.inr ⟨list, rfl, by simp [h]⟩)

theorem eq_attempt_of_mem_attempts {result : Except AccessError AllowList}
    (h : result ∈ g.attempts t source reverse sensitive) : ∃ now, result = g.attempt now := by
  rcases attempts_cases g t source reverse sensitive with hnil | ⟨now, hone⟩ | ⟨list, hload, htwo⟩
  · simp [hnil] at h
  · exact ⟨now, by simpa [hone] using h⟩
  · rw [htwo, List.mem_pair] at h
    exact h.elim (fun h => ⟨_, h.trans hload.symm⟩) fun h => ⟨_, h⟩

/-- An attempt that failed is the last one. -/
theorem getLast?_attempts_of_error {e : AccessError}
    (h : .error e ∈ g.attempts t source reverse sensitive) :
    (g.attempts t source reverse sensitive).getLast? = some (.error e) := by
  rcases attempts_cases g t source reverse sensitive with hnil | ⟨now, hone⟩ | ⟨list, hload, htwo⟩
  · simp [hnil] at h
  · rw [hone, List.mem_singleton] at h
    rw [hone, ← h]
    rfl
  · rw [htwo, List.mem_pair] at h
    rw [htwo, ← h.resolve_left nofun]
    rfl

/-! ### What attempts do -/

/-- A gate has become another by attempts to load a list that came to these results, and nothing
else that matters was done to it. -/
structure Tried (g : Gate) (results : List (Except AccessError AllowList)) (g' : Gate) : Prop where
  source_eq : g'.source = g.source
  canaries_eq : g'.canaries = g.canaries
  timeToLive_eq : g'.timeToLive = g.timeToLive
  hosts_eq : g'.hosts = g.hosts
  loads_eq : g'.loads = g.loads + results.length
  /-- The last result is kept. -/
  current_eq : g'.current = (results.getLast?.map Except.toOption).getD g.current

namespace Tried

variable {g₁ g₂ : Gate} {results others : List (Except AccessError AllowList)}

theorem trans (h : Tried g results g₁) (h' : Tried g₁ others g₂) :
    Tried g (results ++ others) g₂ where
  source_eq := h'.source_eq.trans h.source_eq
  canaries_eq := h'.canaries_eq.trans h.canaries_eq
  timeToLive_eq := h'.timeToLive_eq.trans h.timeToLive_eq
  hosts_eq := h'.hosts_eq.trans h.hosts_eq
  loads_eq := by rw [h'.loads_eq, h.loads_eq, List.length_append, add_assoc]
  current_eq := by
    rw [h'.current_eq, h.current_eq, List.getLast?_append]
    cases others.getLast? <;> rfl

theorem attempt_eq (h : Tried g results g₁) (now : ℕ) : g₁.attempt now = g.attempt now := by
  unfold attempt
  rw [h.canaries_eq, h.timeToLive_eq, h.source_eq]

theorem admits_eq (h : Tried g results g₁) : g₁.admits list source reverse sensitive =
    g.admits list source reverse sensitive := by
  unfold admits
  rw [h.hosts_eq]

theorem retries_eq (h : Tried g results g₁) : g₁.retries t source reverse sensitive list =
    g.retries t source reverse sensitive list := by
  unfold retries
  rw [h.admits_eq, h.attempt_eq]

end Tried

theorem tried_check (g : Gate) (list : AllowList) (source : String) (reverse sensitive : Bool) :
    Tried g [] (g.check list source reverse sensitive).1 := by
  unfold check
  split
  · constructor <;> rfl
  · split <;> constructor <;> rfl

theorem tried_load (g : Gate) (now : ℕ) : Tried g [g.attempt now] (g.load now).1 := by
  constructor <;> rfl

/-- What is left of asking once there is a list. -/
def ask (g : Gate) (t : Moments) (source : String) (reverse sensitive : Bool) (list : AllowList) :
    Gate × Bool :=
  match g.check list source reverse sensitive with
  | (g, true) => (g, true)
  | (g, false) =>
    if list.expired t.recheck then
      match g.load t.reload with
      | (g, .error _) => (g, false)
      | (g, .ok list) => g.check list source reverse sensitive
    else (g, false)

theorem allow_eq (g : Gate) (t : Moments) (source : String) (reverse sensitive : Bool) :
    g.allow t source reverse sensitive =
      if source.isEmpty then (g, false)
      else
        match g.fresh? t.fetch with
        | some list => g.ask t source reverse sensitive list
        | none =>
          match g.attempt t.load with
          | .error _ => ((g.load t.load).1, false)
          | .ok list => (g.load t.load).1.ask t source reverse sensitive list := by
  unfold allow currentOrLoad
  split
  · rfl
  · cases g.fresh? t.fetch with
    | some list => rfl
    | none =>
      rw [load_eq]
      cases g.attempt t.load <;> rfl

/-- A list that was asked admits the source, or it has expired and the list that is loaded in its
place does. -/
theorem ask_spec (g : Gate) (t : Moments) (source : String) (reverse sensitive : Bool)
    (list : AllowList) :
    Tried g (g.retries t source reverse sensitive list)
        (g.ask t source reverse sensitive list).1 ∧
      ((g.ask t source reverse sensitive list).2 = true ↔
        g.admits list source reverse sensitive = true ∨
          ∃ l, .ok l ∈ g.retries t source reverse sensitive list ∧
            g.admits l source reverse sensitive = true) := by
  have htried := tried_check g list source reverse sensitive
  have hanswer := snd_check g list source reverse sensitive
  unfold ask retries
  revert htried hanswer
  rcases g.check list source reverse sensitive with ⟨g₁, answer⟩
  rintro htried rfl
  cases hadmits : g.admits list source reverse sensitive with
  | true => exact ⟨htried, by simp⟩
  | false =>
    cases hexpired : list.expired t.recheck with
    | false => exact ⟨htried, by simp⟩
    | true =>
      have hload := htried.trans (tried_load g₁ t.reload)
      have hpair : g₁.load t.reload = ((g₁.load t.reload).1, g.attempt t.reload) :=
        Prod.ext rfl (htried.attempt_eq t.reload)
      rw [htried.attempt_eq] at hload
      generalize (g₁.load t.reload).1 = g₂ at hload hpair
      simp only [Bool.not_false, Bool.and_self, if_true, hpair]
      cases hresult : g.attempt t.reload with
      | error e =>
        rw [hresult] at hload
        exact ⟨hload, by simp⟩
      | ok l =>
        rw [hresult] at hload
        refine ⟨hload.trans (tried_check g₂ l source reverse sensitive), ?_⟩
        rw [snd_check, hload.admits_eq]
        simp

/-- When the gate is asked, the last attempt to load a list decides which one it keeps. -/
theorem tried_allow (g : Gate) (t : Moments) (source : String) (reverse sensitive : Bool) :
    Tried g (g.attempts t source reverse sensitive) (g.allow t source reverse sensitive).1 := by
  rw [allow_eq]
  unfold attempts
  split
  · constructor <;> rfl
  · cases g.fresh? t.fetch with
    | some list => exact (ask_spec g t source reverse sensitive list).1
    | none =>
      have hload := tried_load g t.load
      cases hresult : g.attempt t.load with
      | error e =>
        rw [hresult] at hload
        exact hload
      | ok list =>
        rw [hresult] at hload
        have hask := (ask_spec (g.load t.load).1 t source reverse sensitive list).1
        rw [hload.retries_eq] at hask
        exact hload.trans hask

/-- A source may go on exactly if it is admitted by the list that was kept and had not expired when
it was fetched, or by one that was loaded meanwhile. -/
theorem allow_eq_true_iff : (g.allow t source reverse sensitive).2 = true ↔
    source ≠ "" ∧ ∃ list, g.admits list source reverse sensitive = true ∧
      (.ok list ∈ g.attempts t source reverse sensitive ∨ g.fresh? t.fetch = some list) := by
  have hempty : source.isEmpty = true ↔ source = "" := String.isEmpty_iff
  rw [allow_eq]
  unfold attempts
  split
  · next h => simp [hempty.mp h]
  · next h =>
    rw [and_iff_right (mt hempty.mpr h)]
    cases g.fresh? t.fetch with
    | some list =>
      refine (ask_spec g t source reverse sensitive list).2.trans ?_
      simp only [Option.some.injEq]
      constructor
      · rintro (hadmits | ⟨l, hl, hadmits⟩)
        · exact ⟨list, hadmits, .inr rfl⟩
        · exact ⟨l, hadmits, .inl hl⟩
      · rintro ⟨l, hadmits, hl | rfl⟩
        · exact .inr ⟨l, hl, hadmits⟩
        · exact .inl hadmits
    | none =>
      have hload := tried_load g t.load
      cases hresult : g.attempt t.load with
      | error e => simp
      | ok list =>
        refine (ask_spec (g.load t.load).1 t source reverse sensitive list).2.trans ?_
        simp only [hload.admits_eq, hload.retries_eq, List.mem_cons, Except.ok.injEq,
          reduceCtorEq, or_false]
        constructor
        · rintro (hadmits | ⟨l, hl, hadmits⟩)
          · exact ⟨list, hadmits, .inl rfl⟩
          · exact ⟨l, hadmits, .inr hl⟩
        · rintro ⟨l, hadmits, rfl | hl⟩
          · exact .inl hadmits
          · exact .inr ⟨l, hl, hadmits⟩

/-! ### Histories -/

/-- What is done with a gate, or happens to its source. -/
inductive Act where
  | allow (t : Moments) (source : String) (reverse sensitive : Bool)
  | reload (now : ℕ)
  | invalidate
  | edit (contents : Except AccessError (List String))

/-- The attempts to load a list that an act makes. -/
def Act.attempts (g : Gate) : Act → List (Except AccessError AllowList)
  | .allow t source reverse sensitive => g.attempts t source reverse sensitive
  | .reload now => [g.attempt now]
  | .invalidate => []
  | .edit _ => []

/-- The gate after an act. -/
def perform (g : Gate) : Act → Gate
  | .allow t source reverse sensitive => (g.allow t source reverse sensitive).1
  | .reload now => (g.load now).1
  | .invalidate => g.invalidate
  | .edit contents => { g with source := { g.source with contents } }

/-- The gate after one act after the other. -/
def after (g : Gate) (acts : List Act) : Gate := acts.foldl perform g

theorem after_snoc (g : Gate) (acts : List Act) (act : Act) :
    g.after (acts ++ [act]) = (g.after acts).perform act := List.foldl_append

theorem perform_loads (g : Gate) (act : Act) :
    (g.perform act).loads = g.loads + (act.attempts g).length := by
  cases act with
  | allow t source reverse sensitive => exact (tried_allow g t source reverse sensitive).loads_eq
  | reload now => exact (tried_load g now).loads_eq
  | invalidate => rfl
  | edit contents => rfl

/-- A gate stays as it was built. -/
theorem built_perform (g : Gate) (act : Act) : (g.perform act).canaries = g.canaries ∧
    (g.perform act).timeToLive = g.timeToLive ∧ (g.perform act).hosts = g.hosts := by
  cases act with
  | allow t source reverse sensitive =>
    have h := tried_allow g t source reverse sensitive
    exact ⟨h.canaries_eq, h.timeToLive_eq, h.hosts_eq⟩
  | reload now => exact ⟨rfl, rfl, rfl⟩
  | invalidate => exact ⟨rfl, rfl, rfl⟩
  | edit contents => exact ⟨rfl, rfl, rfl⟩

theorem built_after (g : Gate) (acts : List Act) : (g.after acts).canaries = g.canaries ∧
    (g.after acts).timeToLive = g.timeToLive ∧ (g.after acts).hosts = g.hosts := by
  induction acts using List.reverseRecOn with
  | nil => exact ⟨rfl, rfl, rfl⟩
  | append_singleton acts act ih =>
    rw [after_snoc]
    obtain ⟨hcanaries, htime, hhosts⟩ := built_perform (g.after acts) act
    exact ⟨hcanaries.trans ih.1, htime.trans ih.2.1, hhosts.trans ih.2.2⟩

/-- An attempt that failed leaves no list. -/
theorem current_perform_of_error {act : Act} {e : AccessError} (h : .error e ∈ act.attempts g) :
    (g.perform act).current = none := by
  cases act with
  | allow t source reverse sensitive =>
    refine (tried_allow g t source reverse sensitive).current_eq.trans ?_
    rw [getLast?_attempts_of_error h]
    rfl
  | reload now =>
    refine (tried_load g now).current_eq.trans ?_
    rw [← List.mem_singleton.mp h]
    rfl
  | invalidate => cases h
  | edit contents => cases h

/-- A list that is kept was kept before or has been loaded. -/
theorem mem_attempts_of_current_perform {act : Act} (h : (g.perform act).current = some list) :
    .ok list ∈ act.attempts g ∨ g.current = some list := by
  have htried : ∀ {results g'}, Tried g results g' → g'.current = some list →
      .ok list ∈ results ∨ g.current = some list := fun {results g'} htried h => by
    rw [htried.current_eq] at h
    cases hlast : results.getLast? with
    | none => exact .inr (by simpa [hlast] using h)
    | some result =>
      rw [hlast] at h
      cases result with
      | error e => cases h
      | ok l =>
        obtain rfl : l = list := Option.some.inj h
        exact .inl (List.mem_of_getLast? hlast)
  cases act with
  | allow t source reverse sensitive => exact htried (tried_allow g t source reverse sensitive) h
  | reload now => exact htried (tried_load g now) h
  | invalidate => cases h
  | edit contents => exact .inr h

/-- An act of the history loaded this list: it was compiled from what the source held then, and it
passed the self-test. -/
def Loaded (g : Gate) (acts : List Act) (list : AllowList) : Prop :=
  ∃ before act later, acts = before ++ act :: later ∧ .ok list ∈ act.attempts (g.after before) ∧
    ∃ patterns now, (g.after before).source.contents = .ok patterns ∧
      AllowList.compile patterns g.timeToLive now = .ok list ∧
        list.selfTest g.canaries = .ok ()

theorem Loaded.snoc {acts : List Act} (h : g.Loaded acts list) (act : Act) :
    g.Loaded (acts ++ [act]) list := by
  obtain ⟨before, first, later, rfl, hload⟩ := h
  exact ⟨before, first, later ++ [act], by simp, hload⟩

theorem loaded_of_mem_attempts {acts : List Act} {act : Act}
    (h : .ok list ∈ act.attempts (g.after acts)) : g.Loaded (acts ++ [act]) list := by
  have hattempt : ∃ now, .ok list = (g.after acts).attempt now := by
    cases act with
    | allow t source reverse sensitive => exact eq_attempt_of_mem_attempts h
    | reload now => exact ⟨now, List.mem_singleton.mp h⟩
    | invalidate => cases h
    | edit contents => cases h
  obtain ⟨now, hnow⟩ := hattempt
  obtain ⟨patterns, hpatterns, hcompile, htest⟩ := vet_eq_ok_iff.mp hnow.symm
  obtain ⟨hcanaries, htime, -⟩ := built_after g acts
  rw [htime] at hcompile
  rw [hcanaries] at htest
  exact ⟨acts, act, [], rfl, h, patterns, now, hpatterns, hcompile, htest⟩

/-- A gate without a list keeps only lists that it has loaded since. -/
theorem loaded_of_current (empty : g.current = none) {acts : List Act}
    (h : (g.after acts).current = some list) : g.Loaded acts list := by
  induction acts using List.reverseRecOn with
  | nil => exact absurd (empty.symm.trans h) (by simp)
  | append_singleton acts act ih =>
    rw [after_snoc] at h
    rcases mem_attempts_of_current_perform h with hload | hkept
    · exact loaded_of_mem_attempts hload
    · exact (ih hkept).snoc act

/-- A gate without a list lets a source through only by a list that it has loaded since, either
during that very call or not too long before. -/
theorem loaded_of_allow (empty : g.current = none) {acts : List Act}
    (h : ((g.after acts).allow t source reverse sensitive).2 = true) :
    source ≠ "" ∧ ∃ list, g.Loaded (acts ++ [.allow t source reverse sensitive]) list ∧
      g.admits list source reverse sensitive = true ∧
      (.ok list ∈ (g.after acts).attempts t source reverse sensitive ∨
        (g.after acts).current = some list ∧ t.fetch - list.loadedAt < g.timeToLive) := by
  obtain ⟨hsource, list, hadmits, hlist⟩ := allow_eq_true_iff.mp h
  have hhosts : g.admits list source reverse sensitive = true := by
    unfold admits at hadmits ⊢
    rwa [(built_after g acts).2.2] at hadmits
  refine ⟨hsource, list, ?_⟩
  rcases hlist with hload | hfresh
  · exact ⟨loaded_of_mem_attempts hload, hhosts, .inl hload⟩
  · obtain ⟨hkept, hlives⟩ := Option.filter_eq_some_iff.mp hfresh
    have hloaded := loaded_of_current empty hkept
    have htime : list.timeToLive = g.timeToLive := by
      obtain ⟨_, _, _, _, _, _, _, _, hcompile, _⟩ := hloaded
      exact AllowList.timeToLive_compile hcompile
    refine ⟨hloaded.snoc _, hhosts, .inr ⟨hkept, ?_⟩⟩
    rw [← htime]
    simpa [AllowList.expired] using hlives

/-- **The gate fails closed.** Whatever was done with a new gate, the list it keeps was loaded from
the source and passed the self-test. An attempt to load one that fails leaves no list, and from
then on nothing is let through by a list that was not loaded later. Whoever is let through has a
name, and is admitted by a list that was loaded during that very call or was kept and had not
expired when the call fetched it. -/
theorem fails_closed (allowed : AllowSource) (canaries : List String) (timeToLive : ℕ)
    (hosts : String → List String) (acts : List Act) :
    let new : Gate := { source := allowed, canaries, timeToLive, hosts }
    let g := new.after acts
    (∀ list, g.current = some list → new.Loaded acts list) ∧
      (∀ act, (g.perform act).loads = g.loads + (act.attempts g).length ∧
        ∀ e, .error e ∈ act.attempts g → (g.perform act).current = none ∧
          ∀ later t source reverse sensitive,
            (((g.perform act).after later).allow t source reverse sensitive).2 = true →
              ∃ list, (g.perform act).Loaded (later ++ [.allow t source reverse sensitive]) list) ∧
      ∀ t source reverse sensitive, (g.allow t source reverse sensitive).2 = true →
        source ≠ "" ∧ ∃ list, new.Loaded (acts ++ [.allow t source reverse sensitive]) list ∧
          (list.admits source sensitive = true ∨
            reverse = true ∧ ∃ host ∈ hosts source, list.admits host sensitive = true) ∧
          (.ok list ∈ g.attempts t source reverse sensitive ∨
            g.current = some list ∧ t.fetch - list.loadedAt < timeToLive) := by
  intro new g
  refine ⟨fun list h => loaded_of_current rfl h, fun act => ⟨perform_loads g act, fun e he => ?_⟩,
    fun t source reverse sensitive h => ?_⟩
  · have hempty := current_perform_of_error he
    refine ⟨hempty, fun later t source reverse sensitive h => ?_⟩
    obtain ⟨-, list, hloaded, -⟩ := loaded_of_allow hempty h
    exact ⟨list, hloaded⟩
  · obtain ⟨hsource, list, hloaded, hadmits, hlist⟩ := loaded_of_allow (g := new) rfl h
    refine ⟨hsource, list, hloaded, ?_, hlist⟩
    simpa [admits] using hadmits

end Gate

end Switchboard
