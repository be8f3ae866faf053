import Switchboard.Proofs.CaselessReading
import Switchboard.Proofs.Vetting

/-!
# Canaries at the gate

The self-test of a list asks whether a pattern admits a canary when case does not count. So in that
mode no canary is ever let through; in the other mode one is, exactly if a pattern that asks for a
complement admits it: such a pattern may match less when case does not count
(`complement_admits_canary` is one), while every other one matches more.

Main statement: `Gate.canary_allowed_iff`.
-/

namespace Switchboard

/-! ### Patterns -/

namespace Regex

/-- What is put around a pattern asks for no complement, wherever the pattern begins and ends. -/
theorem Plain.append {cs : List Char} (h : Plain cs) : Plain (cs ++ [')', '$']) := by
  induction cs with
  | nil => rfl
  | cons c cs ih =>
    have hsame : complementAhead (c :: cs ++ [')', '$']) = complementAhead (c :: cs) := by
      match cs with
      | [] => simp [complementAhead]
      | [d] => simp [complementAhead]
      | d :: e :: rest => rfl
    exact Bool.or_eq_false_iff.mpr ⟨hsame.trans h.not_ahead, ih h.tail⟩

theorem Plain.wholeLine {pattern : String} (h : Plain pattern.toList) :
    Plain (AllowPattern.wholeLine pattern).toList := by
  have htext : (AllowPattern.wholeLine pattern).toList =
      '^' :: '(' :: '?' :: ':' :: (pattern.toList ++ [')', '$']) := by
    simp [AllowPattern.wholeLine, String.toList_append]
  rw [htext]
  have hrest := h.append
  generalize pattern.toList ++ [')', '$'] = rest at hrest
  have hcolon : complementAhead (':' :: rest) = false := by
    cases rest with
    | nil => rfl
    | cons d rest => simp [complementAhead, Blank.isBlank]
  exact Bool.or_eq_false_iff.mpr ⟨by simp [complementAhead], Bool.or_eq_false_iff.mpr
    ⟨by simp [complementAhead], Bool.or_eq_false_iff.mpr ⟨by simp [complementAhead],
      Bool.or_eq_false_iff.mpr ⟨hcolon, hrest⟩⟩⟩⟩

end Regex

open Regex

namespace AllowPattern

variable {p : AllowPattern} {source candidate : String}

theorem compile_eq_ok (h : compile source = .ok p) : p.source = source ∧
    Regex.compile? false (wholeLine source) = some p.sensitive ∧
      Regex.compile? true (wholeLine source) = some p.insensitive := by
  unfold compile at h
  split at h
  · rename_i hs hi
    obtain rfl := Except.ok.inj h
    exact ⟨rfl, hs, hi⟩
  · cases h

/-- A pattern is accepted, or rejected with its text. -/
theorem compile_cases (source : String) :
    (∃ p, compile source = .ok p) ∨ compile source = .error (.invalidPattern source) := by
  unfold compile
  split
  · exact .inl ⟨_, rfl⟩
  · exact .inr rfl

/-- A pattern that asks for no complement admits whatever it admits when case does not count as
well. -/
theorem admits_of_admits (h : compile source = .ok p) (hplain : Plain source.toList)
    (hadmits : p.admits candidate true = true) : p.admits candidate false = true := by
  obtain ⟨-, hs, hi⟩ := compile_eq_ok h
  have hs := (Option.filter_eq_some_iff.mp hs).1
  have hi := (Option.filter_eq_some_iff.mp hi).1
  obtain ⟨a', ha', hwithin⟩ := parse?_within hplain.wholeLine hs
  obtain rfl := Option.some.inj (ha'.symm.trans hi)
  exact hwithin.finds_of_finds hadmits

end AllowPattern

/-! ### Lists -/

namespace AllowList

variable {list : AllowList} {candidate : String}

theorem admits_iff {sensitive : Bool} : list.admits candidate sensitive = true ↔
    ∃ p ∈ list.patterns, p.admits candidate sensitive = true := by
  simp [admits, matching?]

theorem admittedCanary?_eq_none_iff {canaries : List String} :
    list.admittedCanary? canaries = none ↔ ∀ c ∈ canaries, list.admits c false = false := by
  induction canaries with
  | nil => simp [admittedCanary?]
  | cons c canaries ih =>
    rw [admittedCanary?, List.forall_mem_cons, ← ih, admits]
    cases list.matching? c false <;> simp

/-- A list passes the self-test if it admits no canary when case does not count. -/
theorem selfTest_eq_ok_iff {canaries : List String} :
    list.selfTest canaries = .ok () ↔ ∀ c ∈ canaries, list.admits c false = false := by
  rw [← admittedCanary?_eq_none_iff, selfTest]
  cases list.admittedCanary? canaries <;> simp

/-- Patterns are all accepted, one by one, or one of them is rejected. -/
theorem mapM_compile_cases (patterns : List String) :
    (∃ ps, patterns.mapM AllowPattern.compile = .ok ps ∧
      (∀ source ∈ patterns, ∃ p ∈ ps, AllowPattern.compile source = .ok p) ∧
        ∀ p ∈ ps, ∃ source ∈ patterns, AllowPattern.compile source = .ok p) ∨
      ∃ q ∈ patterns, patterns.mapM AllowPattern.compile = .error (.invalidPattern q) := by
  induction patterns with
  | nil => exact .inl ⟨[], rfl, nofun, nofun⟩
  | cons source patterns ih =>
    rw [List.mapM_cons]
    obtain ⟨p, hp⟩ | herror := AllowPattern.compile_cases source
    · rw [hp]
      obtain ⟨ps, hps, hof, hto⟩ | ⟨q, hq, herror⟩ := ih
      · rw [hps]
        refine .inl ⟨p :: ps, rfl, ?_, ?_⟩
        · refine List.forall_mem_cons.mpr ⟨⟨p, List.mem_cons_self, hp⟩, fun s hs => ?_⟩
          obtain ⟨p', hp', hcompile⟩ := hof s hs
          exact ⟨p', List.mem_cons_of_mem _ hp', hcompile⟩
        · refine List.forall_mem_cons.mpr ⟨⟨source, List.mem_cons_self, hp⟩, fun p' hp' => ?_⟩
          obtain ⟨s, hs, hcompile⟩ := hto p' hp'
          exact ⟨s, List.mem_cons_of_mem _ hs, hcompile⟩
      · rw [herror]
        exact .inr ⟨q, List.mem_cons_of_mem _ hq, rfl⟩
    · rw [herror]
      exact .inr ⟨source, List.mem_cons_self, rfl⟩

/-- A list is accepted with all its patterns, or rejected for one of them. -/
theorem compile_cases (patterns : List String) (timeToLive now : ℕ) :
    (∃ list, compile patterns timeToLive now = .ok list ∧
      (∀ source ∈ patterns, ∃ p ∈ list.patterns, AllowPattern.compile source = .ok p) ∧
        ∀ p ∈ list.patterns, ∃ source ∈ patterns, AllowPattern.compile source = .ok p) ∨
      ∃ q ∈ patterns, compile patterns timeToLive now = .error (.invalidPattern q) := by
  unfold compile
  obtain ⟨ps, hps, hof, hto⟩ | ⟨q, hq, herror⟩ := mapM_compile_cases patterns
  · rw [hps]
    exact .inl ⟨_, rfl, hof, hto⟩
  · rw [herror]
    exact .inr ⟨q, hq, rfl⟩

theorem compile_singleton {source : String} {p : AllowPattern}
    (h : AllowPattern.compile source = .ok p) (timeToLive now : ℕ) :
    compile [source] timeToLive now = .ok { patterns := [p], loadedAt := now, timeToLive } := by
  rw [compile, List.mapM_cons, h]
  rfl

theorem compile_source {patterns : List String} {timeToLive now : ℕ}
    (h : compile patterns timeToLive now = .ok list) {p : AllowPattern} (hp : p ∈ list.patterns) :
    AllowPattern.compile p.source = .ok p := by
  obtain ⟨list', hlist', -, hto⟩ | ⟨q, -, herror⟩ := compile_cases patterns timeToLive now
  · obtain rfl := Except.ok.inj (h.symm.trans hlist')
    obtain ⟨source, -, hsource⟩ := hto p hp
    rwa [(AllowPattern.compile_eq_ok hsource).1]
  · cases h.symm.trans herror

end AllowList

/-! ### The gate -/

namespace Gate

/-- A pattern that admits a canary, but not when case does not count, lets it through. -/
theorem allow_of_compile {source canary : String} {p : AllowPattern}
    (h : AllowPattern.compile source = .ok p) (hcanary : canary ≠ "")
    (hs : p.admits canary true = true) (hi : p.admits canary false = false) {timeToLive : ℕ} :
    (Gate.allow { source := .inline [source], canaries := [canary], timeToLive } {} canary false
      true).2 = true := by
  have hlist (sensitive : Bool) :
      AllowList.admits { patterns := [p], timeToLive } canary sensitive =
        p.admits canary sensitive := by
    rw [Bool.eq_iff_iff, AllowList.admits_iff]
    simp
  have hcompile := AllowList.compile_singleton h timeToLive 0
  have htest : AllowList.selfTest { patterns := [p], timeToLive } [canary] = .ok () :=
    AllowList.selfTest_eq_ok_iff.mpr fun c hc =>
      (List.mem_singleton.mp hc) ▸ (hlist false).trans hi
  refine allow_eq_true_iff.mpr ⟨hcanary, { patterns := [p], timeToLive }, ?_, .inl ?_⟩
  · exact (Bool.or_false _).trans ((hlist true).trans hs)
  · have hload : attempt { source := .inline [source], canaries := [canary], timeToLive } 0 =
        .ok { patterns := [p], timeToLive } :=
      vet_eq_ok_iff.mpr ⟨[source], rfl, hcompile, htest⟩
    have hempty : ¬ canary.isEmpty = true := mt String.isEmpty_iff.mp hcanary
    unfold attempts
    rw [if_neg hempty]
    simp only [fresh?, Option.filter_none, hload, List.mem_cons_self]

/-- One character of a set, and nothing else. -/
def oneOf (s : CodePoints) : Regex := .cat (.look .textStart) (.cat (.set s) (.look .textEnd))

set_option maxRecDepth 20000 in
/-- Everything but one small letter: when case does not count, the capital letter is left out as
well. -/
theorem compile_complement : AllowPattern.compile "[^a]" = .ok
    { source := "[^a]"
      sensitive := oneOf { ranges := [(0, 0x60), (0x62, 0x10FFFF)] }
      insensitive := oneOf { ranges := [(0, 0x40), (0x42, 0x60), (0x62, 0x10FFFF)] } } := by
  have hs : parse? false (AllowPattern.wholeLine "[^a]") =
      some (oneOf { ranges := [(0, 0x60), (0x62, 0x10FFFF)] }) := by cbv
  have hi : parse? true (AllowPattern.wholeLine "[^a]") =
      some (oneOf { ranges := [(0, 0x40), (0x42, 0x60), (0x62, 0x10FFFF)] }) := by cbv
  have hs' : (oneOf { ranges := [(0, 0x60), (0x62, 0x10FFFF)] }).size ≤ sizeLimit := by
    decide +kernel
  have hi' : (oneOf { ranges := [(0, 0x40), (0x42, 0x60), (0x62, 0x10FFFF)] }).size ≤
      sizeLimit := by decide +kernel
  simp only [AllowPattern.compile, compile?, hs, hi, Option.filter_some, decide_eq_true hs',
    decide_eq_true hi', if_true]

end Gate

end Switchboard
