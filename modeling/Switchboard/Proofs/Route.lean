import Switchboard.Proofs.Roster
import Switchboard.Route.Thread

/-!
# Routes are answered as if nothing were remembered

A path is served by the command of its own text, else by its longest registered ancestor. `Serves`
states that rule without an order of search, and `lookup_eq_iff` that `Route.lookup` is the one
answer it admits. The memo is transparent:

* `RouteMemo.Sound` is the invariant: what is remembered for the present generation is what the
  ancestors would be searched for again;
* `RouteMemo.resolve_eq_lookup` reads the rule off a sound memo;
* `Routing.sound_after` carries soundness through any history of registering and resolving, where a
  registration moves the generation on and so makes every remembered answer void.
-/

namespace Switchboard

namespace Route

/-! ### Ancestors -/

/-- The ancestor that ends at a slash with this text before it. -/
def upTo (before : List Char) : String :=
  String.ofList (if before.isEmpty then ['/'] else before)

/-- A text is an **ancestor** of a path if the path has a slash with this text before it; before
a slash at the beginning it is the slash itself. -/
def IsAncestor (path a : String) : Prop :=
  ∃ before after, path.toList = before ++ '/' :: after ∧ a = upTo before

theorem mem_ancestorsFrom {before rest : List Char} {a : String} :
    a ∈ ancestorsFrom before rest ↔
      ∃ more after, rest = more ++ '/' :: after ∧ a = upTo (before.reverse ++ more) := by
  induction rest generalizing before with
  | nil => simp [ancestorsFrom]
  | cons c rest ih =>
    have step : (∃ more after, c :: rest = more ++ '/' :: after ∧
          a = upTo (before.reverse ++ more)) ↔
        (c = '/' ∧ a = upTo before.reverse) ∨
          ∃ more after, rest = more ++ '/' :: after ∧
            a = upTo ((c :: before).reverse ++ more) := by
      constructor
      · rintro ⟨more, after, h, rfl⟩
        cases more with
        | nil =>
          obtain ⟨rfl, rfl⟩ := List.cons.inj h
          exact Or.inl ⟨rfl, by simp⟩
        | cons d more =>
          obtain ⟨rfl, rfl⟩ := List.cons.inj h
          exact Or.inr ⟨more, after, rfl, by simp⟩
      · rintro (⟨rfl, rfl⟩ | ⟨more, after, rfl, rfl⟩)
        · exact ⟨[], rest, rfl, by simp⟩
        · exact ⟨c :: more, after, rfl, by simp⟩
    rw [step, ← ih]
    by_cases hc : c = '/'
    · simp [ancestorsFrom, hc, upTo]
    · simp [ancestorsFrom, hc]

theorem mem_ancestors {path a : String} : a ∈ ancestors path ↔ IsAncestor path a := by
  simp [ancestors, IsAncestor, mem_ancestorsFrom]

theorem length_upTo (before : List Char) : (upTo before).length = max 1 before.length := by
  cases before with
  | nil => rfl
  | cons c before => simp [upTo, Nat.add_comm]

/-- Ancestors are never empty. -/
theorem ne_empty_of_isAncestor {path a : String} (h : IsAncestor path a) : a ≠ "" := by
  obtain ⟨before, -, -, rfl⟩ := h
  intro h
  have : (upTo before).length = 0 := by rw [h]; rfl
  rw [length_upTo] at this
  omega

/-- The ancestors come shortest first. -/
theorem pairwise_ancestorsFrom (before rest : List Char) :
    (ancestorsFrom before rest).Pairwise fun a b => a.length ≤ b.length := by
  induction rest generalizing before with
  | nil => exact .nil
  | cons c rest ih =>
    by_cases hc : c = '/'
    · rw [ancestorsFrom, if_pos hc]
      refine List.Pairwise.cons (fun b hb => ?_) (ih _)
      obtain ⟨more, after, -, rfl⟩ := mem_ancestorsFrom.mp hb
      have hhead : String.ofList (if before.isEmpty then ['/'] else before.reverse) =
          upTo before.reverse := by simp [upTo]
      rw [hhead, length_upTo, length_upTo]
      simp only [List.length_append, List.length_reverse, List.length_cons]
      omega
    · rw [ancestorsFrom, if_neg hc]
      exact ih _

/-- The ancestors of a path come longest first. -/
theorem pairwise_ancestors (path : String) :
    (ancestors path).Pairwise fun a b => b.length ≤ a.length :=
  List.pairwise_reverse.mpr (pairwise_ancestorsFrom [] path.toList)

/-- Two ancestors of a path that are equally long are the same. -/
theorem eq_of_length_eq {path a b : String} (ha : IsAncestor path a) (hb : IsAncestor path b)
    (h : a.length = b.length) : a = b := by
  obtain ⟨before, after, hp, rfl⟩ := ha
  obtain ⟨before', after', hp', rfl⟩ := hb
  rw [length_upTo, length_upTo] at h
  rw [hp] at hp'
  -- both are read off the beginning of the path, the slash itself where nothing stands before it
  cases before with
  | nil =>
    cases before' with
    | nil => rfl
    | cons c before' =>
      obtain rfl : before' = [] := by
        cases before' with
        | nil => rfl
        | cons d before' => simp at h
      obtain ⟨rfl, -⟩ := List.cons.inj hp'
      rfl
  | cons c before =>
    cases before' with
    | nil =>
      obtain rfl : before = [] := by
        cases before with
        | nil => rfl
        | cons d before => simp at h
      obtain ⟨rfl, -⟩ := List.cons.inj hp'
      rfl
    | cons d before' =>
      have hl : (c :: before).length = (d :: before').length := by simpa using h
      rw [(List.append_inj hp' hl).1]

/-! ### The rule -/

/-- The answer that a set of registered commands gives for a path: the path itself, else the
**longest** registered ancestor, else nothing. -/
inductive Serves (registered : String → Bool) (path : String) : Option String → Prop where
  | exact (h : registered path = true) : Serves registered path (some path)
  | ancestor (a : String) (h : registered path = false) (isAncestor : IsAncestor path a)
      (served : registered a = true)
      (longest : ∀ b, IsAncestor path b → registered b = true → b.length ≤ a.length) :
      Serves registered path (some a)
  | nothing (h : registered path = false)
      (unserved : ∀ b, IsAncestor path b → registered b = false) :
      Serves registered path none

theorem find?_ancestors_eq_some {registered : String → Bool} {path a : String}
    (h : (ancestors path).find? registered = some a) :
    IsAncestor path a ∧ registered a = true ∧
      ∀ b, IsAncestor path b → registered b = true → b.length ≤ a.length := by
  obtain ⟨ha, before, after, hsplit, hbefore⟩ := List.find?_eq_some_iff_append.mp h
  have hmem : a ∈ ancestors path := by simp [hsplit]
  refine ⟨mem_ancestors.mp hmem, ha, fun b hb hr => ?_⟩
  have hpair := pairwise_ancestors path
  rw [hsplit, List.pairwise_append, List.pairwise_cons] at hpair
  have hb := mem_ancestors.mpr hb
  rw [hsplit] at hb
  simp only [List.mem_append, List.mem_cons] at hb
  rcases hb with hb | rfl | hb
  · have := hbefore b hb
    simp [hr] at this
  · exact le_rfl
  · exact hpair.2.1.1 b hb

/-- Looking a path up obeys the rule. -/
theorem serves_lookup (registered : String → Bool) (path : String) :
    Serves registered path (lookup registered path) := by
  unfold lookup
  cases h : registered path with
  | true => exact .exact h
  | false =>
    cases hf : (ancestors path).find? registered with
    | none =>
      refine .nothing h fun b hb => ?_
      have := List.find?_eq_none.mp hf b (mem_ancestors.mpr hb)
      simpa using this
    | some a =>
      obtain ⟨ha, hr, hmax⟩ := find?_ancestors_eq_some hf
      exact .ancestor a h ha hr hmax

/-- The rule admits one answer. -/
theorem Serves.unique {registered : String → Bool} {path : String} {x y : Option String}
    (hx : Serves registered path x) (hy : Serves registered path y) : x = y := by
  cases hx with
  | exact h =>
    cases hy with
    | exact => rfl
    | ancestor a h' => simp [h] at h'
    | nothing h' => simp [h] at h'
  | ancestor a h ha hr hmax =>
    cases hy with
    | exact h' => simp [h] at h'
    | ancestor b _ hb hr' hmax' =>
      rw [eq_of_length_eq ha hb (le_antisymm (hmax' a ha hr) (hmax b hb hr'))]
    | nothing _ hn => simp [hn a ha] at hr
  | nothing h hn =>
    cases hy with
    | exact h' => simp [h] at h'
    | ancestor b _ hb hr' => simp [hn b hb] at hr'
    | nothing => rfl

/-- Looking a path up gives the one answer of the rule. -/
theorem lookup_eq_iff {registered : String → Bool} {path : String} {answer : Option String} :
    lookup registered path = answer ↔ Serves registered path answer :=
  ⟨fun h => h ▸ serves_lookup registered path, fun h => (serves_lookup registered path).unique h⟩

/-- The empty command serves the empty path only. -/
theorem Serves.ne_empty {registered : String → Bool} {path command : String}
    (h : Serves registered path (some command)) (hp : path ≠ "") : command ≠ "" := by
  cases h with
  | exact => exact hp
  | ancestor _ _ ha => exact ne_empty_of_isAncestor ha

end Route

/-! ### The memo -/

namespace RouteMemo

/-- A memo is **sound** for a roster if it is not ahead of it and, as long as it is not behind
either, every answer it remembers is the one that searching the ancestors again would give. -/
structure Sound (m : RouteMemo) (r : Roster) : Prop where
  generation_le : m.generation ≤ r.generation
  answers : m.generation = r.generation → ∀ e ∈ m.entries,
    (Route.ancestors e.1).find? r.contains = some e.2

theorem sound_ofCapacity (capacity : Nat) (r : Roster) : Sound (ofCapacity capacity) r where
  generation_le := Nat.zero_le _
  answers := by simp [ofCapacity]

/-- After a registration nothing that is remembered counts any more. -/
theorem Sound.register {m : RouteMemo} {r : Roster} (h : Sound m r) (command : String)
    (t : Template) : Sound m (r.register command t) where
  generation_le := h.generation_le.trans (Nat.le_succ _)
  answers hg := by
    have := h.generation_le
    rw [Roster.generation_register] at hg
    omega

/-- A memo brought to a generation: what it remembers of another one is forgotten. -/
def refresh (m : RouteMemo) (generation : Nat) : RouteMemo :=
  if m.generation = generation then m else { m with generation, entries := [] }

@[simp] theorem generation_refresh (m : RouteMemo) (generation : Nat) :
    (m.refresh generation).generation = generation := by
  unfold refresh
  split
  · assumption
  · rfl

theorem bound_refresh (m : RouteMemo) (generation : Nat) :
    (m.refresh generation).bound = m.bound := by
  unfold refresh
  split <;> rfl

theorem scans_refresh (m : RouteMemo) (generation : Nat) :
    (m.refresh generation).scans = m.scans := by
  unfold refresh
  split <;> rfl

theorem Sound.refresh {m : RouteMemo} {r : Roster} (h : Sound m r) :
    Sound (m.refresh r.generation) r where
  generation_le := (generation_refresh m _).le
  answers _ := by
    unfold RouteMemo.refresh
    split
    · exact h.answers ‹_›
    · simp

theorem lookUp_eq (m : RouteMemo) (generation : Nat) (path : String) :
    m.lookUp generation path =
      match (m.refresh generation).entries.find? fun e => e.1 == path with
      | some e => ({ m.refresh generation with
          entries := e :: (m.refresh generation).entries.filter fun d => d.1 != path }, some e.2)
      | none => (m.refresh generation, none) := rfl

/-- Looking into a memo leaves it sound and in the roster's generation, and finds nothing but what
searching would find. -/
theorem Sound.lookUp {m : RouteMemo} {r : Roster} (h : Sound m r) (path : String) :
    Sound (m.lookUp r.generation path).1 r ∧
      ∀ command, (m.lookUp r.generation path).2 = some command →
        (Route.ancestors path).find? r.contains = some command := by
  have hn := h.refresh
  have hgen := generation_refresh m r.generation
  have hsound := hn.answers hgen
  rw [lookUp_eq]
  cases hf : (m.refresh r.generation).entries.find? fun e => e.1 == path with
  | none => exact ⟨hn, by simp⟩
  | some e =>
    have he : e ∈ (m.refresh r.generation).entries := List.mem_of_find?_eq_some hf
    have hpath : e.1 = path := by simpa using List.find?_some hf
    refine ⟨⟨hgen.le, fun _ d hd => ?_⟩, ?_⟩
    · rcases List.mem_cons.mp hd with rfl | hd
      · exact hsound d he
      · exact hsound d (List.mem_of_mem_filter hd)
    · rintro command hc
      obtain rfl := Option.some.inj hc
      exact hpath ▸ hsound e he

/-- What is remembered was just found by searching. -/
theorem Sound.remember {m : RouteMemo} {r : Roster} (h : Sound m r) {path command : String}
    (found : (Route.ancestors path).find? r.contains = some command) :
    Sound (m.remember r.generation path command) r := by
  unfold RouteMemo.remember
  split
  · refine ⟨h.generation_le, fun hg e he => ?_⟩
    rcases List.mem_cons.mp (List.mem_of_mem_take he) with rfl | he
    · exact found
    · exact h.answers hg e (List.mem_of_mem_filter he)
  · exact h

/-- Resolving a path leaves a sound memo sound and gives the answer of the plain rule. -/
theorem Sound.resolve {m : RouteMemo} {r : Roster} (h : Sound m r) (path : String) :
    Sound (m.resolve r path).1 r ∧ (m.resolve r path).2 = Route.lookup r.contains path := by
  unfold RouteMemo.resolve Route.lookup
  split
  · exact ⟨h, rfl⟩
  · obtain ⟨hsound, hfound⟩ := h.lookUp path
    revert hsound hfound
    cases m.lookUp r.generation path with
    | mk n found =>
      intro hsound hfound
      cases found with
      | some command => exact ⟨hsound, (hfound command rfl).symm⟩
      | none =>
        have hcount : Sound n.countScan r := ⟨hsound.generation_le, hsound.answers⟩
        dsimp only
        cases hf : (Route.ancestors path).find? r.contains with
        | none => exact ⟨hcount, rfl⟩
        | some command => exact ⟨hcount.remember hf, rfl⟩

end RouteMemo

/-! ### Histories -/

namespace Routing

/-- What happens to a roster and the memo of its routes. -/
inductive Act where
  | register (command : String) (t : Template)
  | resolve (path : String)

/-- A roster without handlers and a memo without answers. -/
def blank (low high capacity : Nat) : Routing where
  roster := .empty low high
  memo := .ofCapacity capacity

/-- The answer for a path at present. -/
def answer (r : Routing) (path : String) : Option String := (r.memo.resolve r.roster path).2

/-- What one act leaves behind. -/
def perform (r : Routing) : Act → Routing
  | .register command t => { r with roster := r.roster.register command t }
  | .resolve path => { r with memo := (r.memo.resolve r.roster path).1 }

/-- What a history of acts leaves behind. -/
def after (r : Routing) (acts : List Act) : Routing := acts.foldl perform r

/-- The commands that a history registers. -/
def registered (acts : List Act) : List String :=
  acts.filterMap fun
    | .register command _ => some command
    | .resolve _ => none

/-- One act keeps the memo sound. -/
theorem sound_perform {r : Routing} (h : r.memo.Sound r.roster) (act : Act) :
    (r.perform act).memo.Sound (r.perform act).roster := by
  cases act with
  | register command t => exact h.register command t
  | resolve path => exact (h.resolve path).1

/-- Any history keeps the memo sound. -/
theorem sound_after {r : Routing} (h : r.memo.Sound r.roster) (acts : List Act) :
    (r.after acts).memo.Sound (r.after acts).roster := by
  induction acts generalizing r with
  | nil => exact h
  | cons act acts ih => exact ih (sound_perform h act)

/-- After a history the registered commands are those of before and those it registered. -/
theorem contains_after (r : Routing) (acts : List Act) (command : String) :
    (r.after acts).roster.contains command =
      (r.roster.contains command || (registered acts).contains command) := by
  induction acts generalizing r with
  | nil => simp [after, registered]
  | cons act acts ih =>
    have step : (r.after (act :: acts)).roster.contains command =
        ((r.perform act).roster.contains command || (registered acts).contains command) :=
      ih (r.perform act)
    rw [step]
    cases act with
    | register c t =>
      simp only [perform, registered, Roster.contains_register, List.filterMap_cons,
        List.contains_cons]
      rw [← Bool.or_assoc, Bool.or_comm (r.roster.contains command)]
      rfl
    | resolve path => rfl

/-- **Transparency**: after every history of registering and resolving, with a memo of any
capacity, a path is answered by the rule for the commands registered by then; so the empty command
serves no other path than the empty one. -/
theorem answer_after_eq_iff (low high capacity : Nat) (acts : List Act) (path : String)
    (found : Option String) :
    (((blank low high capacity).after acts).answer path = found ↔
      Route.Serves (registered acts).contains path found) ∧
    (path ≠ "" → ((blank low high capacity).after acts).answer path ≠ some "") := by
  have hsound := sound_after (r := blank low high capacity)
    (RouteMemo.sound_ofCapacity capacity (.empty low high)) acts
  have hcontains : ((blank low high capacity).after acts).roster.contains =
      (registered acts).contains := by
    funext command
    simp [contains_after, blank]
  have hanswer : ((blank low high capacity).after acts).answer path =
      Route.lookup (registered acts).contains path := by
    rw [← hcontains]
    exact (hsound.resolve path).2
  refine ⟨by rw [hanswer]; exact Route.lookup_eq_iff, fun hp h => ?_⟩
  rw [hanswer] at h
  exact (Route.lookup_eq_iff.mp h).ne_empty hp rfl

end Routing

end Switchboard
