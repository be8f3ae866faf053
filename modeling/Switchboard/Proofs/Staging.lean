import Switchboard.Proofs.Interleaving
import Switchboard.Proofs.Roster
import Switchboard.Roster.Thread

/-!
# Instances at large

While templates are registered and replaced, instances are staged, taken and handed out by many
threads at a time. `Roster.Effect` says what one move can do to the stock and to what a thread
holds: instances only pass from one hand to another, and at most one more is made. So no instance
is ever in two places (`Roster.Sound`).

A thread that takes an instance goes by what it has heard of the registrations. Template numbers
grow, so what it hears after a template was registered is not older than that template.

Main statement: `Roster.private_and_current`. What is staged for a command are copies of the
template registered for it; what is handed out was made as a copy, is handed out once, and is staged
nowhere; and whoever starts after a template was registered is served a copy of that template or of
one registered later.
-/

namespace Switchboard

namespace Roster

variable {r r' r'' : Roster} {key : String} {i : Instance} {n : ℕ}

/-! ### Copies -/

/-- An instance was made as a copy of its template, and was never run. -/
def Made (r : Roster) (i : Instance) : Prop :=
  i.uses = 0 ∧ 0 < i.number ∧
    ∃ t made, r.templates[i.template]? = some (t, made) ∧ i.number ≤ made

/-- All staged instances. -/
def allStaged (r : Roster) : Multiset Instance :=
  (r.registrations.map fun e => (e.staged : Multiset Instance)).sum

theorem mem_allStaged_iff : i ∈ r.allStaged ↔ ∃ e ∈ r.registrations, i ∈ e.staged := by
  unfold allStaged
  induction r.registrations with
  | nil => simp
  | cons e rest ih => simp [ih]

/-- Time goes by: templates are added, copies are made, and commands are served by later templates
if not by the same. -/
structure Later (r r' : Roster) : Prop where
  templates : r.templates.map Prod.fst <+: r'.templates.map Prod.fst
  made : ∀ i, r.Made i → r'.Made i
  serves : ∀ key n, r.template? key = some n → ∃ n', n ≤ n' ∧ r'.template? key = some n'

/-- This template has this number, and the command is served by it or by a later one. -/
def Stands (r : Roster) (key : String) (t : Template) (n : ℕ) : Prop :=
  (r.templates.map Prod.fst)[n]? = some t ∧ ∃ n', n ≤ n' ∧ r.template? key = some n'

theorem Stands.later {t : Template} (h : r.Stands key t n) (hlater : Later r r') :
    r'.Stands key t n := by
  obtain ⟨ht, n₁, hle₁, hn₁⟩ := h
  obtain ⟨n₂, hle₂, hn₂⟩ := hlater.serves key n₁ hn₁
  obtain ⟨added, hadded⟩ := hlater.templates
  refine ⟨?_, n₂, hle₁.trans hle₂, hn₂⟩
  rw [← hadded, List.getElem?_append_left (List.getElem?_eq_some_iff.mp ht).1, ht]

theorem Alike.later (h : Alike r r') (made : ∀ i, r.Made i → r'.Made i) : Later r r' where
  templates := h.templates.symm ▸ List.prefix_refl _
  made := made
  serves key n hn := ⟨n, le_rfl, (h.serves key).trans hn⟩

/-- Where no template is added and no copy made, the same copies were made. -/
theorem later_of_templates (templates : r'.templates = r.templates)
    (serves : ∀ key, r'.template? key = r.template? key) : Later r r' where
  templates := templates ▸ List.prefix_refl _
  made i hi := by
    unfold Made
    rwa [templates]
  serves key n hn := ⟨n, le_rfl, (serves key).trans hn⟩

theorem template?_install (r : Roster) (command : String) (t : Template) (key : String) :
    (r.install command t).template? key =
      if key = command then some r.templates.length else r.template? key := by
  unfold template? find? install
  rw [find?_put]
  split <;> rfl

theorem later_install (h : r.Stocked) (command : String) (t : Template) :
    Later r (r.install command t) where
  templates := by
    unfold install
    rw [List.map_append]
    exact List.prefix_append _ _
  made := by
    rintro i ⟨huses, hpos, t', made, ht, hle⟩
    refine ⟨huses, hpos, t', made, ?_, hle⟩
    rw [install, List.getElem?_append_left (List.getElem?_eq_some_iff.mp ht).1, ht]
  serves key n hn := by
    rw [template?_install]
    split
    · exact ⟨_, (h.lt_of_template? hn).le, rfl⟩
    · exact ⟨n, le_rfl, hn⟩

/-- A template that takes a command over finds nothing staged. -/
theorem allStaged_install_le (r : Roster) (command : String) (t : Template) :
    (r.install command t).allStaged ≤ r.allStaged := by
  unfold allStaged install
  dsimp only
  induction r.registrations with
  | nil => simp [put]
  | cons d rest ih =>
    unfold put
    split
    · simp
    · simpa using ih

/-- Changing what is staged for one command. -/
theorem Stocked.allStaged_update (h : r.Stocked) {e : Registration} (hfound : r.find? key = some e)
    (f : Registration → List Instance) : ∃ rest : Multiset Instance, r.allStaged = e.staged + rest ∧
      (r.update key fun e => { e with staged := f e }).allStaged = f e + rest := by
  obtain ⟨hkey, before, after, hsplit, -⟩ := List.find?_eq_some_iff_append.mp hfound
  have hkey : e.command = key := by simpa using hkey
  have hothers : ∀ d ∈ before ++ after, d.command ≠ key := by
    intro d hd hdk
    have hdistinct := h.distinct
    rw [hsplit, List.map_append, List.map_cons, List.nodup_middle] at hdistinct
    refine (List.nodup_cons.mp hdistinct).1 ?_
    rw [hkey, ← hdk, ← List.map_append]
    exact List.mem_map_of_mem hd
  have hsame : ∀ l : List Registration, (∀ d ∈ l, d.command ≠ key) →
      l.map (fun d => if d.command = key then { d with staged := f d } else d) = l := by
    intro l hl
    refine (List.map_congr_left fun d hd => ?_).trans (List.map_id l)
    rw [if_neg (hl d hd), id]
  refine ⟨((before ++ after).map fun e => (e.staged : Multiset Instance)).sum, ?_, ?_⟩
  · unfold allStaged
    rw [hsplit, Crowd.sum_map_thread]
  · unfold allStaged Roster.update
    rw [hsplit, List.map_append, List.map_cons, if_pos hkey,
      hsame before fun d hd => hothers d (List.mem_append_left _ hd),
      hsame after fun d hd => hothers d (List.mem_append_right _ hd), Crowd.sum_map_thread]

/-- What is claimed is no longer staged. -/
theorem Stocked.allStaged_claim (h : r.Stocked) (key : String) :
    (r.claim key).1.allStaged + ((r.claim key).2.1.toList : Multiset Instance) = r.allStaged := by
  unfold Roster.claim
  cases hfound : r.find? key with
  | none => simp
  | some e =>
    obtain ⟨rest, hall, hupdate⟩ := h.allStaged_update hfound fun _ => e.staged.dropLast
    change (r.update key fun d => { d with staged := e.staged.dropLast }).allStaged + _ = _
    have hstaged : e.staged.dropLast ++ e.staged.getLast?.toList = e.staged := by
      cases hlast : e.staged.getLast? with
      | none => simp [List.getLast?_eq_none_iff.mp hlast]
      | some i => exact List.dropLast_append_getLast? i hlast
    rw [hupdate, hall, add_right_comm, Multiset.coe_add, hstaged]

/-- An instance that is offered is staged, or it is turned down and nothing changes. -/
theorem Stocked.allStaged_offer (h : r.Stocked) (key : String) (i : Instance) :
    (r.offer key i).1.allStaged = if (r.offer key i).2 then i ::ₘ r.allStaged else r.allStaged := by
  unfold Roster.offer
  cases hfound : r.find? key with
  | none => rfl
  | some e =>
    dsimp only
    split
    · obtain ⟨rest, hall, hupdate⟩ := h.allStaged_update hfound fun e => e.staged ++ [i]
      rw [hupdate, hall, if_pos rfl, ← Multiset.coe_add, Multiset.coe_singleton, add_right_comm,
        add_comm, Multiset.singleton_add]
    · rfl

theorem templates_claim (r : Roster) (key : String) : (r.claim key).1.templates = r.templates := by
  unfold claim
  split <;> rfl

theorem templates_offer (r : Roster) (key : String) (i : Instance) :
    (r.offer key i).1.templates = r.templates := by
  unfold offer
  split
  · rfl
  · split <;> rfl

@[simp] theorem allStaged_copy (r : Roster) (n : ℕ) : (r.copy n).1.allStaged = r.allStaged := by
  unfold copy
  split <;> rfl

/-- A copy that is made was not made before. -/
theorem made_copy (h : (r.copy n).2 = some i) : ¬ r.Made i ∧ (r.copy n).1.Made i := by
  unfold copy at h ⊢
  cases hn : r.templates[n]? with
  | none => rw [hn] at h; cases h
  | some entry =>
    obtain ⟨t, made⟩ := entry
    rw [hn] at h
    dsimp only at h ⊢
    split at h
    · cases h
    · obtain rfl := Option.some.inj h
      constructor
      · rintro ⟨-, -, t', made', ht', hle⟩
        obtain ⟨-, rfl⟩ := Prod.mk.inj (Option.some.inj (hn.symm.trans ht'))
        exact absurd hle (by simp)
      · refine ⟨rfl, Nat.succ_pos _, t, made + 1, ?_, le_rfl⟩
        exact List.getElem?_set_self (List.getElem?_eq_some_iff.mp hn).1

/-- Making another copy unmakes none. -/
theorem Made.copy (hi : r.Made i) (n : ℕ) : (r.copy n).1.Made i := by
  obtain ⟨huses, hpos, t, made, ht, hle⟩ := hi
  unfold Roster.copy
  cases hn : r.templates[n]? with
  | none => exact ⟨huses, hpos, t, made, ht, hle⟩
  | some entry =>
    obtain ⟨t', made'⟩ := entry
    refine ⟨huses, hpos, ?_⟩
    dsimp only
    by_cases hni : n = i.template
    · subst hni
      obtain ⟨rfl, rfl⟩ := Prod.mk.inj (Option.some.inj (hn.symm.trans ht))
      exact ⟨t', made' + 1, List.getElem?_set_self (List.getElem?_eq_some_iff.mp hn).1, by omega⟩
    · exact ⟨t, made, (List.getElem?_set_ne hni).trans ht, hle⟩

/-! ### What a thread has -/

/-- The instance that someone who stages copies has in hands. -/
def Filler.holdings : Filler → Multiset Instance
  | offering _ i => {i}
  | _ => 0

/-- The instance that someone who takes one has in hands. -/
def Taker.holdings : Taker → Multiset Instance
  | spawning _ _ staged => staged.toList
  | served _ i => {i}
  | _ => 0

/-- What someone who takes an instance has heard of the registrations: which template serves which
command. -/
def Taker.heard : Taker → List (String × ℕ)
  | claiming key template => [(key, template)]
  | spawning key template staged => (key, template) :: staged.toList.map fun i => (key, i.template)
  | copying key template => [(key, template)]
  | served key i => [(key, i.template)]
  | _ => []

namespace Thread

/-- The instances that a thread has in hands. -/
def holdings : Thread → Multiset Instance
  | taker t => t.holdings
  | refill _ f => f.holdings
  | stager f _ => f.holdings
  | _ => 0

/-- What a thread has heard of the registrations. -/
def heard : Thread → List (String × ℕ)
  | taker t => t.heard
  | _ => []

/-- What a thread has registered: a command with the number of the template. -/
def posts : Thread → List (String × ℕ)
  | registrar (.announcing command template) => [(command, template)]
  | registrar (.registered command template) => [(command, template)]
  | _ => []

@[simp] theorem heard_taker (t : Taker) : (taker t).heard = t.heard := rfl

@[simp] theorem posts_taker (t : Taker) : (taker t).posts = [] := rfl

/-- A thread that has not done anything yet. -/
inductive Fresh : Thread → Prop where
  | registrar (command : String) (t : Template) : Fresh (.registrar (.installing command t))
  | taker (command : String) : Fresh (.taker (.looking command))
  | stocktaker : Fresh .stocktaker

end Thread

/-! ### What a move can do -/

/-- What a move does to a roster and to the thread that makes it. -/
structure Effect (r : Roster) (t : Thread) (r' : Roster) (t' : Thread) : Prop where
  stocked : r'.Stocked
  later : Later r r'
  /-- Instances pass from hand to hand, and at most one is made. -/
  holdings : r'.allStaged + t'.holdings ≤ r.allStaged + t.holdings ∨
    ∃ i, ¬ r.Made i ∧ r'.Made i ∧ r'.allStaged + t'.holdings ≤ i ::ₘ (r.allStaged + t.holdings)
  posts : t.posts ⊆ t'.posts
  /-- Whatever serves a command was registered by some thread. -/
  serves : ∀ key n, r'.template? key = some n → r.template? key = some n ∨ (key, n) ∈ t'.posts
  heard : ∀ x ∈ t'.heard, x ∈ t.heard ∨ r.template? x.1 = some x.2

variable {t t' : Thread}

/-- A move that leaves the templates and the stock alone. -/
theorem Effect.of_templates (stocked : r'.Stocked) (templates : r'.templates = r.templates)
    (serves : ∀ key, r'.template? key = r.template? key) (staged : r'.allStaged = r.allStaged)
    (holdings : t'.holdings ≤ t.holdings) (posts : t.posts ⊆ t'.posts)
    (heard : ∀ x ∈ t'.heard, x ∈ t.heard ∨ r.template? x.1 = some x.2) : Effect r t r' t' where
  stocked := stocked
  later := later_of_templates templates serves
  holdings := .inl (by rw [staged]; exact Multiset.add_le_add_left holdings)
  posts := posts
  serves key n hn := .inl ((serves key).symm.trans hn)
  heard := heard

theorem effect_unmark (h : r.Stocked) (key : String) (holdings : t'.holdings ≤ t.holdings)
    (posts : t.posts ⊆ t'.posts)
    (heard : ∀ x ∈ t'.heard, x ∈ t.heard ∨ r.template? x.1 = some x.2) :
    Effect r t (r.unmark key) t' :=
  .of_templates ⟨h.distinct, h.known, h.staged⟩ rfl (fun _ => rfl) rfl holdings posts heard

theorem effect_pass (h : r.Stocked) (holdings : t'.holdings ≤ t.holdings)
    (posts : t.posts ⊆ t'.posts)
    (heard : ∀ x ∈ t'.heard, x ∈ t.heard ∨ r.template? x.1 = some x.2) : Effect r t r t' :=
  .of_templates h rfl (fun _ => rfl) rfl holdings posts heard

theorem effect_install (h : r.Stocked) (command : String) (template : Template) :
    Effect r (.registrar (.installing command template)) (r.install command template)
      (.registrar (.announcing command r.templates.length)) where
  stocked :=
    have hregister := h.register command template
    ⟨hregister.distinct, hregister.known, hregister.staged⟩
  later := later_install h command template
  holdings := .inl (Multiset.add_le_add_right (allStaged_install_le r command template))
  posts := List.nil_subset _
  serves key n hn := by
    rw [template?_install] at hn
    split at hn
    · next hkey =>
      obtain rfl := Option.some.inj hn
      exact .inr (List.mem_singleton.mpr (by rw [hkey]))
    · exact .inl hn
  heard x hx := nomatch hx

/-- A copy that is made comes into the hands of the thread. -/
theorem effect_copy (h : r.Stocked) {template : ℕ} {made : Option Instance}
    (hcopy : r.copy template = (r', made)) (nothing : t.posts = [])
    (holdings : t'.holdings = (made.toList : Multiset Instance))
    (heard : ∀ x ∈ t'.heard, x ∈ t.heard ∨ ∃ i ∈ made, ∃ key, x = (key, i.template) ∧
      (key, template) ∈ t.heard) : Effect r t r' t' := by
  obtain ⟨halike, hstocked, htemplate⟩ := h.copy template
  have hall := r.allStaged_copy template
  have hmade := fun i (hi : (r.copy template).2 = some i) => made_copy hi
  have hkept := fun i (hi : r.Made i) => hi.copy template
  rw [hcopy] at halike hstocked htemplate hall hmade hkept
  refine ⟨hstocked, halike.later hkept, ?_, by simp [nothing],
    fun key n hn => .inl ((halike.serves key).symm.trans hn), fun x hx => ?_⟩
  · rw [holdings, hall]
    cases made with
    | none => exact .inl (by simp)
    | some i =>
      refine .inr ⟨i, (hmade i rfl).1, (hmade i rfl).2, ?_⟩
      rw [← Multiset.singleton_add, add_comm]
      exact Multiset.add_le_add_left (Multiset.le_add_right _ _)
  · rcases heard x hx with hx | ⟨i, hi, key, rfl, hkey⟩
    · exact .inl hx
    · rw [htemplate i hi]
      exact .inl hkey

/-- An instance that is offered leaves the hands of the thread, whether it is staged or not. -/
theorem effect_offer (h : r.Stocked) {answer : Bool} (hoffer : r.offer key i = (r', answer))
    (nothing : t.posts = []) (holdings : t.holdings = {i}) (holdings' : t'.holdings = 0)
    (silent : t'.heard = []) : Effect r t r' t' := by
  obtain ⟨halike, hstocked⟩ := h.offer key i
  have hall := h.allStaged_offer key i
  have htemplates := r.templates_offer key i
  rw [hoffer] at halike hstocked hall htemplates
  refine ⟨hstocked, later_of_templates htemplates halike.serves, .inl ?_, by simp [nothing],
    fun key n hn => .inl ((halike.serves key).symm.trans hn), by simp [silent]⟩
  rw [hall, holdings, holdings', add_zero, add_comm, Multiset.singleton_add]
  cases answer with
  | true => exact le_rfl
  | false => exact Multiset.le_cons_self _ _

/-- A step of someone who stages copies. -/
theorem effect_filler (h : r.Stocked) {f f' : Filler} (hf : f.step r = some (r', f'))
    (nothing : t.posts = []) (silent : t'.heard = []) (holdings : t.holdings = f.holdings)
    (holdings' : t'.holdings = f'.holdings) : Effect r t r' t' := by
  cases f with
  | copying key template =>
    rcases hcopy : r.copy template with ⟨r₁, _ | i⟩
    all_goals
      simp only [Filler.step, hcopy, Option.some.injEq, Prod.mk.injEq] at hf
      obtain ⟨rfl, rfl⟩ := hf
      exact effect_copy h hcopy nothing holdings' (by simp [silent])
  | offering key i =>
    rcases hoffer : r.offer key i with ⟨r₁, _ | _⟩
    all_goals
      simp only [Filler.step, hoffer, Option.some.injEq, Prod.mk.injEq] at hf
      obtain ⟨rfl, rfl⟩ := hf
      exact effect_offer h hoffer nothing holdings holdings' silent
  | filled | panicked => cases hf

/-- What is claimed comes into the hands of the thread, which has heard of the registration that it
belongs to. -/
theorem effect_claim (h : r.Stocked) {staged : Option Instance} {refills : Bool}
    (hclaim : r.claim key = (r', staged, refills))
    (holdings : t'.holdings = (staged.toList : Multiset Instance)) (nothing : t.posts = [])
    (heard : ∀ x ∈ t'.heard, x ∈ t.heard ∨ ∃ i ∈ staged, x = (key, i.template)) :
    Effect r t r' t' := by
  obtain ⟨halike, hstocked, htemplate⟩ := h.claim key
  have hall := h.allStaged_claim key
  have htemplates := r.templates_claim key
  rw [hclaim] at halike hstocked htemplate hall htemplates
  refine ⟨hstocked, later_of_templates htemplates halike.serves, .inl ?_, by simp [nothing],
    fun key n hn => .inl ((halike.serves key).symm.trans hn), fun x hx => ?_⟩
  · rw [holdings, hall]
    exact Multiset.le_add_right _ _
  · rcases heard x hx with hx | ⟨i, hi, rfl⟩
    · exact .inl hx
    · exact .inr (htemplate i hi)

/-- A move has an effect on the thread that makes it, and starts only threads with empty hands. -/
def Effects (r : Roster) (t : Thread) (m : Move Roster Thread) : Prop :=
  ∃ t', m.self = some t' ∧ Effect r t m.shared t' ∧
    ∀ s ∈ m.started, s.holdings = 0 ∧ s.heard = []

theorem Effects.goOn {m : Move Roster Thread} (hm : Move.goOn r' t' = some m)
    (h : Effect r t r' t') : Effects r t m := by
  obtain rfl := Option.some.inj hm
  exact ⟨t', rfl, h, by simp⟩

/-- A move of someone who takes an instance. -/
theorem effects_taker (h : r.Stocked) {canStart : Bool} {u : Taker} {m : Move Roster Thread}
    (hm : r.moveTaker canStart u = some m) : Effects r (.taker u) m := by
  cases u with
  | looking command =>
    cases hn : r.template? command with
    | none =>
      simp only [moveTaker, hn] at hm
      exact .goOn hm (effect_pass h le_rfl (by simp) (by simp [Taker.heard]))
    | some n =>
      simp only [moveTaker, hn] at hm
      exact .goOn hm (effect_pass h le_rfl (by simp) (by simp [Taker.heard, hn]))
  | fallingBack =>
    cases hn : r.template? defaultCommand with
    | none =>
      simp only [moveTaker, hn] at hm
      exact .goOn hm (effect_pass h le_rfl (by simp) (by simp [Taker.heard]))
    | some n =>
      simp only [moveTaker, hn] at hm
      exact .goOn hm (effect_pass h le_rfl (by simp) (by simp [Taker.heard, hn]))
  | claiming key template =>
    rcases hclaim : r.claim key with ⟨r₁, staged, _ | _⟩
    · simp only [moveTaker, hclaim] at hm
      refine .goOn hm (effect_claim h hclaim ?_ (by simp) ?_)
      · cases staged <;> rfl
      · cases staged <;> simp [Taker.ofClaim, Taker.heard]
    · simp only [moveTaker, hclaim] at hm
      refine .goOn hm (effect_claim h hclaim rfl (by simp) ?_)
      cases staged <;> simp [Taker.heard]
  | spawning key template staged =>
    have hholdings : (Taker.ofClaim key template staged).holdings = staged.toList := by
      cases staged <;> rfl
    have hheard : (Taker.ofClaim key template staged).heard ⊆
        (Taker.spawning key template staged).heard := by
      cases staged <;> simp [Taker.ofClaim, Taker.heard]
    by_cases hstart : canStart = true
    · simp only [moveTaker, if_pos hstart] at hm
      obtain rfl := Option.some.inj hm
      refine ⟨_, rfl, effect_pass h hholdings.le (by simp) fun x hx => .inl (hheard hx), ?_⟩
      simp [Thread.holdings, Thread.heard, Filler.holdings]
    · simp only [moveTaker, if_neg hstart] at hm
      exact .goOn hm (effect_unmark h key hholdings.le (by simp) fun x hx => .inl (hheard hx))
  | copying key template =>
    rcases hcopy : r.copy template with ⟨r₁, _ | i⟩
    all_goals
      simp only [moveTaker, hcopy] at hm
      exact .goOn hm (effect_copy h hcopy (by simp) rfl (by simp [Taker.heard]))
  | served | unserved | panicked => cases hm

/-- A move of someone who stages copies, whatever this is part of. -/
theorem effects_filler (h : r.Stocked) (thread : Filler → Thread) {f : Filler}
    {m : Move Roster Thread}
    (hm : ((f.step r).bind fun (r, f) => Move.goOn r (thread f)) = some m)
    (nothing : (thread f).posts = []) (silent : ∀ f, (thread f).heard = [])
    (holdings : ∀ f, (thread f).holdings = f.holdings) : Effects r (thread f) m := by
  obtain ⟨⟨r', f'⟩, hf, hm⟩ := Option.bind_eq_some_iff.mp hm
  exact .goOn hm (effect_filler h hf nothing (silent f') (holdings f) (holdings f'))

theorem effects_of_move (h : r.Stocked) {canStart : Bool} {m : Move Roster Thread}
    (hm : move canStart r t = some m) : Effects r t m := by
  cases t with
  | registrar g =>
    cases g with
    | installing command template => exact .goOn hm (effect_install h command template)
    | announcing command template =>
      exact .goOn hm (.of_templates ⟨h.distinct, h.known, h.staged⟩ rfl (fun _ => rfl) rfl le_rfl
        (List.Subset.refl _) (by simp [Thread.heard]))
    | registered command template => cases hm
  | taker u => exact effects_taker h hm
  | refill key f =>
    cases f with
    | filled =>
      exact .goOn hm (effect_unmark h key le_rfl (List.Subset.refl _) (by simp [Thread.heard]))
    | copying | offering | panicked =>
      exact effects_filler h (Thread.refill key) hm rfl (fun _ => rfl) fun _ => rfl
  | refilled key => cases hm
  | stocktaker =>
    exact .goOn hm (effect_pass h le_rfl (List.Subset.refl _) (by simp [Thread.heard]))
  | stager f rest =>
    cases f with
    | filled =>
      cases rest with
      | nil => cases hm
      | cons entry rest =>
        exact .goOn hm (effect_pass h le_rfl (List.Subset.refl _) (by simp [Thread.heard]))
    | copying | offering | panicked =>
      exact effects_filler h (Thread.stager · rest) hm rfl (fun _ => rfl) fun _ => rfl

/-! ### Whose instances they are -/

variable {c d : Crowd Roster Thread}

/-- Everything that was registered so far. -/
def posted (c : Crowd Roster Thread) : List (String × ℕ) := c.threads.flatMap Thread.posts

/-- All instances that are staged or in the hands of a thread. -/
def inventoried (c : Crowd Roster Thread) : Multiset Instance :=
  c.shared.allStaged + (c.threads.map Thread.holdings).sum

/-- The instances at large are in order: each is a copy and in one place only, and whatever is
known of the registrations was registered by some thread. -/
structure Sound (c : Crowd Roster Thread) : Prop where
  stocked : c.shared.Stocked
  nodup : (inventoried c).Nodup
  made : ∀ i ∈ inventoried c, c.shared.Made i
  serves : ∀ key n, c.shared.template? key = some n → (key, n) ∈ posted c
  heard : ∀ t ∈ c.threads, ∀ x ∈ t.heard, x ∈ posted c

/-- A step as an effect on one thread at its place. -/
theorem effect_of_step (h : c.shared.Stocked) (step : Crowd.Step move c d) :
    ∃ canStart t t' m before after, c.threads = before ++ t :: after ∧
      move canStart c.shared t = some m ∧ m.self = some t' ∧
      d = ⟨m.shared, before ++ t' :: after ++ m.started⟩ ∧ Effect c.shared t m.shared t' ∧
      ∀ s ∈ m.started, s.holdings = 0 ∧ s.heard = [] := by
  obtain ⟨canStart, t, m, t', before, after, hthreads, hm, hself, rfl⟩ :=
    step.exists_self fun hm => by
      obtain ⟨t', hself, -⟩ := effects_of_move h hm
      simp [hself]
  obtain ⟨u, hu, heffect, hstarted⟩ := effects_of_move h hm
  obtain rfl : u = t' := Option.some.inj (hu.symm.trans hself)
  exact ⟨canStart, t, u, m, before, after, hthreads, hm, hself, rfl, heffect, hstarted⟩

theorem Sound.step (h : Sound c) (step : Crowd.Step move c d) : Sound d := by
  obtain ⟨_, t, t', m, before, after, hthreads, -, -, rfl, heffect, hstarted⟩ :=
    effect_of_step h.stocked step
  obtain ⟨r, ts⟩ := c
  obtain rfl : ts = _ := hthreads
  have hstarted' : (m.started.map Thread.holdings).sum = 0 :=
    List.sum_eq_zero (by simpa using fun s hs => (hstarted s hs).1)
  -- what the other threads hold stays as it is
  obtain ⟨rest, hbefore, hafter⟩ : ∃ rest, inventoried ⟨r, before ++ t :: after⟩ =
      r.allStaged + t.holdings + rest ∧
      inventoried ⟨m.shared, before ++ t' :: after ++ m.started⟩ =
        m.shared.allStaged + t'.holdings + rest := by
    refine ⟨((before ++ after).map Thread.holdings).sum, ?_, ?_⟩
    · rw [inventoried, Crowd.sum_map_thread, add_assoc]
    · rw [inventoried, List.map_append, List.sum_append, Crowd.sum_map_thread, hstarted', add_zero,
        add_assoc]
  have hposted : posted ⟨r, before ++ t :: after⟩ ⊆
      posted ⟨m.shared, before ++ t' :: after ++ m.started⟩ := by
    intro x hx
    simp only [posted, List.flatMap_append, List.flatMap_cons, List.mem_append] at hx ⊢
    exact .inl (hx.imp_right fun hx => hx.imp_left fun hx => heffect.posts hx)
  have hknown : ∀ key n, r.template? key = some n →
      (key, n) ∈ posted ⟨m.shared, before ++ t' :: after ++ m.started⟩ :=
    fun key n hn => hposted (h.serves key n hn)
  have hmade : ∀ i ∈ r.allStaged + t.holdings + rest, r.Made i := hbefore ▸ h.made
  have hnodup : (r.allStaged + t.holdings + rest).Nodup := hbefore ▸ h.nodup
  refine ⟨heffect.stocked, ?_, ?_, fun key n hn => ?_, fun u hu x hx => ?_⟩
  · rw [hafter]
    rcases heffect.holdings with hle | ⟨i, hnew, -, hle⟩
    · exact Multiset.nodup_of_le (Multiset.add_le_add_right hle) hnodup
    · refine Multiset.nodup_of_le (Multiset.add_le_add_right hle) ?_
      rw [Multiset.cons_add]
      exact Multiset.nodup_cons.mpr ⟨fun hi => hnew (hmade i hi), hnodup⟩
  · rw [hafter]
    intro i hi
    rcases heffect.holdings with hle | ⟨j, -, hj, hle⟩
    · exact heffect.later.made i (hmade i (Multiset.mem_of_le (Multiset.add_le_add_right hle) hi))
    · have hi := Multiset.mem_of_le (Multiset.add_le_add_right hle) hi
      rw [Multiset.cons_add, Multiset.mem_cons] at hi
      rcases hi with rfl | hi
      · exact hj
      · exact heffect.later.made i (hmade i hi)
  · rcases heffect.serves key n hn with hn | hn
    · exact hknown key n hn
    · simp only [posted, List.flatMap_append, List.flatMap_cons, List.mem_append]
      exact .inl (.inr (.inl hn))
  · have hother (hu : u ∈ before ++ t :: after) : x ∈ posted _ := hposted (h.heard u hu x hx)
    simp only [List.mem_append, List.mem_cons] at hu
    rcases hu with (hu | rfl | hu) | hu
    · exact hother (by simp [hu])
    · rcases heffect.heard x hx with hx | hx
      · exact hposted (h.heard t (by simp) x hx)
      · exact hknown x.1 x.2 hx
    · exact hother (by simp [hu])
    · simp [(hstarted u hu).2] at hx

theorem sound_empty (low high : ℕ) {threads : List Thread} (fresh : ∀ t ∈ threads, t.Fresh) :
    Sound ⟨empty low high, threads⟩ := by
  have hnone : ∀ t ∈ threads, t.holdings = 0 ∧ t.heard = [] := fun t ht => by
    cases fresh t ht <;> exact ⟨rfl, rfl⟩
  have hnothing : inventoried ⟨empty low high, threads⟩ = 0 := by
    have hsum : (threads.map Thread.holdings).sum = 0 :=
      List.sum_eq_zero (by simpa using fun t ht => (hnone t ht).1)
    rw [inventoried, hsum]
    rfl
  refine ⟨stocked_empty low high, by simp [hnothing], by simp [hnothing], fun key n hn => ?_,
    fun t ht x hx => ?_⟩
  · cases hn
  · simp [(hnone t ht).2] at hx

/-- What every move keeps while things are in order holds after any number of moves. -/
theorem Sound.keeps {P : Crowd Roster Thread → Prop} (h : Sound c)
    (reach : Crowd.Reaches move c d) (start : P c)
    (step : ∀ {c d}, c.shared.Stocked → P c → Crowd.Step move c d → P d) : Sound d ∧ P d :=
  reach.keeps (P := fun c => Sound c ∧ P c) ⟨h, start⟩
    fun move hc => ⟨hc.1.step move, step hc.1.stocked hc.2 move⟩

/-! ### Who comes later -/

/-- A template stands for a command, and the thread at this place has not heard of older ones. -/
def Informed (key : String) (t : Template) (n k : ℕ) (c : Crowd Roster Thread) : Prop :=
  c.shared.Stands key t n ∧ ∃ u, c.threads[k]? = some u ∧ ∀ n', (key, n') ∈ u.heard → n ≤ n'

theorem Informed.step {k : ℕ} {t : Template} (hc : c.shared.Stocked) (h : Informed key t n k c)
    (step : Crowd.Step move c d) : Informed key t n k d := by
  obtain ⟨_, _, u', m, before, after, hthreads, -, -, rfl, heffect, -⟩ := effect_of_step hc step
  obtain ⟨hstands, v, hv, hheard⟩ := h
  refine ⟨hstands.later heffect.later, ?_⟩
  rw [hthreads] at hv
  rcases Crowd.getElem?_of_moved u' m.started hv with ⟨rfl, hu'⟩ | hv
  · refine ⟨u', hu', fun n' hn' => ?_⟩
    rcases heffect.heard _ hn' with hn' | hn'
    · exact hheard n' hn'
    · obtain ⟨-, n₁, hle, hn₁⟩ := hstands
      obtain rfl : n₁ = n' := Option.some.inj (hn₁.symm.trans hn')
      exact hle
  · exact ⟨v, hv, hheard⟩

/-- The thread at this place is about to register the template for the command or has done so. -/
def Registers (key : String) (t : Template) (k : ℕ) (c : Crowd Roster Thread) : Prop :=
  c.threads[k]? = some (.registrar (.installing key t)) ∨
    ∃ u n, c.threads[k]? = some u ∧ (key, n) ∈ u.posts ∧ c.shared.Stands key t n

theorem Registers.step {k : ℕ} {t : Template} (hc : c.shared.Stocked) (h : Registers key t k c)
    (step : Crowd.Step move c d) : Registers key t k d := by
  obtain ⟨_, u, u', m, before, after, hthreads, hm, hself, rfl, heffect, -⟩ :=
    effect_of_step hc step
  rw [Registers, hthreads] at h
  rcases h with h | ⟨v, n, hv, hn, hstands⟩
  · rcases Crowd.getElem?_of_moved u' m.started h with ⟨rfl, hu'⟩ | h
    · obtain rfl := Option.some.inj hm
      obtain rfl := Option.some.inj hself
      refine .inr ⟨_, c.shared.templates.length, hu', List.mem_singleton_self _, ?_, _, le_rfl, ?_⟩
      · simp [install]
      · exact (template?_install ..).trans (if_pos rfl)
    · exact .inl h
  · have hstands := hstands.later heffect.later
    rcases Crowd.getElem?_of_moved u' m.started hv with ⟨rfl, hu'⟩ | hv
    · exact .inr ⟨u', n, hu', heffect.posts hn, hstands⟩
    · exact .inr ⟨v, n, hv, hn, hstands⟩

/-! ### Private and current -/

/-- What is staged and what was handed out are copies of their own. -/
structure Private (c : Crowd Roster Thread) : Prop where
  /-- Every command has one registration. -/
  distinct : (c.shared.registrations.map (·.command)).Nodup
  /-- What is staged for a command are copies of the template registered for it. -/
  staged : ∀ e ∈ c.shared.registrations, ∀ i ∈ e.staged,
    i.template = e.template ∧ c.shared.Made i
  /-- What was handed out is a copy of a template that was registered for the command, and it is
  staged nowhere. -/
  served : ∀ (k : ℕ) key i, c.threads[k]? = some (.taker (.served key i)) →
    c.shared.Made i ∧ (key, i.template) ∈ posted c ∧ ∀ e ∈ c.shared.registrations, i ∉ e.staged
  /-- No instance was handed out twice. -/
  once : ∀ (k k' : ℕ) key key' i, c.threads[k]? = some (.taker (.served key i)) →
    c.threads[k']? = some (.taker (.served key' i)) → k = k'

theorem mem_sum_holdings {threads : List Thread} {k : ℕ} {t : Thread} (ht : threads[k]? = some t)
    (hi : i ∈ t.holdings) : i ∈ (threads.map Thread.holdings).sum := by
  rw [Crowd.sum_map_place Thread.holdings ht]
  exact Multiset.mem_add.mpr (.inl hi)

/-- What two threads have in hands is not the same. -/
theorem eq_of_mem_holdings {threads : List Thread}
    (h : (threads.map Thread.holdings).sum.Nodup) {k k' : ℕ} {t t' : Thread}
    (ht : threads[k]? = some t) (ht' : threads[k']? = some t') (hi : i ∈ t.holdings)
    (hi' : i ∈ t'.holdings) : k = k' := by
  by_contra hne
  rw [Crowd.sum_map_place Thread.holdings ht, Multiset.nodup_add] at h
  have hmem : t' ∈ threads.eraseIdx k := List.mem_eraseIdx_iff_getElem?.mpr ⟨k', Ne.symm hne, ht'⟩
  obtain ⟨j, hj⟩ := List.mem_iff_getElem?.mp hmem
  exact Multiset.disjoint_left.mp h.2.2 hi (mem_sum_holdings hj hi')

theorem Sound.private (h : Sound c) : Private c where
  distinct := h.stocked.distinct
  staged e he i hi := ⟨h.stocked.staged e he i hi,
    h.made i (Multiset.mem_add.mpr (.inl (mem_allStaged_iff.mpr ⟨e, he, hi⟩)))⟩
  served k key i hk := by
    have hmem : i ∈ (c.threads.map Thread.holdings).sum :=
      mem_sum_holdings hk (Multiset.mem_singleton_self i)
    refine ⟨h.made i (Multiset.mem_add.mpr (.inr hmem)),
      h.heard _ (List.mem_of_getElem? hk) _ (List.mem_singleton_self _), fun e he hi => ?_⟩
    exact Multiset.disjoint_left.mp (Multiset.nodup_add.mp h.nodup).2.2
      (mem_allStaged_iff.mpr ⟨e, he, hi⟩) hmem
  once k k' key key' i hk hk' := eq_of_mem_holdings (Multiset.nodup_add.mp h.nodup).2.1 hk hk'
    (Multiset.mem_singleton_self i) (Multiset.mem_singleton_self i)

/-- **Private and current.** Whatever is registered, taken, refilled and staged by how many threads
and in whatever order, instances are private. Who starts to take an instance when a template was
registered for a command, and is served under that command, gets a copy of that template, unless a
template was registered for the command after it. -/
theorem private_and_current (low high : ℕ) {threads : List Thread} (fresh : ∀ t ∈ threads, t.Fresh)
    (reach : Crowd.Reaches move ⟨empty low high, threads⟩ c) :
    Private c ∧ ∀ (m k : ℕ) key t n command,
      threads[m]? = some (.registrar (.installing key t)) →
      c.threads[m]? = some (.registrar (.registered key n)) →
      c.threads[k]? = some (.taker (.looking command)) →
      ∀ d i, Crowd.Reaches move c d → d.threads[k]? = some (.taker (.served key i)) →
        (∀ n', (key, n') ∈ posted d → n' ≤ n) →
          i.template = n ∧ (d.shared.templates.map Prod.fst)[n]? = some t := by
  have hsound : Sound c := reach.keeps (sound_empty low high fresh) fun step h => h.step step
  refine ⟨hsound.private, fun m k key t n command hinstall hregistered hlooking d i hreach hserved
    hlast => ?_⟩
  obtain ⟨u, n', hu, hn', hstands⟩ : ∃ u n', c.threads[m]? = some u ∧ (key, n') ∈ u.posts ∧
      c.shared.Stands key t n' := by
    have hregisters : Registers key t m c :=
      ((sound_empty low high fresh).keeps reach (.inl hinstall) .step).2
    refine hregisters.resolve_left fun h => ?_
    cases hregistered.symm.trans h
  obtain rfl := Option.some.inj (hregistered.symm.trans hu)
  obtain rfl : n' = n := by simpa [Thread.posts] using hn'
  obtain ⟨hsound', ⟨ht, -⟩, v, hv, hheard⟩ : Sound d ∧ Informed key t n' k d :=
    hsound.keeps hreach ⟨hstands, _, hlooking, by simp [Taker.heard]⟩ .step
  obtain rfl := Option.some.inj (hserved.symm.trans hv)
  have hposted := hsound'.heard _ (List.mem_of_getElem? hserved) _ (List.mem_singleton_self _)
  exact ⟨(hlast _ hposted).antisymm (hheard _ (List.mem_singleton_self _)), ht⟩

/-- A handler that panics, and one that takes its place. -/
def sampleTemplates : Template × Template :=
  (.ofFunction fun _ => .panicked .other, .ofFunction fun _ => .answered {})

/-- Two who register a handler for a command, one who stages copies, and two who take an
instance. -/
def sampleThreads : List Thread :=
  [.registrar (.installing "/a" sampleTemplates.1), .registrar (.installing "/a" sampleTemplates.2),
    .stocktaker, .taker (.looking "/a"), .taker (.looking "/a")]

/-- The second handler is registered while a copy of the first is about to be staged, and after
someone has found the first. -/
def sampleReplaced : Crowd Roster Thread :=
  (Crowd.follow move true [0, 0, 2, 2, 2, 3, 1, 1] ⟨empty 1 2, sampleThreads⟩).2

/-- The copy is turned down, refills are started, and both are served. -/
def sampleServed : Crowd Roster Thread :=
  (Crowd.follow move true [2, 3, 3, 5, 4, 5, 5, 4, 4, 6, 6, 4, 3] sampleReplaced).2

/-- Who had found the first handler is served a copy of it, and who starts later one of the
second. -/
theorem private_and_current_sample :
    (∀ u ∈ sampleThreads, u.Fresh) ∧ posted sampleServed = [("/a", 0), ("/a", 1)] ∧
      sampleServed.threads[3]? = some (.taker (.served "/a" { template := 0, number := 3 })) ∧
      sampleServed.threads[4]? = some (.taker (.served "/a" { template := 1, number := 2 })) ∧
      Private sampleReplaced ∧
      (sampleServed.shared.templates.map Prod.fst)[1]? = some sampleTemplates.2 := by
  have hfresh : ∀ u ∈ sampleThreads, u.Fresh := by
    simp only [sampleThreads, List.mem_cons, List.not_mem_nil, or_false]
    rintro u (rfl | rfl | rfl | rfl | rfl) <;> constructor
  have hposted : posted sampleServed = [("/a", 0), ("/a", 1)] := rfl
  have hlast : ∀ n', ("/a", n') ∈ posted sampleServed → n' ≤ 1 := by
    simp [hposted]
  obtain ⟨hprivate, hcurrent⟩ := private_and_current 1 2 hfresh (c := sampleReplaced)
    (Crowd.reaches_iff_exists_run.mpr ⟨_, Crowd.run_follow ..⟩)
  have hserved := hcurrent 1 4 "/a" sampleTemplates.2 1 "/a" rfl rfl rfl sampleServed _
    (Crowd.reaches_iff_exists_run.mpr ⟨_, Crowd.run_follow ..⟩) rfl hlast
  exact ⟨hfresh, hposted, rfl, rfl, hprivate, hserved.2⟩

end Roster

end Switchboard
