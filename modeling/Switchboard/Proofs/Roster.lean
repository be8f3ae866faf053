import Mathlib.Tactic
import Switchboard.Roster

/-!
# What is registered

Registering a handler changes the registration of its command and of no other: `contains_register`
says so for the question whether a command is registered, which is all that routes depend on.

Taking an instance, with the refill that it may start, changes the stock of copies and nothing
else: `Stocked.take` says that the same templates go on serving the same commands, and that the
instance is a copy of the template that serves the command.
-/

namespace Switchboard

namespace Roster

variable {r : Roster} {command key : String}

/-! ### Looking for a registration -/

/-- After a registration was put in its place, its command finds it and the others find what they
found. -/
theorem find?_put (e : Registration) (l : List Registration) (command : String) :
    (put e l).find? (·.command == command) =
      if command = e.command then some e else l.find? (·.command == command) := by
  induction l with
  | nil =>
    by_cases h : command = e.command
    · simp [put, h]
    · simp [put, h, Ne.symm h]
  | cons d rest ih =>
    by_cases hd : d.command = e.command
    · by_cases h : command = e.command
      · simp [put, hd, h]
      · have hne : ¬ e.command = command := Ne.symm h
        simp [put, hd, h, hne]
    · by_cases hc : d.command = command
      · have hne : ¬ command = e.command := fun h => hd (hc.trans h)
        simp [put, hc, hne]
      · simpa [put, hd, hc] using ih

theorem mem_put {e d : Registration} {l : List Registration} (h : d ∈ put e l) :
    d = e ∨ d ∈ l := by
  induction l with
  | nil => exact Or.inl (List.mem_singleton.mp h)
  | cons c rest ih =>
    unfold put at h
    split at h
    · rcases List.mem_cons.mp h with rfl | h
      · exact Or.inl rfl
      · exact Or.inr (List.mem_cons_of_mem _ h)
    · rcases List.mem_cons.mp h with rfl | h
      · exact Or.inr List.mem_cons_self
      · exact (ih h).imp_right (List.mem_cons_of_mem _)

/-- A command that is registered once stays so. -/
theorem nodup_put (e : Registration) {l : List Registration}
    (h : (l.map (·.command)).Nodup) : ((put e l).map (·.command)).Nodup := by
  induction l with
  | nil => simp [put]
  | cons d rest ih =>
    rw [List.map_cons, List.nodup_cons] at h
    unfold put
    split
    · rename_i hd
      rw [List.map_cons, List.nodup_cons, ← hd]
      exact h
    · rename_i hd
      rw [List.map_cons, List.nodup_cons]
      refine ⟨fun hmem => ?_, ih h.2⟩
      obtain ⟨c, hc, hcd⟩ := List.mem_map.mp hmem
      rcases mem_put hc with rfl | hc
      · exact hd hcd.symm
      · exact h.1 (List.mem_map.mpr ⟨c, hc, hcd⟩)

/-- Registering is finding the new registration under its command. -/
theorem find?_register (r : Roster) (command : String) (t : Template) (key : String) :
    (r.register command t).find? key =
      if key = command then some { command, template := r.templates.length } else r.find? key :=
  find?_put _ _ _

/-- Registering adds its command to the registered ones. -/
theorem contains_register (r : Roster) (command : String) (t : Template) (key : String) :
    (r.register command t).contains key = (decide (key = command) || r.contains key) := by
  by_cases h : key = command <;> simp [contains, find?_register, h]

@[simp] theorem contains_empty (low high : Nat) (key : String) :
    (empty low high).contains key = false := rfl

@[simp] theorem generation_register (r : Roster) (command : String) (t : Template) :
    (r.register command t).generation = r.generation + 1 := rfl

/-! ### The stock -/

/-- The stock of a roster is in order: every command is registered once, with a template that is
there, and what is staged for it are copies of that template. -/
structure Stocked (r : Roster) : Prop where
  distinct : (r.registrations.map (·.command)).Nodup
  known : ∀ e ∈ r.registrations, e.template < r.templates.length
  staged : ∀ e ∈ r.registrations, ∀ i ∈ e.staged, i.template = e.template

/-- The same templates serve the same commands. -/
structure Alike (r r' : Roster) : Prop where
  templates : r'.templates.map Prod.fst = r.templates.map Prod.fst
  serves : ∀ command, r'.template? command = r.template? command
  generation : r'.generation = r.generation

/-- The template that a request for a command is given a copy of: its own, else the default. -/
def served? (r : Roster) (command : String) : Option ℕ :=
  (r.template? command).or (r.template? defaultCommand)

/-- Making a copy of a template never panics. -/
def Reliable (r : Roster) : Prop := ∀ t ∈ r.templates.map Prod.fst, ∀ n, t.copyPanics n = false

variable {r' r'' : Roster} {n : ℕ}

namespace Alike

theorem refl (r : Roster) : Alike r r := ⟨rfl, fun _ => rfl, rfl⟩

theorem trans (h : Alike r r') (h' : Alike r' r'') : Alike r r'' where
  templates := h'.templates.trans h.templates
  serves command := (h'.serves command).trans (h.serves command)
  generation := h'.generation.trans h.generation

theorem length_templates (h : Alike r r') : r'.templates.length = r.templates.length := by
  simpa using congrArg List.length h.templates

theorem served? (h : Alike r r') (command : String) : r'.served? command = r.served? command := by
  rw [Roster.served?, h.serves, h.serves, Roster.served?]

theorem reliable (h : Alike r r') (hr : r.Reliable) : r'.Reliable := by
  rw [Reliable, h.templates]
  exact hr

end Alike

theorem contains_eq (r : Roster) (command : String) :
    r.contains command = (r.template? command).isSome := by
  simp [contains, template?]

theorem served?_eq (r : Roster) (command : String) :
    r.served? command = (r.keyFor? command).bind r.template? := by
  unfold served? keyFor?
  rw [contains_eq, contains_eq]
  cases h : r.template? command with
  | some n => simp [h]
  | none =>
    cases h' : r.template? defaultCommand with
    | some n => simp [h']
    | none => simp

theorem copy_isSome (r : Roster) {n : ℕ} (hn : n < r.templates.length) (hr : r.Reliable) :
    (r.copy n).2.isSome := by
  unfold copy
  rw [List.getElem?_eq_getElem hn]
  have hc := hr _ (List.mem_map_of_mem (List.getElem_mem hn)) (r.templates[n].2 + 1)
  simp [hc]

/-- How a run of a copy ends is for its template to say. -/
theorem snd_run (r : Roster) (i : Instance) (request : Request) :
    (r.run i request).2 = (((r.templates.map Prod.fst)[i.template]?).map fun t =>
      t.handle i.number (i.uses + 1) request).getD (.failed (.failed "no such template")) := by
  unfold run
  dsimp only
  rw [List.getElem?_map]
  cases r.templates[i.template]? <;> rfl

theorem Alike.contains (h : Alike r r') : r'.contains = r.contains := by
  funext command
  rw [contains_eq, contains_eq, h.serves]

namespace Stocked

/-- The registration that a command finds is the only one for it. -/
theorem eq_of_find? (h : r.Stocked) {d e : Registration} (he : r.find? key = some e)
    (hd : d ∈ r.registrations) (hk : d.command = key) : d = e := by
  have hek : e.command = key := by simpa using List.find?_some he
  exact List.inj_on_of_nodup_map h.distinct hd (List.mem_of_find?_eq_some he) (hk.trans hek.symm)

/-- Changing the staged copies of one command. -/
theorem update (h : r.Stocked) (f : Registration → List Instance)
    (hf : ∀ e, r.find? key = some e → ∀ i ∈ f e, i.template = e.template) :
    Alike r (r.update key fun e => { e with staged := f e }) ∧
      (r.update key fun e => { e with staged := f e }).Stocked := by
  have hcommand : ∀ e : Registration,
      (if e.command = key then { e with staged := f e } else e).command = e.command := by
    intro e
    split <;> rfl
  have htemplate : ∀ e : Registration,
      (if e.command = key then { e with staged := f e } else e).template = e.template := by
    intro e
    split <;> rfl
  refine ⟨⟨rfl, fun command => ?_, rfl⟩, ⟨?_, fun e he => ?_, fun e he => ?_⟩⟩
  · simp only [template?, find?, Roster.update, List.find?_map, Function.comp_def, hcommand,
      Option.map_map, htemplate]
  · simpa [Roster.update, Function.comp_def, hcommand] using h.distinct
  · obtain ⟨d, hd, rfl⟩ := List.mem_map.mp he
    rw [htemplate]
    exact h.known d hd
  · obtain ⟨d, hd, rfl⟩ := List.mem_map.mp he
    rw [htemplate]
    split
    · rename_i hk
      cases hfound : r.find? key with
      | none =>
        have := List.find?_eq_none.mp hfound d hd
        simp [hk] at this
      | some e =>
        obtain rfl := h.eq_of_find? hfound hd hk
        exact hf d hfound
    · exact h.staged d hd

/-- A claim takes a staged copy of the template that serves the command, if there is one. -/
theorem claim (h : r.Stocked) (key : String) :
    Alike r (r.claim key).1 ∧ (r.claim key).1.Stocked ∧
      ∀ i, (r.claim key).2.1 = some i → r.template? key = some i.template := by
  unfold Roster.claim
  cases hfound : r.find? key with
  | none => exact ⟨.refl r, h, by simp⟩
  | some e =>
    have he := List.mem_of_find?_eq_some hfound
    have hdrop : ∀ d, r.find? key = some d → ∀ i ∈ e.staged.dropLast, i.template = d.template := by
      intro d hd i hi
      obtain rfl := Option.some.inj (hfound.symm.trans hd)
      exact h.staged e he i (List.dropLast_subset _ hi)
    obtain ⟨halike, hstocked⟩ := h.update (fun _ => e.staged.dropLast) hdrop
    refine ⟨⟨halike.templates, halike.serves, halike.generation⟩,
      ⟨hstocked.distinct, hstocked.known, hstocked.staged⟩, fun i hi => ?_⟩
    rw [template?, hfound, Option.map_some, h.staged e he i (List.mem_of_getLast? hi)]

/-- Making a copy counts it, and yields a copy of that template unless it panics. -/
theorem copy (h : r.Stocked) (n : ℕ) :
    Alike r (r.copy n).1 ∧ (r.copy n).1.Stocked ∧
      ∀ i, (r.copy n).2 = some i → i.template = n := by
  unfold Roster.copy
  cases hn : r.templates[n]? with
  | none => exact ⟨.refl r, h, by simp⟩
  | some t =>
    obtain ⟨t, made⟩ := t
    have hmap : (r.templates.set n (t, made + 1)).map Prod.fst = r.templates.map Prod.fst := by
      obtain ⟨hlt, ht⟩ := List.getElem?_eq_some_iff.mp hn
      rw [List.map_set]
      refine List.ext_getElem (by simp) fun j _ _ => ?_
      rw [List.getElem_set]
      split
      · rename_i hj
        subst hj
        simp [ht]
      · rfl
    refine ⟨⟨hmap, fun _ => rfl, rfl⟩, ⟨h.distinct, fun e he => ?_, h.staged⟩, fun i hi => ?_⟩
    · simpa using h.known e he
    · dsimp only at hi
      split at hi
      · cases hi
      · obtain rfl := Option.some.inj hi
        rfl

/-- What is staged is a copy of the template that serves the command. -/
theorem offer (h : r.Stocked) (key : String) (i : Instance) :
    Alike r (r.offer key i).1 ∧ (r.offer key i).1.Stocked := by
  unfold Roster.offer
  cases hfound : r.find? key with
  | none => exact ⟨.refl r, h⟩
  | some e =>
    dsimp only
    split
    · rename_i hi
      refine h.update (fun d => d.staged ++ [i]) fun d hd j hj => ?_
      obtain rfl := Option.some.inj (hfound.symm.trans hd)
      rcases List.mem_append.mp hj with hj | hj
      · exact h.staged e (List.mem_of_find?_eq_some hfound) j hj
      · rw [List.mem_singleton.mp hj, hi.1]
    · exact ⟨.refl r, h⟩

theorem fillUpTo (h : r.Stocked) (key : String) (template : ℕ) (n : ℕ) :
    Alike r (r.fillUpTo key template n).1 ∧ (r.fillUpTo key template n).1.Stocked := by
  induction n generalizing r with
  | zero => exact ⟨.refl r, h⟩
  | succ n ih =>
    obtain ⟨hcopy, hstocked, -⟩ := h.copy template
    unfold Roster.fillUpTo
    revert hcopy hstocked
    cases r.copy template with
    | mk r₁ made =>
      intro hcopy hstocked
      cases made with
      | none => exact ⟨hcopy, hstocked⟩
      | some i =>
        obtain ⟨hoffer, hstocked⟩ := hstocked.offer key i
        revert hoffer hstocked
        dsimp only
        cases r₁.offer key i with
        | mk r₂ taken =>
          intro hoffer hstocked
          cases taken with
          | true =>
            obtain ⟨hfill, hstocked⟩ := ih hstocked
            exact ⟨(hcopy.trans hoffer).trans hfill, hstocked⟩
          | false => exact ⟨hcopy.trans hoffer, hstocked⟩

theorem refill (h : r.Stocked) (key : String) (template : ℕ) :
    Alike r (r.refill key template) ∧ (r.refill key template).Stocked := by
  obtain ⟨halike, hstocked⟩ := h.fillUpTo key template (r.high + 1)
  unfold Roster.refill Roster.fill
  revert halike hstocked
  cases r.fillUpTo key template (r.high + 1) with
  | mk r₁ died =>
    intro halike hstocked
    cases died with
    | true => exact ⟨halike, hstocked⟩
    | false =>
      exact ⟨⟨halike.templates, halike.serves, halike.generation⟩,
        ⟨hstocked.distinct, hstocked.known, hstocked.staged⟩⟩

theorem lt_of_template? (h : r.Stocked) (hn : r.template? key = some n) :
    n < r.templates.length := by
  obtain ⟨e, he, rfl⟩ := Option.map_eq_some_iff.mp hn
  exact h.known e (List.mem_of_find?_eq_some he)

/-- **Taking an instance.** The same templates go on serving the same commands. If making copies
never panics, a command that is served is given a copy of its template or else of the default. -/
theorem take (h : r.Stocked) (command : String) :
    Alike r (r.take command).1 ∧ (r.take command).1.Stocked ∧
      (r.Reliable → (r.served? command = none → (r.take command).2 = .unserved) ∧
        ∀ n, r.served? command = some n →
          ∃ i, (r.take command).2 = .handed i ∧ i.template = n) := by
  rw [served?_eq]
  unfold Roster.take
  cases hkey : r.keyFor? command with
  | none => exact ⟨.refl r, h, fun _ => ⟨fun _ => rfl, by simp⟩⟩
  | some key =>
    dsimp only [Option.bind_some]
    cases hn : r.template? key with
    | none => exact ⟨.refl r, h, fun _ => ⟨fun _ => rfl, by simp⟩⟩
    | some n =>
      -- whatever was claimed or copied, a refill may follow
      have after : ∀ {r₁ : Roster} {refills : Bool} {taken : Taken}, Alike r r₁ → r₁.Stocked →
          (r.Reliable → ∃ i, taken = .handed i ∧ i.template = n) →
          Alike r (if refills then r₁.refill key n else r₁) ∧
            (if refills then r₁.refill key n else r₁).Stocked ∧
            (r.Reliable → (some n = none → taken = .unserved) ∧
              ∀ m, some n = some m → ∃ i, taken = .handed i ∧ i.template = m) := by
        intro r₁ refills taken halike hstocked htaken
        refine ⟨?_, ?_, fun hr => ⟨by simp, fun m hm => Option.some.inj hm ▸ htaken hr⟩⟩
        · cases refills with
          | true => exact halike.trans (hstocked.refill key n).1
          | false => exact halike
        · cases refills with
          | true => exact (hstocked.refill key n).2
          | false => exact hstocked
      obtain ⟨halike, hstocked, hclaim⟩ := h.claim key
      revert halike hstocked hclaim
      rcases r.claim key with ⟨r₁, staged, refills⟩
      intro halike hstocked hclaim
      cases staged with
      | some i =>
        refine after halike hstocked fun _ => ⟨i, rfl, ?_⟩
        exact Option.some.inj ((hclaim i rfl).symm.trans hn)
      | none =>
        obtain ⟨hcopy, hstocked', hmade⟩ := hstocked.copy n
        have hsome := r₁.copy_isSome (halike.length_templates ▸ h.lt_of_template? hn)
        revert hcopy hstocked' hmade hsome
        dsimp only
        rcases r₁.copy n with ⟨r₂, made⟩
        intro hcopy hstocked' hmade hsome
        have halike' := halike.trans hcopy
        cases made with
        | some i => exact after halike' hstocked' fun _ => ⟨i, rfl, hmade i rfl⟩
        | none =>
          refine after halike' hstocked' fun hr => ?_
          have := hsome (halike.reliable hr)
          cases this

/-! ### Where a stock in order comes from -/

theorem register (h : r.Stocked) (command : String) (t : Template) :
    (r.register command t).Stocked := by
  have hlen : (r.register command t).templates.length = r.templates.length + 1 := by
    simp [Roster.register, install, announce]
  refine ⟨nodup_put _ h.distinct, fun e he => ?_, fun e he => ?_⟩
  · rw [hlen]
    rcases mem_put he with rfl | he
    · exact Nat.lt_succ_self _
    · exact (h.known e he).trans (Nat.lt_succ_self _)
  · rcases mem_put he with rfl | he
    · simp
    · exact h.staged e he

theorem prestage (h : r.Stocked) : Alike r r.prestage ∧ r.prestage.Stocked := by
  suffices hall : ∀ (l : List (String × ℕ)) (r : Roster), r.Stocked →
      Alike r (r.fillAll l) ∧ (r.fillAll l).Stocked from hall _ r h
  intro l
  induction l with
  | nil => exact fun r h => ⟨.refl r, h⟩
  | cons entry l ih =>
    intro r h
    obtain ⟨halike, hstocked⟩ := h.fillUpTo entry.1 entry.2 (r.high + 1)
    unfold fillAll fill
    revert halike hstocked
    rcases r.fillUpTo entry.1 entry.2 (r.high + 1) with ⟨r₁, died⟩
    intro halike hstocked
    cases died with
    | true => exact ⟨halike, hstocked⟩
    | false => exact ⟨halike.trans (ih r₁ hstocked).1, (ih r₁ hstocked).2⟩

end Stocked

theorem stocked_empty (low high : ℕ) : (empty low high).Stocked :=
  ⟨List.nodup_nil, by simp [empty], by simp [empty]⟩

end Roster

end Switchboard
