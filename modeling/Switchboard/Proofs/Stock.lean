import Switchboard.Proofs.Staging

/-!
# Watermarks and the count of copies

One thing after another is done with a roster: handlers are registered, instances are taken, copies
of everything are staged, and a refill that a taking starts runs to its end before the next thing is
done.

* `Roster.Grows` says what filling the stock does: it stages copies and makes so many more than it
  stages; `Roster.grows_fill` that one filling makes exactly one more, the copy that is turned down,
  and leaves the stock of its command at the high mark unless a copy panics.
* `Roster.Passes` says the same of a whole act, which may also hand a copy out or drop some.

Main statement: `Roster.stock_accounts`. The stock of a command stays between the marks, and every
copy that was ever made was handed out, is staged, was dropped when its template was replaced, or
was the last one of a filling.
-/

namespace Switchboard

namespace Roster

variable {r r' r'' : Roster} {key command : String} {i : Instance}
  {n template low high extra extra' : ℕ}

/-! ### How much is staged -/

/-- How many copies are staged, for all commands together. -/
def stagedTotal (r : Roster) : ℕ := (r.registrations.map fun e => e.staged.length).sum

theorem card_allStaged (r : Roster) : Multiset.card r.allStaged = r.stagedTotal := by
  unfold allStaged stagedTotal
  induction r.registrations with
  | nil => rfl
  | cons e rest ih => simp [ih]

theorem stagedLength_eq (r : Roster) (command : String) :
    r.stagedLength command = ((r.find? command).map fun e => e.staged.length).getD 0 := by
  unfold stagedLength
  cases r.find? command <;> rfl

/-- Changing the staged copies of one command leaves those of the others. -/
theorem stagedLength_update (r : Roster) (key : String) (f : Registration → List Instance)
    (command : String) :
    (r.update key fun e => { e with staged := f e }).stagedLength command =
      if command = key then ((r.find? key).map fun e => (f e).length).getD 0
      else r.stagedLength command := by
  have hfind : (r.update key fun e => { e with staged := f e }).find? command =
      (r.find? command).map fun e => if e.command = key then { e with staged := f e } else e := by
    have hcommand : ∀ e : Registration,
        (if e.command = key then { e with staged := f e } else e).command = e.command := by
      intro e
      split <;> rfl
    simp only [find?, update, List.find?_map, Function.comp_def, hcommand]
  rw [stagedLength_eq, hfind]
  cases hfound : r.find? command with
  | none =>
    split
    · next hkey => rw [← hkey, hfound]; rfl
    · rw [stagedLength_eq, hfound]; rfl
  | some e =>
    have hcommand : e.command = command := by simpa using List.find?_some hfound
    split
    · next hkey =>
      rw [← hkey, hfound, Option.map_some, if_pos hcommand]
      rfl
    · next hkey =>
      rw [stagedLength_eq, hfound, Option.map_some, if_neg fun h => hkey (hcommand.symm.trans h)]

theorem stagedLength_install (r : Roster) (command : String) (t : Template) (other : String) :
    (r.install command t).stagedLength other =
      if other = command then 0 else r.stagedLength other := by
  rw [stagedLength_eq, stagedLength_eq, find?, install, find?_put]
  split <;> rfl

/-- A template that takes a command over drops what was staged for it. -/
theorem stagedTotal_install (r : Roster) (command : String) (t : Template) :
    (r.install command t).stagedTotal + r.stagedLength command = r.stagedTotal := by
  unfold stagedTotal stagedLength find? install
  dsimp only
  induction r.registrations with
  | nil => rfl
  | cons d rest ih =>
    unfold put
    by_cases hd : d.command = command
    · simp [hd, add_comm]
    · simp only [hd, if_false, List.map_cons, List.sum_cons, List.find?_cons_of_neg, beq_iff_eq,
        not_false_eq_true, add_assoc, ih]

/-! ### One step -/

/-- What is left after a claim: one copy less of the command, if there was one. -/
theorem stagedLength_claim (r : Roster) (key command : String) :
    (r.claim key).1.stagedLength command =
      r.stagedLength command - if command = key then 1 else 0 := by
  unfold claim
  cases hfound : r.find? key with
  | none =>
    change r.stagedLength command = _
    split
    · next hkey => rw [stagedLength_eq, hkey, hfound]; rfl
    · rfl
  | some e =>
    change (r.update key fun d => { d with staged := e.staged.dropLast }).stagedLength command = _
    rw [stagedLength_update]
    split
    · next hkey =>
      rw [hkey, stagedLength_eq, hfound, Option.map_some, Option.map_some, Option.getD_some,
        Option.getD_some, List.length_dropLast]
    · rfl

/-- A claim starts a refill if too little is left and nobody else is at it. -/
theorem refills_claim (h : (r.template? key).isSome) :
    (r.claim key).2.2 =
      (decide ((r.claim key).1.stagedLength key < r.low) && !r.isRefilling key) := by
  rw [stagedLength_claim, if_pos rfl, stagedLength_eq]
  unfold claim
  cases hfound : r.find? key with
  | none => simp [template?, hfound] at h
  | some e => simp

theorem refilling_claim (r : Roster) (key : String) : (r.claim key).1.refilling =
    if (r.claim key).2.2 then r.refilling ++ [key] else r.refilling := by
  unfold claim
  split <;> rfl

/-- A claim changes neither the marks nor the number of copies made. -/
theorem counts_claim (r : Roster) (key : String) : (r.claim key).1.low = r.low ∧
    (r.claim key).1.high = r.high ∧ (r.claim key).1.copiesMade = r.copiesMade := by
  unfold claim
  split <;> exact ⟨rfl, rfl, rfl⟩

theorem Stocked.stagedTotal_claim (h : r.Stocked) (key : String) :
    (r.claim key).1.stagedTotal + (r.claim key).2.1.toList.length = r.stagedTotal := by
  simpa [card_allStaged] using congrArg Multiset.card (h.allStaged_claim key)

/-- An offer is turned down if the template no longer serves the command or enough is staged, and
then nothing changes; else one copy more is staged. -/
theorem offer_cases (r : Roster) (key : String) (i : Instance) :
    (r.offer key i = (r, false) ∧
      (r.template? key = some i.template → r.high ≤ r.stagedLength key)) ∨
    ∃ r', r.offer key i = (r', true) ∧ r.stagedLength key < r.high ∧ r'.low = r.low ∧
      r'.high = r.high ∧ r'.refilling = r.refilling ∧ r'.copiesMade = r.copiesMade ∧
      ∀ command, r'.stagedLength command =
        r.stagedLength command + if command = key then 1 else 0 := by
  unfold offer
  cases hfound : r.find? key with
  | none => exact .inl ⟨rfl, by simp [template?, hfound]⟩
  | some e =>
    have hlength : r.stagedLength key = e.staged.length := by rw [stagedLength_eq, hfound]; rfl
    dsimp only
    split
    · next hroom =>
      refine .inr ⟨_, rfl, hlength ▸ hroom.2, rfl, rfl, rfl, rfl, fun command => ?_⟩
      rw [stagedLength_update]
      split
      · next hkey =>
        rw [hkey, stagedLength_eq, hfound, Option.map_some, Option.map_some, Option.getD_some,
          Option.getD_some, List.length_append, List.length_singleton]
      · rfl
    · next hroom =>
      refine .inl ⟨rfl, fun htemplate => ?_⟩
      rw [template?, hfound] at htemplate
      rw [hlength]
      exact not_lt.mp fun hlt => hroom ⟨Option.some.inj htemplate, hlt⟩

/-! ### Filling -/

/-- The stock is in order, and within the marks. -/
structure Bounded (low high : ℕ) (r : Roster) : Prop where
  stocked : r.Stocked
  low_eq : r.low = low
  high_eq : r.high = high
  staged_le : ∀ command, r.stagedLength command ≤ high

/-- The stock grows: copies are staged and none is taken, and so many more copies are made than are
staged. -/
structure Grows (low high extra : ℕ) (r r' : Roster) : Prop where
  bounded : r'.Bounded low high
  alike : Alike r r'
  refilling : r'.refilling = r.refilling
  grows : ∀ command, r.stagedLength command ≤ r'.stagedLength command
  copies : r'.copiesMade + r.stagedTotal = r.copiesMade + r'.stagedTotal + extra

theorem Bounded.grows (h : r.Bounded low high) : Grows low high 0 r r :=
  ⟨h, .refl r, rfl, fun _ => le_rfl, rfl⟩

theorem Grows.trans (h : Grows low high extra r r') (h' : Grows low high extra' r' r'') :
    Grows low high (extra + extra') r r'' where
  bounded := h'.bounded
  alike := h.alike.trans h'.alike
  refilling := h'.refilling.trans h.refilling
  grows command := (h.grows command).trans (h'.grows command)
  copies := by
    have := h.copies
    have := h'.copies
    omega

/-- A copy was made. -/
theorem Bounded.grows_copy (h : r.Bounded low high) (hn : n < r.templates.length)
    {made : Option Instance} (hcopy : r.copy n = (r', made)) : Grows low high 1 r r' := by
  obtain rfl : (r.copy n).1 = r' := congrArg Prod.fst hcopy
  obtain ⟨halike, hstocked, -⟩ := h.stocked.copy n
  have hstock := (card_allStaged _).symm.trans ((congrArg _ (r.allStaged_copy n)).trans
    (card_allStaged r))
  unfold copy at halike hstocked hstock ⊢
  rw [List.getElem?_eq_getElem hn] at halike hstocked hstock ⊢
  exact ⟨⟨hstocked, h.low_eq, h.high_eq, h.staged_le⟩, halike, rfl, fun _ => le_rfl, by
    rw [hstock]
    exact Nat.add_right_comm ..⟩

/-- A copy was made and staged. -/
theorem Bounded.grows_copy_offer (h : r.Bounded low high) (hn : n < r.templates.length)
    (hcopy : r.copy n = (r', some i)) (hoffer : r'.offer key i = (r'', true)) :
    Grows low high 0 r r'' := by
  obtain ⟨hbounded, halike, hrefilling, hlength, hcopies⟩ := h.grows_copy hn hcopy
  obtain ⟨halike', hstocked⟩ := hbounded.stocked.offer key i
  have hall := hbounded.stocked.allStaged_offer key i
  rw [hoffer] at halike' hstocked hall
  have hstock : r''.stagedTotal = r'.stagedTotal + 1 := by
    rw [← card_allStaged, hall, if_pos rfl, Multiset.card_cons, card_allStaged]
  rcases r'.offer_cases key i with ⟨hturned, -⟩ | ⟨s, htaken, hroom, hlow, hhigh, hmarks, hmade, hs⟩
  · cases hoffer.symm.trans hturned
  · obtain ⟨rfl, -⟩ := Prod.mk.inj (hoffer.symm.trans htaken)
    refine ⟨⟨hstocked, hlow.trans hbounded.low_eq, hhigh.trans hbounded.high_eq, fun command => ?_⟩,
      halike.trans halike', hmarks.trans hrefilling, fun command => ?_, by omega⟩
    · have hle := hbounded.staged_le command
      have hhigh := hbounded.high_eq
      rw [hs]
      split
      · next hkey => rw [hkey]; omega
      · exact hle
    · have hle := hlength command
      rw [hs]
      omega

/-- **One filling.** It makes one copy more than it stages. If the template serves the command and
no copy panics, it goes on until the high mark is reached. -/
theorem Bounded.grows_fillUpTo (h : r.Bounded low high) (hn : n < r.templates.length) {fuel : ℕ}
    (hfuel : high < r.stagedLength key + fuel) :
    Grows low high 1 r (r.fillUpTo key n fuel).1 ∧
      (r.template? key = some n → (r.fillUpTo key n fuel).2 = false →
        (r.fillUpTo key n fuel).1.stagedLength key = high) := by
  induction fuel generalizing r with
  | zero => exact absurd (h.staged_le key) (not_le.mpr hfuel)
  | succ fuel ih =>
    unfold fillUpTo
    rcases hcopy : r.copy n with ⟨r₁, _ | i⟩
    · exact ⟨h.grows_copy hn hcopy, fun _ hended => by cases hended⟩
    · have hcopied := h.grows_copy hn hcopy
      obtain rfl : i.template = n := (h.stocked.copy n).2.2 i (by rw [hcopy])
      rcases r₁.offer_cases key i with ⟨hturned, hfull⟩ | ⟨r₂, htaken, -, -, -, -, -, hstaged⟩
      · dsimp only
        rw [hturned]
        refine ⟨hcopied, fun hserves _ => le_antisymm (hcopied.bounded.staged_le key) ?_⟩
        rw [← hcopied.bounded.high_eq]
        exact hfull ((hcopied.alike.serves key).trans hserves)
      · dsimp only
        rw [htaken]
        have hgrows := h.grows_copy_offer hn hcopy htaken
        have hmore : high < r₂.stagedLength key + fuel := by
          have hle := hcopied.grows key
          rw [hstaged, if_pos rfl]
          omega
        obtain ⟨hrest, hfull⟩ := ih hgrows.bounded (hgrows.alike.length_templates ▸ hn) hmore
        exact ⟨by simpa using hgrows.trans hrest, fun hserves =>
          hfull ((hgrows.alike.serves key).trans hserves)⟩

theorem Bounded.grows_fill (h : r.Bounded low high) (hn : n < r.templates.length) :
    Grows low high 1 r (r.fill key n).1 ∧
      (r.template? key = some n → (r.fill key n).2 = false →
        (r.fill key n).1.stagedLength key = high) :=
  h.grows_fillUpTo hn (by rw [h.high_eq]; omega)

/-- A filling: the roster that it finds, and the command and template that it stages copies of. -/
structure Filling where
  roster : Roster
  key : String
  template : ℕ

namespace Filling

/-- What a filling leaves behind. -/
def result (f : Filling) : Roster := (f.roster.fill f.key f.template).1

/-- Whether a filling was ended by a copy that panicked. -/
def panicked (f : Filling) : Bool := (f.roster.fill f.key f.template).2

/-- A filling in the course of what is done with a roster. -/
structure Belongs (low high : ℕ) (r : Roster) (f : Filling) : Prop where
  bounded : f.roster.Bounded low high
  alike : Alike r f.roster
  serves : r.template? f.key = some f.template

theorem Belongs.grows {f : Filling} (h : f.Belongs low high r) :
    Grows low high 1 f.roster f.result ∧
      (f.panicked = false → f.result.stagedLength f.key = high) := by
  have hserves := (h.alike.serves f.key).trans h.serves
  obtain ⟨hgrows, hfull⟩ := h.bounded.grows_fill (h.bounded.stocked.lt_of_template? hserves)
  exact ⟨hgrows, hfull hserves⟩

end Filling

/-- The fillings of a list of commands with their templates. -/
def fillingsOf (r : Roster) : List (String × ℕ) → List Filling
  | [] => []
  | (key, template) :: rest =>
    ⟨r, key, template⟩ :: match r.fill key template with
      | (_, true) => []
      | (r, false) => fillingsOf r rest

/-- Filling the stock of one command after the other brings each to the high mark. -/
theorem Bounded.grows_fillAll (h : r.Bounded low high) {l : List (String × ℕ)}
    (hl : ∀ entry ∈ l, r.template? entry.1 = some entry.2) :
    Grows low high (r.fillingsOf l).length r (r.fillAll l) ∧
      (∀ f ∈ r.fillingsOf l, f.Belongs low high r) ∧
      ((∀ f ∈ r.fillingsOf l, f.panicked = false) →
        ∀ entry ∈ l, (r.fillAll l).stagedLength entry.1 = high) := by
  induction l generalizing r with
  | nil => exact ⟨h.grows, nofun, nofun⟩
  | cons entry l ih =>
    obtain ⟨key, template⟩ := entry
    obtain ⟨hserves, hl⟩ := List.forall_mem_cons.mp hl
    have hfirst : Filling.Belongs low high r ⟨r, key, template⟩ := ⟨h, .refl r, hserves⟩
    obtain ⟨hgrows, hfull⟩ := hfirst.grows
    unfold fillingsOf fillAll
    rcases hfill : r.fill key template with ⟨r₁, _ | _⟩
    · obtain rfl : Filling.result ⟨r, key, template⟩ = r₁ := congrArg Prod.fst hfill
      obtain ⟨hrest, hbelong, hfulls⟩ := ih hgrows.bounded fun entry hentry =>
        (hgrows.alike.serves entry.1).trans (hl entry hentry)
      have hall := hgrows.trans hrest
      rw [Nat.add_comm] at hall
      refine ⟨hall, List.forall_mem_cons.mpr ⟨hfirst, fun f hf => ?_⟩, fun hcomplete => ?_⟩
      · obtain ⟨hbounded, halike, hserves⟩ := hbelong f hf
        exact ⟨hbounded, hgrows.alike.trans halike, (hgrows.alike.serves _).symm.trans hserves⟩
      · obtain ⟨hended, hcomplete⟩ := List.forall_mem_cons.mp hcomplete
        refine List.forall_mem_cons.mpr ⟨?_, hfulls hcomplete⟩
        -- what is full stays full while the rest is filled
        exact le_antisymm (hrest.bounded.staged_le key) ((hfull hended).ge.trans (hrest.grows key))
    · obtain rfl : Filling.result ⟨r, key, template⟩ = r₁ := congrArg Prod.fst hfill
      refine ⟨hgrows, by simpa using hfirst, fun hcomplete => ?_⟩
      have hended : (r.fill key template).2 = false := hcomplete _ List.mem_cons_self
      simp [hfill] at hended

theorem Stocked.template?_of_mem (h : r.Stocked) {entry : String × ℕ} (he : entry ∈ r.inventory) :
    r.template? entry.1 = some entry.2 := by
  obtain ⟨e, hmem, rfl⟩ := List.mem_map.mp he
  cases hfound : r.find? e.command with
  | none => simpa using List.find?_eq_none.mp hfound e hmem
  | some d => rw [template?, hfound, h.eq_of_find? hfound hmem rfl, Option.map_some]

/-! ### Taking -/

/-- The command under which a command is served, with its template. -/
def serving? (r : Roster) (command : String) : Option (String × ℕ) :=
  (r.keyFor? command).bind fun key => (r.template? key).map fun template => (key, template)

theorem serving?_eq_some_iff : r.serving? command = some (key, template) ↔
    r.keyFor? command = some key ∧ r.template? key = some template := by
  unfold serving?
  cases r.keyFor? command with
  | none => simp
  | some k =>
    simp only [Option.bind_some, Option.map_eq_some_iff, Prod.mk.injEq, Option.some.injEq]
    constructor
    · rintro ⟨n, hn, rfl, rfl⟩
      exact ⟨rfl, hn⟩
    · rintro ⟨rfl, hn⟩
      exact ⟨template, hn, rfl, rfl⟩

/-- Taking an instance without refilling the stock: what is left, what was taken, and whether a
refill starts. -/
def serve (r : Roster) (key : String) (template : ℕ) : Roster × Taken × Bool :=
  match r.claim key with
  | (r, some i, refills) => (r, .handed i, refills)
  | (r, none, refills) =>
    match r.copy template with
    | (r, some i) => (r, .handed i, refills)
    | (r, none) => (r, .panicked, refills)

theorem take_of_unserved (h : r.serving? command = none) : r.take command = (r, .unserved) := by
  unfold serving? at h
  unfold take
  cases hkey : r.keyFor? command with
  | none => rfl
  | some key =>
    rw [hkey, Option.bind_some, Option.map_eq_none_iff] at h
    dsimp only
    rw [h]

theorem take_of_serving (h : r.serving? command = some (key, template)) :
    r.take command =
      (if (r.serve key template).2.2 then (r.serve key template).1.refill key template
        else (r.serve key template).1, (r.serve key template).2.1) := by
  obtain ⟨hkey, hserves⟩ := serving?_eq_some_iff.mp h
  unfold take serve
  rw [hkey]
  dsimp only
  rw [hserves]
  rcases r.claim key with ⟨r₁, _ | i, refills⟩
  · cases hcopy : r₁.copy template with
    | mk r₂ made => cases made <;> simp only [hcopy]
  · rfl

/-- **Taking without refilling.** Either a staged copy is handed out or one more copy is made. If no
refill starts, the low mark is kept or somebody else is at it. -/
theorem Bounded.serve (h : r.Bounded low high) (hserves : r.template? key = some template)
    {taken : Taken} {refills : Bool} (hserve : r.serve key template = (r', taken, refills)) :
    r'.Bounded low high ∧ Alike r r' ∧ taken ≠ .unserved ∧
      r'.copiesMade + r.stagedTotal = r.copiesMade + r'.stagedTotal + 1 ∧
      r'.refilling = (if refills then r.refilling ++ [key] else r.refilling) ∧
      (refills = false → low ≤ r'.stagedLength key ∨ r.isRefilling key) := by
  obtain ⟨halike, hstocked, -⟩ := h.stocked.claim key
  obtain ⟨hlow, hhigh, hmade⟩ := r.counts_claim key
  have hstock := h.stocked.stagedTotal_claim key
  have hlength := r.stagedLength_claim key
  have hserved : (r.template? key).isSome := by
    rw [hserves]
    rfl
  have hrefills := refills_claim hserved
  have hmarks := r.refilling_claim key
  unfold Roster.serve at hserve
  rcases hclaim : r.claim key with ⟨r₁, staged, refills₁⟩
  simp only [hclaim] at halike hstocked hlow hhigh hmade hstock hlength hrefills hmarks hserve
  have hbounded : r₁.Bounded low high :=
    ⟨hstocked, hlow.trans h.low_eq, hhigh.trans h.high_eq, fun command =>
      (hlength command).le.trans ((Nat.sub_le ..).trans (h.staged_le command))⟩
  have hkept : refills₁ = false → low ≤ r₁.stagedLength key ∨ r.isRefilling key := by
    intro hnone
    rw [hnone, h.low_eq] at hrefills
    cases hmarked : r.isRefilling key with
    | true => exact .inr rfl
    | false => exact .inl (by simpa [hmarked] using hrefills)
  cases staged with
  | some i =>
    obtain ⟨rfl, rfl, rfl⟩ : r₁ = r' ∧ .handed i = taken ∧ refills₁ = refills := by
      simpa using hserve
    refine ⟨hbounded, halike, nofun, ?_, hmarks, hkept⟩
    rw [hmade, ← hstock]
    rfl
  | none =>
    rcases hcopy : r₁.copy template with ⟨r₂, made⟩
    have hn : template < r₁.templates.length :=
      halike.length_templates ▸ h.stocked.lt_of_template? hserves
    have hgrows := hbounded.grows_copy hn hcopy
    obtain ⟨rfl, htaken, rfl⟩ : r₂ = r' ∧ taken ≠ .unserved ∧ refills₁ = refills := by
      dsimp only at hserve
      rw [hcopy] at hserve
      cases made with
      | some i =>
        obtain ⟨rfl, rfl, rfl⟩ : r₂ = r' ∧ .handed i = taken ∧ refills₁ = refills := by
          simpa using hserve
        exact ⟨rfl, nofun, rfl⟩
      | none =>
        obtain ⟨rfl, rfl, rfl⟩ : r₂ = r' ∧ .panicked = taken ∧ refills₁ = refills := by
          simpa using hserve
        exact ⟨rfl, nofun, rfl⟩
    refine ⟨hgrows.bounded, halike.trans hgrows.alike, htaken, ?_, hgrows.refilling.trans hmarks,
      fun hnone => (hkept hnone).imp_left (hgrows.grows key).trans'⟩
    have hcopies := hgrows.copies
    simp only [Option.toList_none, List.length_nil, add_zero] at hstock
    omega

/-- **A refill.** It makes one copy more than it stages; unless a copy panics, it leaves the stock
at the high mark and takes the mark off its command. -/
theorem Filling.Belongs.refill {f : Filling} (h : f.Belongs low high r)
    (hrefill : f.roster.refill f.key f.template = r') :
    r'.Bounded low high ∧
      r'.copiesMade + f.roster.stagedTotal = f.roster.copiesMade + r'.stagedTotal + 1 ∧
      (f.panicked = false → r'.stagedLength f.key = high ∧
        r'.refilling = f.roster.refilling.filter (· ≠ f.key)) := by
  obtain ⟨hgrows, hfull⟩ := h.grows
  unfold Roster.refill at hrefill
  unfold Filling.result at hgrows hfull
  unfold Filling.panicked at hfull ⊢
  rcases hfill : f.roster.fill f.key f.template with ⟨r₁, _ | _⟩
  · rw [hfill] at hrefill hgrows hfull
    subst hrefill
    obtain ⟨⟨hdistinct, hknown, hstaged⟩, hlow, hhigh, hle⟩ := hgrows.bounded
    refine ⟨⟨⟨hdistinct, hknown, hstaged⟩, hlow, hhigh, hle⟩, hgrows.copies, fun _ => ?_⟩
    exact ⟨hfull rfl, congrArg (List.filter (· ≠ f.key)) hgrows.refilling⟩
  · rw [hfill] at hrefill hgrows
    subst hrefill
    exact ⟨hgrows.bounded, hgrows.copies, nofun⟩

/-! ### Acts -/

/-- What is done with a roster. -/
inductive Act where
  | register (command : String) (t : Template)
  /-- An instance is taken, and a refill that this starts runs to its end. -/
  | take (command : String)
  | prestage

/-- What one act leaves behind. -/
def perform (r : Roster) : Act → Roster
  | .register command t => r.register command t
  | .take command => (r.take command).1
  | .prestage => r.prestage

/-- What a history of acts leaves behind. -/
def after (r : Roster) (acts : List Act) : Roster := acts.foldl perform r

/-- The fillings of an act. -/
def fillings (r : Roster) : Act → List Filling
  | .register _ _ => []
  | .take command =>
    match r.serving? command with
    | none => []
    | some (key, template) =>
      if (r.serve key template).2.2 then [⟨(r.serve key template).1, key, template⟩] else []
  | .prestage => r.fillingsOf r.inventory

/-- The fillings of an act that go on in the background. -/
def refills (r : Roster) : Act → List Filling
  | .take command => r.fillings (.take command)
  | .register _ _ | .prestage => []

/-- How many instances an act hands out. -/
def handed (r : Roster) : Act → ℕ
  | .take command =>
    match (r.take command).2 with
    | .handed _ => 1
    | .unserved | .panicked => 0
  | .register _ _ | .prestage => 0

/-- How many copies panicked that were to be handed out right away. -/
def lost (r : Roster) : Act → ℕ
  | .take command =>
    match (r.take command).2 with
    | .panicked => 1
    | .handed _ | .unserved => 0
  | .register _ _ | .prestage => 0

/-- How many staged copies an act drops. -/
def dropped (r : Roster) : Act → ℕ
  | .register command _ => r.stagedLength command
  | .take _ | .prestage => 0

/-- An act keeps the stock within the marks, and accounts for every copy. -/
structure Passes (low high : ℕ) (r : Roster) (act : Act) : Prop where
  bounded : (r.perform act).Bounded low high
  copies : (r.perform act).copiesMade + r.stagedTotal = r.copiesMade + (r.perform act).stagedTotal +
    (r.handed act + r.dropped act + (r.fillings act).length + r.lost act)
  belongs : ∀ f ∈ r.fillings act, f.Belongs low high r
  refilling : r.refilling = [] → (∀ f ∈ r.refills act, f.panicked = false) →
    (r.perform act).refilling = []

theorem Bounded.passes_register (h : r.Bounded low high) (command : String) (t : Template) :
    Passes low high r (.register command t) where
  bounded := by
    refine ⟨h.stocked.register command t, h.low_eq, h.high_eq, fun other => ?_⟩
    refine (r.stagedLength_install command t other).le.trans ?_
    split
    · exact Nat.zero_le _
    · exact h.staged_le other
  copies := by
    have hstock : (r.register command t).stagedTotal + r.stagedLength command = r.stagedTotal :=
      r.stagedTotal_install command t
    change r.copiesMade + r.stagedTotal = r.copiesMade + (r.register command t).stagedTotal +
      (0 + r.stagedLength command + 0 + 0)
    omega
  belongs := nofun
  refilling hr _ := hr

theorem Bounded.passes_prestage (h : r.Bounded low high) : Passes low high r .prestage := by
  obtain ⟨hgrows, hbelong, -⟩ := h.grows_fillAll fun _ => h.stocked.template?_of_mem
  refine ⟨hgrows.bounded, hgrows.copies.trans ?_, hbelong, fun hr _ => hgrows.refilling.trans hr⟩
  change _ = _ + (0 + 0 + (r.fillingsOf r.inventory).length + 0)
  rw [zero_add, zero_add, add_zero]
  rfl

/-- **Taking an instance.** If nobody else is refilling and the refill that is started runs to its
end, the low mark is kept. -/
theorem Bounded.passes_take (h : r.Bounded low high) (command : String) :
    Passes low high r (.take command) ∧
      ∀ key template, r.serving? command = some (key, template) → r.refilling = [] → low ≤ high →
        (∀ f ∈ r.refills (.take command), f.panicked = false) →
          low ≤ (r.take command).1.stagedLength key := by
  cases hserving : r.serving? command with
  | none =>
    have htake := take_of_unserved hserving
    have hperform : r.perform (.take command) = r := congrArg Prod.fst htake
    have hnone : r.fillings (.take command) = [] := by simp [fillings, hserving]
    refine ⟨⟨hperform.symm ▸ h, ?_, by simp [hnone], fun hr _ => hperform.symm ▸ hr⟩, nofun⟩
    simp [hperform, hnone, handed, dropped, lost, htake]
  | some served =>
    obtain ⟨key, template⟩ := served
    obtain ⟨-, hserves⟩ := serving?_eq_some_iff.mp hserving
    have htake := take_of_serving hserving
    rcases hserve : r.serve key template with ⟨r₁, taken, refills⟩
    obtain ⟨hbounded, halike, htaken, hcopies, hmarks, hkept⟩ := h.serve hserves hserve
    have hone : r.handed (.take command) + r.lost (.take command) = 1 := by
      rw [hserve] at htake
      cases taken with
      | unserved => exact absurd rfl htaken
      | handed i => simp [handed, lost, htake]
      | panicked => simp [handed, lost, htake]
    cases refills with
    | false =>
      have hperform : r.perform (.take command) = r₁ := by simp [perform, htake, hserve]
      have hnone : r.fillings (.take command) = [] := by simp [fillings, hserving, hserve]
      refine ⟨⟨hperform.symm ▸ hbounded, ?_, by simp [hnone], fun hr _ => ?_⟩, ?_⟩
      · rw [hperform, hnone, hcopies]
        simp only [dropped, List.length_nil]
        omega
      · rw [hperform, hmarks]
        exact hr
      · rintro _ _ ⟨rfl, rfl⟩ hr - -
        change low ≤ (r.perform (.take command)).stagedLength key
        rw [hperform]
        exact (hkept rfl).resolve_right (by simp [isRefilling, hr])
    | true =>
      have hbelongs : Filling.Belongs low high r ⟨r₁, key, template⟩ := ⟨hbounded, halike, hserves⟩
      obtain ⟨hbounded', hcopies', hended⟩ := hbelongs.refill rfl
      have hsingle : r.fillings (.take command) = [⟨r₁, key, template⟩] := by
        simp [fillings, hserving, hserve]
      have hmem : (⟨r₁, key, template⟩ : Filling) ∈ r.refills (.take command) := by
        rw [refills, hsingle]
        exact List.mem_singleton_self _
      have hperform : r.perform (.take command) = r₁.refill key template := by
        simp [perform, htake, hserve]
      refine ⟨⟨hperform.symm ▸ hbounded', ?_, by simpa [hsingle] using hbelongs,
        fun hr hcomplete => ?_⟩, ?_⟩
      · rw [hperform, hsingle]
        simp only [dropped, List.length_singleton]
        dsimp only at hcopies'
        omega
      · rw [hperform, (hended (hcomplete _ hmem)).2, hmarks, hr]
        simp
      · rintro _ _ ⟨rfl, rfl⟩ - hle hcomplete
        change low ≤ (r.perform (.take command)).stagedLength key
        rw [hperform]
        exact hle.trans (hended (hcomplete _ hmem)).1.ge

theorem Bounded.passes (h : r.Bounded low high) (act : Act) : Passes low high r act := by
  cases act with
  | register command t => exact h.passes_register command t
  | take command => exact (h.passes_take command).1
  | prestage => exact h.passes_prestage

/-! ### Histories -/

/-- A number added up over a history, act by act. -/
def total (count : Roster → Act → ℕ) (r : Roster) : List Act → ℕ
  | [] => 0
  | act :: acts => count r act + total count (r.perform act) acts

/-- The fillings of some kind in a history, act by act. -/
def fillingsIn (kind : Roster → Act → List Filling) (r : Roster) : List Act → List Filling
  | [] => []
  | act :: acts => kind r act ++ fillingsIn kind (r.perform act) acts

theorem fillingsIn_append (kind : Roster → Act → List Filling) (r : Roster) (acts more : List Act) :
    fillingsIn kind r (acts ++ more) =
      fillingsIn kind r acts ++ fillingsIn kind (r.after acts) more := by
  induction acts generalizing r with
  | nil => rfl
  | cons act acts ih =>
    rw [List.cons_append, fillingsIn, ih, fillingsIn, List.append_assoc]
    rfl

theorem bounded_empty (low high : ℕ) : (empty low high).Bounded low high :=
  ⟨stocked_empty low high, rfl, rfl, fun _ => Nat.zero_le _⟩

/-- A history keeps the stock within the marks, and accounts for every copy. -/
theorem Bounded.after (h : r.Bounded low high) (acts : List Act) :
    (r.after acts).Bounded low high ∧
      (r.after acts).copiesMade + r.stagedTotal = r.copiesMade + (r.after acts).stagedTotal +
        (total handed r acts + total dropped r acts + (fillingsIn fillings r acts).length +
          total lost r acts) ∧
      ∀ f ∈ fillingsIn fillings r acts, ∃ r', f.Belongs low high r' := by
  induction acts generalizing r with
  | nil => exact ⟨h, rfl, nofun⟩
  | cons act acts ih =>
    have hact := h.passes act
    obtain ⟨hbounded, hcopies, hbelong⟩ := ih hact.bounded
    refine ⟨hbounded, ?_, fun f hf => ?_⟩
    · have hfirst := hact.copies
      change ((r.perform act).after acts).copiesMade + r.stagedTotal = r.copiesMade +
        ((r.perform act).after acts).stagedTotal + _
      simp only [total, fillingsIn, List.length_append]
      omega
    · rcases List.mem_append.mp hf with hf | hf
      · exact ⟨r, hact.belongs f hf⟩
      · exact hbelong f hf

/-- Where every refill runs to its end, no command stays marked. -/
theorem Bounded.refilling_after (h : r.Bounded low high) (hr : r.refilling = []) (acts : List Act)
    (complete : ∀ f ∈ fillingsIn refills r acts, f.panicked = false) :
    (r.after acts).refilling = [] := by
  induction acts generalizing r with
  | nil => exact hr
  | cons act acts ih =>
    have hact := h.passes act
    exact ih hact.bounded
      (hact.refilling hr fun f hf => complete f (List.mem_append_left _ hf))
      fun f hf => complete f (List.mem_append_right _ hf)

/-! ### Templates whose copies never panic -/

theorem Stocked.snd_fillUpTo (h : r.Stocked) (reliable : r.Reliable) (hn : n < r.templates.length)
    (key : String) (fuel : ℕ) : (r.fillUpTo key n fuel).2 = false := by
  induction fuel generalizing r with
  | zero => rfl
  | succ fuel ih =>
    have hsome := r.copy_isSome hn reliable
    obtain ⟨halike, hstocked, -⟩ := h.copy n
    unfold Roster.fillUpTo
    rcases hcopy : r.copy n with ⟨r₁, _ | i⟩
    · simp [hcopy] at hsome
    · rw [hcopy] at halike hstocked
      obtain ⟨halike', hstocked'⟩ := hstocked.offer key i
      rcases hoffer : r₁.offer key i with ⟨r₂, _ | _⟩
      · simp [hoffer]
      · simp only [hoffer] at halike' hstocked' ⊢
        have hboth := halike.trans halike'
        exact ih hstocked' (hboth.reliable reliable) (hboth.length_templates ▸ hn)

theorem Filling.Belongs.ended {f : Filling} (h : f.Belongs low high r) (reliable : r.Reliable) :
    f.panicked = false :=
  have hserves := (h.alike.serves f.key).trans h.serves
  h.bounded.stocked.snd_fillUpTo (h.alike.reliable reliable)
    (h.bounded.stocked.lt_of_template? hserves) _ _

theorem Stocked.lost_eq_zero (h : r.Stocked) (reliable : r.Reliable) (act : Act) :
    r.lost act = 0 := by
  cases act with
  | take command =>
    obtain ⟨hunserved, hserved⟩ := (h.take command).2.2 reliable
    cases hn : r.served? command with
    | none => simp [lost, hunserved hn]
    | some n =>
      obtain ⟨i, hi, -⟩ := hserved n hn
      simp [lost, hi]
  | register command t => rfl
  | prestage => rfl

theorem Stocked.reliable_perform (h : r.Stocked) (reliable : r.Reliable) (act : Act)
    (hact : ∀ command t, act = .register command t → ∀ k, t.copyPanics k = false) :
    (r.perform act).Reliable := by
  cases act with
  | register command t =>
    have hmap : (r.register command t).templates.map Prod.fst =
        r.templates.map Prod.fst ++ [t] := by
      simp [Roster.register, install, announce]
    intro u hu k
    change u ∈ (r.register command t).templates.map Prod.fst at hu
    rw [hmap, List.mem_append, List.mem_singleton] at hu
    rcases hu with hu | rfl
    · exact reliable u hu k
    · exact hact command u rfl k
  | take command => exact (h.take command).1.reliable reliable
  | prestage => exact h.prestage.1.reliable reliable

/-- Where making copies never panics, nothing is lost and every filling runs to its end. -/
theorem Bounded.ended_after (h : r.Bounded low high) (reliable : r.Reliable) (acts : List Act)
    (hacts : ∀ command t, Act.register command t ∈ acts → ∀ k, t.copyPanics k = false) :
    total lost r acts = 0 ∧ ∀ f ∈ fillingsIn fillings r acts, f.panicked = false := by
  induction acts generalizing r with
  | nil => exact ⟨rfl, nofun⟩
  | cons act acts ih =>
    have hact := h.passes act
    obtain ⟨hlost, hended⟩ := ih hact.bounded
      (h.stocked.reliable_perform reliable act fun command t ht =>
        hacts command t (ht ▸ List.mem_cons_self))
      fun command t ht => hacts command t (List.mem_cons_of_mem _ ht)
    refine ⟨by rw [total, h.stocked.lost_eq_zero reliable, hlost], fun f hf => ?_⟩
    rcases List.mem_append.mp hf with hf | hf
    · exact (hact.belongs f hf).ended reliable
    · exact hended f hf

/-! ### The accounts -/

/-- **Watermarks and accounts.** After any history of registering, taking and staging, whatever the
marks:

* no command has more copies staged than the high mark allows;
* every copy that was made was handed out, is staged, was dropped when its template was replaced, or
  was one of a filling, of which each makes one copy more than it stages; or it was to be handed out
  and panicked;
* registering a handler leaves nothing staged for its command and all that is staged for others;
* if every refill so far ran to its end, a command under which an instance was just handed out has
  as many copies staged as the low mark asks for, if that is not above the high mark;
* staging leaves as many copies of every registered command as the high mark allows, if every
  filling of it runs to its end;
* where making copies never panics, every filling runs to its end and no copy is lost. -/
theorem stock_accounts (low high : ℕ) (acts : List Act) :
    let r := (empty low high).after acts
    (∀ command, r.stagedLength command ≤ high) ∧
    r.copiesMade = total handed (empty low high) acts + r.stagedTotal +
      total dropped (empty low high) acts + (fillingsIn fillings (empty low high) acts).length +
      total lost (empty low high) acts ∧
    (∀ f ∈ fillingsIn fillings (empty low high) acts,
      f.result.copiesMade + f.roster.stagedTotal = f.roster.copiesMade + f.result.stagedTotal + 1) ∧
    (∀ command t other, (r.register command t).stagedLength other =
      if other = command then 0 else r.stagedLength other) ∧
    (∀ command i, (r.take command).2 = .handed i → low ≤ high →
      (∀ f ∈ fillingsIn refills (empty low high) (acts ++ [.take command]), f.panicked = false) →
        ∃ key, r.keyFor? command = some key ∧ low ≤ (r.take command).1.stagedLength key) ∧
    ((∀ f ∈ r.fillings .prestage, f.panicked = false) →
      ∀ command, r.contains command → r.prestage.stagedLength command = high) ∧
    ((∀ command t, Act.register command t ∈ acts → ∀ n, t.copyPanics n = false) →
      total lost (empty low high) acts = 0 ∧
        ∀ f ∈ fillingsIn fillings (empty low high) acts, f.panicked = false) := by
  intro r
  obtain ⟨hbounded, hcopies, hbelong⟩ : r.Bounded low high ∧ _ ∧ _ :=
    (bounded_empty low high).after acts
  have hnothing : (empty low high).stagedTotal = 0 ∧ (empty low high).copiesMade = 0 := ⟨rfl, rfl⟩
  refine ⟨hbounded.staged_le, ?_, fun f hf => ?_, fun command t other =>
    r.stagedLength_install command t other, fun command i htaken hle hcomplete => ?_,
    fun hcomplete command hcontains => ?_, fun hacts => ?_⟩
  · rw [hnothing.1, hnothing.2] at hcopies
    change r.copiesMade + 0 = 0 + r.stagedTotal + _ at hcopies
    omega
  · obtain ⟨_, hf⟩ := hbelong f hf
    exact hf.grows.1.copies
  · rw [fillingsIn_append] at hcomplete
    have hmarks : r.refilling = [] := (bounded_empty low high).refilling_after rfl acts
      fun f hf => hcomplete f (List.mem_append_left _ hf)
    obtain ⟨-, hkeeps⟩ := hbounded.passes_take command
    cases hserving : r.serving? command with
    | none => simp [take_of_unserved hserving] at htaken
    | some served =>
      obtain ⟨key, template⟩ := served
      refine ⟨key, (serving?_eq_some_iff.mp hserving).1, hkeeps key template hserving hmarks hle ?_⟩
      exact fun f hf => hcomplete f (List.mem_append_right _ (by simpa [fillingsIn] using hf))
  · obtain ⟨-, -, hfull⟩ := hbounded.grows_fillAll fun _ => hbounded.stocked.template?_of_mem
    obtain ⟨e, he⟩ := Option.isSome_iff_exists.mp hcontains
    have hcommand : e.command = command := by simpa using List.find?_some he
    exact hcommand ▸ hfull hcomplete _ (List.mem_map_of_mem (List.mem_of_find?_eq_some he))
  · exact (bounded_empty low high).ended_after nofun acts hacts

/-- A handler of whatever kind. -/
def stockTemplate : Template := .ofFunction fun _ => .answered {}

/-- A handler and a default handler are registered, an instance of each is taken, the first is
replaced, everything is staged, and one more instance is taken. -/
def stockActs : List Act :=
  [.register "/a" stockTemplate, .register defaultCommand stockTemplate, .take "/a", .take "/x",
    .register "/a" stockTemplate, .prestage, .take "/a"]

/-- With one copy as the low mark and two as the high mark, twelve copies were made for three
instances; the default handler still has a copy when its next one is taken for a command that is
not registered, and staging brings every command to two again. -/
theorem stock_accounts_sample :
    ((empty 1 2).after stockActs).copiesMade = 12 ∧
      total handed (empty 1 2) stockActs = 3 ∧
      (∃ i, (((empty 1 2).after stockActs).take "/x").2 = .handed i) ∧
      (∃ key, ((empty 1 2).after stockActs).keyFor? "/x" = some key ∧
        1 ≤ (((empty 1 2).after stockActs).take "/x").1.stagedLength key) ∧
      ((empty 1 2).after stockActs).prestage.stagedLength "/a" = 2 ∧
      total lost (empty 1 2) stockActs = 0 := by
  obtain ⟨-, -, -, -, hkeeps, hfull, hreliable⟩ := stock_accounts 1 2 stockActs
  have htaken : (((empty 1 2).after stockActs).take "/x").2 =
      .handed { template := 1, number := 3 } := by decide
  have hcomplete : ∀ f ∈ fillingsIn refills (empty 1 2) (stockActs ++ [.take "/x"]),
      f.panicked = false := by decide
  have hstaged : ∀ f ∈ ((empty 1 2).after stockActs).fillings .prestage, f.panicked = false := by
    decide
  have hnever : ∀ command t, Act.register command t ∈ stockActs → ∀ n, t.copyPanics n = false := by
    intro command t ht n
    simp only [stockActs, List.mem_cons, Act.register.injEq, reduceCtorEq, false_or, or_false,
      List.not_mem_nil] at ht
    obtain ⟨-, rfl⟩ | ⟨-, rfl⟩ | ⟨-, rfl⟩ := ht <;> rfl
  exact ⟨by decide, by decide, ⟨_, htaken⟩, hkeeps "/x" _ htaken (by decide) hcomplete,
    hfull hstaged "/a" (by decide), (hreliable hnever).1⟩

end Roster

end Switchboard
