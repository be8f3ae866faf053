import Mathlib.Tactic
import Switchboard.Message.Request

/-!
# Headers and parameters

What a request holds after headers and parameters were added to it one by one.

* `Request.addHeaders_eq`: the headers are grouped under the first spelling of every name
  (`grouped`), each group in the order of arrival.
* `Request.headerValues_grouped`: a header is looked up in all that were added, in any case.
* `Request.Carries.addParams`: the parameters are the sets of the values that were added.
-/

namespace Switchboard

/-! ### Names in any case -/

theorem asciiCaseEq_iff {a b : String} :
    asciiCaseEq a b = true ↔ a.toList.map Char.toLower = b.toList.map Char.toLower :=
  beq_iff_eq

theorem asciiCaseEq_refl (a : String) : asciiCaseEq a a = true := asciiCaseEq_iff.mpr rfl

theorem asciiCaseEq_comm (a b : String) : asciiCaseEq a b = asciiCaseEq b a :=
  Bool.eq_iff_iff.mpr (asciiCaseEq_iff.trans (eq_comm.trans asciiCaseEq_iff.symm))

/-- Names that are equal up to case are equal up to case to the same names. -/
theorem asciiCaseEq_congr {a b : String} (h : asciiCaseEq a b = true) (c : String) :
    asciiCaseEq a c = asciiCaseEq b c := by
  rw [asciiCaseEq, asciiCaseEq, asciiCaseEq_iff.mp h]

/-- The first spelling of every name of a list, in order. -/
def spellings : List String → List String
  | [] => []
  | name :: rest => name :: (spellings rest).filter fun n => !asciiCaseEq name n

/-- No name has two spellings. -/
theorem pairwise_spellings (names : List String) :
    (spellings names).Pairwise fun a b => asciiCaseEq a b = false := by
  induction names with
  | nil => exact .nil
  | cons name rest ih =>
    refine .cons (fun n hn => ?_) (ih.filter _)
    simpa using (List.mem_filter.mp hn).2

/-- Every name is spelled in some way. -/
theorem any_spellings (names : List String) (name : String) :
    (spellings names).any (asciiCaseEq · name) = names.any (asciiCaseEq · name) := by
  induction names with
  | nil => rfl
  | cons n rest ih =>
    rw [spellings, List.any_cons, List.any_cons, ← ih]
    cases h : asciiCaseEq n name with
    | true => rfl
    | false =>
      rw [Bool.false_or, Bool.false_or, Bool.eq_iff_iff, List.any_eq_true, List.any_eq_true]
      refine exists_congr fun m => and_congr_left fun hm => ?_
      rw [List.mem_filter, and_iff_left_iff_imp, Bool.not_eq_true']
      intro _
      rw [asciiCaseEq_comm, asciiCaseEq_congr hm, asciiCaseEq_comm]
      exact h

/-- A name that comes last is a spelling of its own unless there is one. -/
theorem spellings_concat (names : List String) (name : String) :
    spellings (names ++ [name]) =
      if names.any (asciiCaseEq · name) then spellings names else spellings names ++ [name] := by
  induction names with
  | nil => rfl
  | cons n rest ih =>
    rw [List.cons_append, spellings, ih, List.any_cons]
    cases hrest : rest.any (asciiCaseEq · name) with
    | true => simp [spellings]
    | false =>
      cases h : asciiCaseEq n name with
      | true => simp [spellings, h]
      | false => simp [spellings, h]

/-! ### Headers -/

/-- The values that headers give to a name, in order. -/
def valuesOf (name : String) (headers : List (String × String)) : List String :=
  (headers.filter fun h => asciiCaseEq name h.1).map (·.2)

/-- Headers grouped by name, each group under the first spelling of its name. -/
def grouped (headers : List (String × String)) : List (String × List String) :=
  (spellings (headers.map (·.1))).map fun name => (name, valuesOf name headers)

namespace Request

theorem addToGroup_map {name : String} (value : String) (f : String → List String)
    {names : List String} (hnames : names.Pairwise fun a b => asciiCaseEq a b = false) :
    addToGroup name value (names.map fun n => (n, f n)) =
      (names.map fun n => (n, f n ++ if asciiCaseEq n name then [value] else [])) ++
        if names.any (asciiCaseEq · name) then [] else [(name, [value])] := by
  induction names with
  | nil => rfl
  | cons n rest ih =>
    obtain ⟨hn, hrest⟩ := List.pairwise_cons.mp hnames
    rw [List.map_cons, addToGroup, List.map_cons, List.any_cons]
    cases h : asciiCaseEq n name with
    | true =>
      -- no other name of the list is this one
      have hothers : ∀ m ∈ rest, asciiCaseEq m name = false := fun m hm => by
        rw [asciiCaseEq_comm, ← asciiCaseEq_congr h, hn m hm]
      have hsame : (rest.map fun m => (m, f m ++ if asciiCaseEq m name then [value] else [])) =
          rest.map fun m => (m, f m) :=
        List.map_congr_left fun m hm => by simp [hothers m hm]
      simp [hsame]
    | false => simp [ih hrest]

theorem grouped_concat (headers : List (String × String)) (name value : String) :
    grouped (headers ++ [(name, value)]) = addToGroup name value (grouped headers) := by
  have hvalues (n : String) : valuesOf n (headers ++ [(name, value)]) =
      valuesOf n headers ++ if asciiCaseEq n name then [value] else [] := by
    rw [valuesOf, List.filter_append, List.map_append, ← valuesOf]
    cases h : asciiCaseEq n name <;> simp [h]
  rw [grouped, grouped, addToGroup_map value _ (pairwise_spellings _), any_spellings,
    List.map_append, List.map_cons, List.map_nil, spellings_concat]
  simp only [hvalues]
  cases h : (headers.map (·.1)).any (asciiCaseEq · name) with
  | true => simp
  | false =>
    have hnone : valuesOf name headers = [] := by
      rw [valuesOf, List.map_eq_nil_iff, List.filter_eq_nil_iff]
      intro x hx
      have := List.any_eq_false.mp h x.1 (List.mem_map_of_mem hx)
      rwa [asciiCaseEq_comm] at this
    simp [hnone, asciiCaseEq_refl]

/-- Adds several headers. -/
def addHeaders (r : Request) (headers : List (String × String)) : Request :=
  headers.foldl (fun r h => r.addHeader h.1 h.2) r

/-- **Headers in groups.** A request to which headers were added holds them in groups, under the
first spelling of each name and in the order of arrival. -/
theorem addHeaders_eq {r : Request} (hr : r.headers = []) (headers : List (String × String)) :
    r.addHeaders headers = { r with headers := grouped headers } := by
  induction headers using List.reverseRecOn with
  | nil => cases r; cases hr; rfl
  | append_singleton headers h ih =>
    rw [addHeaders, List.foldl_concat, ← addHeaders, ih, grouped_concat]
    rfl

/-- All values of a header are found in the groups. -/
theorem headerValues_grouped {r : Request} {headers : List (String × String)}
    (hr : r.headers = grouped headers) (name : String) :
    r.headerValues name = valuesOf name headers := by
  rw [headerValues, hr, grouped]
  cases h : ((spellings (headers.map (·.1))).map fun n => (n, valuesOf n headers)).find?
      fun h => asciiCaseEq h.1 name with
  | none =>
    have hnone := List.find?_eq_none.mp h
    have hany : (headers.map (·.1)).any (asciiCaseEq · name) = false := by
      rw [← any_spellings, List.any_eq_false]
      exact fun n hn => hnone (n, valuesOf n headers) (List.mem_map_of_mem hn)
    refine (List.map_eq_nil_iff.mpr (List.filter_eq_nil_iff.mpr fun x hx => ?_)).symm
    have := List.any_eq_false.mp hany x.1 (List.mem_map_of_mem hx)
    rwa [asciiCaseEq_comm] at this
  | some group =>
    obtain ⟨n, -, rfl⟩ := List.mem_map.mp (List.mem_of_find?_eq_some h)
    have hn : asciiCaseEq n name = true := by simpa using List.find?_some h
    simp only [valuesOf, asciiCaseEq_congr hn]

theorem header?_grouped {r : Request} {headers : List (String × String)}
    (hr : r.headers = grouped headers) (name : String) :
    r.header? name = (headers.find? fun h => asciiCaseEq name h.1).map (·.2) := by
  rw [header?, headerValues_grouped hr, valuesOf, List.head?_map, List.head?_filter]

/-! ### Parameters -/

/-- A request **carries** parameters: no key twice, and under every key the set of its values, in
increasing order. -/
structure Carries (r : Request) (pairs : List (String × String)) : Prop where
  keys : (r.params.map (·.1)).Nodup
  absent : ∀ key, r.paramValues? key = none ↔ ∀ v, (key, v) ∉ pairs
  sets : ∀ key values, r.paramValues? key = some values →
    values.Pairwise (· < ·) ∧ ∀ v, v ∈ values ↔ (key, v) ∈ pairs

theorem carries_nil {r : Request} (hr : r.params = []) : r.Carries [] where
  keys := by rw [hr]; exact .nil
  absent key := by simp [paramValues?, hr]
  sets key values h := by simp [paramValues?, hr] at h

theorem mem_insertSorted {v w : String} {values : List String} :
    w ∈ insertSorted v values ↔ w = v ∨ w ∈ values := by
  induction values with
  | nil => simp [insertSorted]
  | cons x rest ih =>
    rw [insertSorted]
    split
    · rename_i h
      simp [h]
    · split
      · exact List.mem_cons
      · rw [List.mem_cons, ih, List.mem_cons, or_left_comm]

theorem pairwise_insertSorted {v : String} {values : List String}
    (h : values.Pairwise (· < ·)) : (insertSorted v values).Pairwise (· < ·) := by
  induction values with
  | nil => exact List.pairwise_singleton _ _
  | cons x rest ih =>
    obtain ⟨hx, hrest⟩ := List.pairwise_cons.mp h
    rw [insertSorted]
    split
    · exact h
    rename_i hne
    split
    · rename_i hlt
      exact .cons (List.forall_mem_cons.mpr ⟨hlt, fun w hw => String.lt_trans hlt (hx w hw)⟩) h
    · rename_i hle
      refine .cons (fun w hw => ?_) (ih hrest)
      obtain rfl | hw := mem_insertSorted.mp hw
      · by_contra hxw
        exact hne (String.le_antisymm (String.not_lt.mp hxw) (String.not_lt.mp hle))
      · exact hx w hw

theorem keys_addToSet (key value : String) (params : List (String × List String)) :
    (addToSet key value params).map (·.1) =
      if key ∈ params.map (·.1) then params.map (·.1) else params.map (·.1) ++ [key] := by
  induction params with
  | nil => rfl
  | cons p rest ih =>
    rw [addToSet]
    by_cases h : p.1 = key
    · simp [h]
    · have h' : key ≠ p.1 := Ne.symm h
      rw [if_neg h, List.map_cons, ih]
      by_cases hmem : key ∈ rest.map (·.1) <;> simp [hmem, h']

theorem paramValues?_addParam (r : Request) (k v key : String) :
    (r.addParam k v).paramValues? key =
      if k = key then some (insertSorted v ((r.paramValues? key).getD []))
      else r.paramValues? key := by
  rw [addParam, paramValues?, paramValues?]
  change ((addToSet k v r.params).find? _).map _ = _
  induction r.params with
  | nil =>
    by_cases h : k = key <;> simp [addToSet, insertSorted, h]
  | cons p rest ih =>
    rw [addToSet]
    by_cases hp : p.1 = k
    · by_cases h : k = key <;> simp [hp, h]
    · rw [if_neg hp]
      by_cases h : p.1 = key
      · have hk : ¬ k = key := fun hk => hp (h.trans hk.symm)
        simp [h, hk]
      · simpa [h] using ih

theorem Carries.addParam {r : Request} {pairs : List (String × String)} (h : r.Carries pairs)
    (k v : String) : (r.addParam k v).Carries (pairs ++ [(k, v)]) where
  keys := by
    change ((addToSet k v r.params).map (·.1)).Nodup
    rw [keys_addToSet]
    split
    · exact h.keys
    · rename_i hk
      refine List.nodup_append.mpr ⟨h.keys, List.nodup_singleton k, fun a ha b hb hab => hk ?_⟩
      rwa [← List.mem_singleton.mp hb, ← hab]
  absent key := by
    rw [paramValues?_addParam]
    split
    · rename_i hk
      subst hk
      exact iff_of_false nofun fun hnone => hnone v (by simp)
    · rename_i hk
      rw [h.absent]
      simp [Ne.symm hk]
  sets key values hvalues := by
    rw [paramValues?_addParam] at hvalues
    split at hvalues
    · rename_i hk
      subst hk
      obtain rfl := Option.some.inj hvalues
      cases hr : r.paramValues? k with
      | none =>
        have hnone := (h.absent k).mp hr
        refine ⟨List.pairwise_singleton _ _, fun w => ?_⟩
        simp [insertSorted, hnone w]
      | some values =>
        obtain ⟨hsorted, hmem⟩ := h.sets k values hr
        refine ⟨pairwise_insertSorted hsorted, fun w => ?_⟩
        simp [mem_insertSorted, hmem w, or_comm]
    · rename_i hk
      obtain ⟨hsorted, hmem⟩ := h.sets key values hvalues
      refine ⟨hsorted, fun w => ?_⟩
      simp [hmem w, Ne.symm hk]

/-- Parameters that are added leave everything else as it is. -/
theorem addParams_eq (r : Request) (pairs : List (String × String)) :
    r.addParams pairs = { r with params := (r.addParams pairs).params } := by
  induction pairs generalizing r with
  | nil => rfl
  | cons p pairs ih => exact ih (r.addParam p.1 p.2)

/-- **Parameters in sets.** Parameters that are added join the sets of their keys. -/
theorem Carries.addParams {r : Request} {pairs : List (String × String)} (h : r.Carries pairs)
    (more : List (String × String)) : (r.addParams more).Carries (pairs ++ more) := by
  induction more generalizing r pairs with
  | nil => exact (List.append_nil pairs).symm ▸ h
  | cons p more ih =>
    rw [Request.addParams, List.foldl_cons, ← Request.addParams, List.append_cons]
    exact ih (h.addParam p.1 p.2)

end Request

end Switchboard
