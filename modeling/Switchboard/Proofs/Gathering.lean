import Switchboard.Proofs.ByteOrder
import Switchboard.Proofs.Override

/-!
# What a request gathers

Headers and parameters are added to a request one by one, in any order and any spelling. What it
holds after each of them is said in terms of the list of all that was added (`Request.Gathered`):
the headers are in groups, one for each name, and the parameters are in sets, one for each key. An
addition to either leaves the other alone, so what one of them keeps holds after any mix of both.

Main statement: `Request.gathers`. Readers of a request see all that was added to it: under a name,
in any case, all values in the order of arrival, and under a key the set of its values, of which the
least in the order of bytes comes first.
-/

namespace Switchboard.Request

/-! ### Additions -/

/-- Something that is added to a request. -/
inductive Addition where
  | header (name value : String)
  | param (key value : String)

/-- A header, with its value. -/
def Addition.header? : Addition → Option (String × String)
  | .header name value => some (name, value)
  | .param _ _ => none

/-- A parameter, with its value. -/
def Addition.param? : Addition → Option (String × String)
  | .header _ _ => none
  | .param key value => some (key, value)

/-- Adds a header or a parameter. -/
def add (r : Request) : Addition → Request
  | .header name value => r.addHeader name value
  | .param key value => r.addParam key value

/-- Adds one after the other. -/
def addAll (r : Request) (added : List Addition) : Request := added.foldl add r

/-- The headers among what is added, in order. -/
def headersIn (added : List Addition) : List (String × String) := added.filterMap Addition.header?

/-- The parameters among what is added, in order. -/
def paramsIn (added : List Addition) : List (String × String) := added.filterMap Addition.param?

/-! ### What is kept by every addition -/

/-- A request has **gathered** what was added: the headers in groups, each under the first spelling
of its name, and the parameters in sets. -/
structure Gathered (r : Request) (added : List Addition) : Prop where
  headers : r.headers = grouped (headersIn added)
  params : r.Carries (paramsIn added)

variable {r : Request} {added : List Addition} {key v : String}

theorem gathered_nil (hheaders : r.headers = []) (hparams : r.params = []) : r.Gathered [] where
  headers := hheaders
  params := carries_nil hparams

theorem headersIn_concat (added : List Addition) (a : Addition) :
    headersIn (added ++ [a]) = headersIn added ++ a.header?.toList :=
  List.filterMap_append

theorem paramsIn_concat (added : List Addition) (a : Addition) :
    paramsIn (added ++ [a]) = paramsIn added ++ a.param?.toList :=
  List.filterMap_append

/-- An addition is gathered, and leaves what is of the other kind as it was. -/
theorem Gathered.add (h : r.Gathered added) (a : Addition) : (r.add a).Gathered (added ++ [a]) := by
  cases a with
  | header name value =>
    constructor
    · rw [headersIn_concat, Addition.header?, Option.toList_some, grouped_concat, ← h.headers]
      rfl
    · rw [paramsIn_concat, Addition.param?, Option.toList_none, List.append_nil]
      exact ⟨h.params.keys, h.params.absent, h.params.sets⟩
  | param key value =>
    constructor
    · rw [headersIn_concat, Addition.header?, Option.toList_none, List.append_nil]
      exact h.headers
    · rw [paramsIn_concat, Addition.param?, Option.toList_some]
      exact h.params.addParam key value

/-- A request gathers one addition after the other. -/
theorem Gathered.addAll (h : r.Gathered added) (more : List Addition) :
    (r.addAll more).Gathered (added ++ more) := by
  induction more generalizing r added with
  | nil => exact (List.append_nil added).symm ▸ h
  | cons a more ih =>
    rw [Request.addAll, List.foldl_cons, ← Request.addAll, List.append_cons]
    exact ih (h.add a)

/-! ### What readers see -/

/-- The names of the groups are the first spellings of the names that were added. -/
theorem Gathered.names (h : r.Gathered added) :
    r.headers.map (·.1) = spellings ((headersIn added).map (·.1)) := by
  rw [h.headers, grouped, List.map_map]
  exact List.map_id _

/-- The values of a key are in the order of bytes. -/
theorem Carries.pairwise_utf8 {pairs : List (String × String)} {values : List String}
    (h : r.Carries pairs) (hvalues : r.paramValues? key = some values) :
    values.Pairwise fun v w => utf8 v < utf8 w :=
  (h.sets key values hvalues).1.imp utf8_lt_utf8

/-- A value of a key is read exactly if it is the first of those that were given in the order of
bytes. -/
theorem Carries.param?_eq_some_iff {pairs : List (String × String)} (h : r.Carries pairs) :
    r.param? key = some v ↔ v ∈ given key pairs ∧ ∀ w ∈ given key pairs, utf8 v ≤ utf8 w := by
  simp only [utf8_le_utf8_iff]
  refine ⟨fun hparam => h.isLeast_of_param? hparam, fun hleast => ?_⟩
  obtain ⟨w, hw⟩ := Option.ne_none_iff_exists'.mp
    (mt h.param?_eq_none_iff.mp (Set.nonempty_iff_ne_empty.mp ⟨v, hleast.1⟩))
  obtain ⟨hmem, hle⟩ := h.isLeast_of_param? hw
  rw [hw, String.le_antisymm (hle hleast.1) (hleast.2 w hmem)]

/-- **Headers and parameters.** After any additions to a request that had neither, no two groups of
headers have the same name in any case, and they stand under the first spellings in the order in
which these came. A header is read in any case as all that was added to its name, first come first.
A parameter is read as the set of what was added under its key, in the order of bytes, and as the
first value of it; it is absent exactly if nothing was added. -/
theorem gathers (hheaders : r.headers = []) (hparams : r.params = []) (added : List Addition) :
    let g := r.addAll added
    let headers := headersIn added
    let params := paramsIn added
    (g.headers.Pairwise fun h h' => asciiCaseEq h.1 h'.1 = false) ∧
      g.headers.map (·.1) = spellings (headers.map (·.1)) ∧
      (∀ name,
        g.headerValues name = (headers.filter fun h => asciiCaseEq name h.1).map (·.2) ∧
        g.header? name = (headers.find? fun h => asciiCaseEq name h.1).map (·.2)) ∧
      ∀ key,
        (g.paramValues? key = none ↔ given key params = ∅) ∧
        (∀ values, g.paramValues? key = some values →
          (values.Pairwise fun v w => utf8 v < utf8 w) ∧ {v | v ∈ values} = given key params) ∧
        (g.param? key = none ↔ given key params = ∅) ∧
        ∀ v, g.param? key = some v ↔
          v ∈ given key params ∧ ∀ w ∈ given key params, utf8 v ≤ utf8 w := by
  intro g headers params
  have h : g.Gathered added := (gathered_nil hheaders hparams).addAll added
  have hdistinct : (g.headers.map (·.1)).Pairwise fun a b => asciiCaseEq a b = false := by
    rw [h.names]
    exact pairwise_spellings _
  refine ⟨List.pairwise_map.mp hdistinct, h.names, fun name => ?_, fun key => ?_⟩
  · exact ⟨headerValues_grouped h.headers name, header?_grouped h.headers name⟩
  · have habsent : g.paramValues? key = none ↔ given key params = ∅ :=
      (h.params.absent key).trans Set.eq_empty_iff_forall_notMem.symm
    refine ⟨habsent, fun values hvalues => ?_, h.params.param?_eq_none_iff, fun v => ?_⟩
    · exact ⟨h.params.pairwise_utf8 hvalues, Set.ext (h.params.sets key values hvalues).2⟩
    · exact h.params.param?_eq_some_iff

/-- A header in two spellings with a parameter in between that has two values. -/
theorem gathers_sample :
    let added : List Addition := [.header "X-Trace" "a", .param "tag" "b", .header "x-trace" "b",
      .param "tag" "a", .header "Accept" "text/html"]
    let g := ({} : Request).addAll added
    ({} : Request).headers = [] ∧ ({} : Request).params = [] ∧
      g.headers.map (·.1) = ["X-Trace", "Accept"] ∧
      g.headerValues "X-TRACE" = ["a", "b"] ∧ g.header? "X-TRACE" = some "a" ∧
      g.param? "tag" = some "a" ∧ g.param? "Tag" = none := by
  intro added g
  obtain ⟨-, hnames, hheaders, hparams⟩ := gathers (r := {}) rfl rfl added
  obtain ⟨hvalues, hfirst⟩ := hheaders "X-TRACE"
  obtain ⟨-, -, -, htag⟩ := hparams "tag"
  obtain ⟨-, -, hnone, -⟩ := hparams "Tag"
  refine ⟨rfl, rfl, hnames.trans (by decide), hvalues.trans (by decide), hfirst.trans (by decide),
    (htag "a").mpr ⟨by simp [given, paramsIn, Addition.param?, added], fun w hw => ?_⟩,
    hnone.mpr ?_⟩
  · obtain rfl | rfl : "b" = w ∨ "a" = w := by
      simpa [given, paramsIn, Addition.param?, added] using hw
    · exact utf8_le_utf8_iff.mpr (by decide)
    · exact utf8_le_utf8_iff.mpr (String.le_refl _)
  · ext w
    simp [given, paramsIn, Addition.param?, added]

end Switchboard.Request
