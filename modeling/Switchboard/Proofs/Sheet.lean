import Switchboard.Proofs.RequestHead
import Switchboard.Proofs.Vetting

/-!
# Sheets of patterns

The patterns of an allow list are kept in a file as an array of strings or as a sheet: one string
with a pattern on each line, among blank lines and comments. Whoever writes a sheet is free to
indent its lines, to leave blanks behind them and to end them in either way, so `Sheet` is a
relation; `AllowSource.patternLines` reads what it relates (`Sheet.patternLines_eq`). What a gate
decides depends on what its source holds and not on how that is described
(`Gate.allow_described`).

Main statement: `AllowSource.forms_agree`. Both forms hold the same patterns, a gate decides by
either of them as by the patterns themselves, and what is of neither form is no list at all.
-/

namespace Switchboard

/-! ### Sheets -/

/-- Blanks inside a line. -/
def IsSpace (cs : List Char) : Prop := ∀ c ∈ cs, Blank.isBlank c = true ∧ c ≠ '\n'

/-- A pattern that can stand on a line: it is not empty, has no line end in it, neither begins nor
ends with a blank, and is no comment. -/
structure IsLinePattern (pattern : String) : Prop where
  ne_empty : pattern ≠ ""
  line : '\n' ∉ pattern.toList
  trimmed : RequestHead.IsTrimmed pattern
  not_comment : pattern.toList.head? ≠ some '#'

/-- A line of a sheet, with the pattern on it, if there is one. -/
inductive SheetLine : Option String → List Char → Prop where
  | blank {space : List Char} (hspace : IsSpace space) : SheetLine none space
  | comment {indent note : List Char} (hindent : IsSpace indent) (hnote : '\n' ∉ note) :
      SheetLine none (indent ++ '#' :: note)
  | pattern {indent trail : List Char} {p : String} (hindent : IsSpace indent)
      (hp : IsLinePattern p) (htrail : IsSpace trail) :
      SheetLine (some p) (indent ++ p.toList ++ trail)

/-- A sheet with its patterns in order. Each line is ended by a line feed, with or without a
carriage return before it; the last one may lack its end. -/
inductive Sheet : List String → List Char → Prop where
  | last {p : Option String} {line : List Char} (hline : SheetLine p line) : Sheet p.toList line
  | line {p : Option String} {patterns : List String} {line ending rest : List Char}
      (hline : SheetLine p line) (hending : ending = ['\n'] ∨ ending = ['\r', '\n'])
      (h : Sheet patterns rest) : Sheet (p.toList ++ patterns) (line ++ ending ++ rest)

namespace Blank

theorem trimStart_append {before : List Char} (h : ∀ c ∈ before, isBlank c = true)
    (cs : List Char) : trimStart (before ++ cs) = trimStart cs :=
  List.dropWhile_append_of_pos h

theorem trimEnd_append {after : List Char} (h : ∀ c ∈ after, isBlank c = true) (cs : List Char) :
    trimEnd (cs ++ after) = trimEnd cs := by
  have hreverse : ∀ c ∈ after.reverse, isBlank c = true := fun c hc => h c (List.mem_reverse.mp hc)
  rw [trimEnd, List.reverse_append, ← trimStart, trimStart_append hreverse]
  rfl

/-- Nothing is left of blanks. -/
theorem trimChars_blank {cs : List Char} (h : ∀ c ∈ cs, isBlank c = true) : trimChars cs = [] := by
  rw [trimChars, trimStart, List.dropWhile_eq_nil_iff.mpr h]
  rfl

/-- Blanks around a text that neither begins nor ends with one are dropped. -/
theorem trimChars_append {before after : List Char} {s : String}
    (hbefore : ∀ c ∈ before, isBlank c = true) (hs : RequestHead.IsTrimmed s) (hne : s ≠ "")
    (hafter : ∀ c ∈ after, isBlank c = true) :
    trimChars (before ++ s.toList ++ after) = s.toList := by
  have hhead : ∀ c, (s.toList ++ after).head? = some c → isBlank c = false := fun c hc => by
    rw [List.head?_append_of_ne_nil _ (by simpa using hne)] at hc
    exact hs.1 c hc
  rw [trimChars, List.append_assoc, trimStart_append hbefore, trimStart_eq hhead,
    trimEnd_append hafter, trimEnd_eq hs.2]

/-- A first character that is no blank stays the first one. -/
theorem head?_trimChars {before cs : List Char} {c : Char}
    (hbefore : ∀ c ∈ before, isBlank c = true) (hc : isBlank c = false) :
    (trimChars (before ++ c :: cs)).head? = some c := by
  have hhead : ∀ d, (c :: cs).head? = some d → isBlank d = false := by
    rintro d ⟨⟩
    exact hc
  rw [trimChars, trimStart_append hbefore, trimStart_eq hhead, trimEnd, List.reverse_cons,
    List.dropWhile_append]
  split
  · rw [List.dropWhile_cons_of_neg (by simp [hc])]
    rfl
  · simp

end Blank

/-! ### Reading a sheet -/

theorem IsSpace.blank {cs : List Char} (h : IsSpace cs) : ∀ c ∈ cs, Blank.isBlank c = true :=
  fun c hc => (h c hc).1

theorem IsSpace.append {cs ds : List Char} (hcs : IsSpace cs) (hds : IsSpace ds) :
    IsSpace (cs ++ ds) :=
  fun c hc => (List.mem_append.mp hc).elim (hcs c) (hds c)

theorem IsSpace.not_mem {cs : List Char} (h : IsSpace cs) : '\n' ∉ cs := fun hc => (h _ hc).2 rfl

namespace SheetLine

variable {p : Option String} {line : List Char}

theorem not_mem (h : SheetLine p line) : '\n' ∉ line := by
  cases h with
  | blank hspace => exact hspace.not_mem
  | comment hindent hnote => simp [hindent.not_mem, hnote]
  | pattern hindent hp htrail => simp [hindent.not_mem, hp.line, htrail.not_mem]

/-- Blanks may follow any line. -/
theorem append (h : SheetLine p line) {space : List Char} (hspace : IsSpace space) :
    SheetLine p (line ++ space) := by
  cases h with
  | blank hline => exact .blank (hline.append hspace)
  | comment hindent hnote =>
    rw [List.append_assoc, List.cons_append]
    exact .comment hindent (by simp [hnote, hspace.not_mem])
  | pattern hindent hp htrail =>
    rw [List.append_assoc]
    exact .pattern hindent hp (htrail.append hspace)

/-- A line is read as the pattern on it. -/
theorem patternLine?_eq (h : SheetLine p line) : AllowSource.patternLine? line = p := by
  rw [AllowSource.patternLine?]
  cases h with
  | blank hspace => rw [Blank.trimChars_blank hspace.blank]; rfl
  | comment hindent hnote =>
    have hmark : Blank.isBlank '#' = false := rfl
    rw [if_pos (by simp [Blank.head?_trimChars hindent.blank hmark])]
  | pattern hindent hp htrail =>
    rw [Blank.trimChars_append hindent.blank hp.trimmed hp.ne_empty htrail.blank]
    simp [hp.ne_empty, hp.not_comment]

/-- What is read from a line and the lines after it. -/
theorem filterMap_cons (h : SheetLine p line) (lines : List (List Char)) :
    (line :: lines).filterMap AllowSource.patternLine? =
      p.toList ++ lines.filterMap AllowSource.patternLine? := by
  rw [List.filterMap_cons, h.patternLine?_eq]
  cases p <;> rfl

end SheetLine

namespace Sheet

theorem filterMap_splitOn {patterns : List String} {chars : List Char} (h : Sheet patterns chars) :
    (chars.splitOn '\n').filterMap AllowSource.patternLine? = patterns := by
  induction h with
  | last hline =>
    rw [List.splitOn_eq_singleton hline.not_mem, hline.filterMap_cons, List.filterMap_nil,
      List.append_nil]
  | @line p patterns line ending rest hline hending _ ih =>
    -- a carriage return in front of the line feed is one more blank on the line
    obtain ⟨space, hspace, rfl⟩ : ∃ space, IsSpace space ∧ ending = space ++ ['\n'] := by
      obtain rfl | rfl := hending
      · exact ⟨[], nofun, rfl⟩
      · exact ⟨['\r'], by simp [IsSpace, Blank.isBlank], rfl⟩
    have hline := hline.append hspace
    rw [← List.append_assoc, List.append_assoc _ ['\n'], List.singleton_append,
      List.splitOn_append_cons_self_of_not_mem hline.not_mem, hline.filterMap_cons, ih]

/-- **Sheets are read back.** The patterns of a sheet are read in order. -/
theorem patternLines_eq {patterns : List String} {text : String} (h : Sheet patterns text.toList) :
    AllowSource.patternLines text = patterns :=
  h.filterMap_splitOn

/-- A comment, an indented pattern, a blank line, and a pattern between blanks without a line end. -/
theorem sample : Sheet ["10\\.1", "lan"] "# office\r\n  10\\.1\r\n\n\tlan ".toList := by
  have hspaces : IsSpace [] ∧ IsSpace [' ', ' '] ∧ IsSpace ['\t'] ∧ IsSpace [' '] := by
    refine ⟨nofun, ?_, ?_, ?_⟩ <;> simp [IsSpace, Blank.isBlank]
  have hpatterns : IsLinePattern "10\\.1" ∧ IsLinePattern "lan" :=
    ⟨⟨by decide, by decide, ⟨by simp; decide, by simp; decide⟩, by decide⟩,
      ⟨by decide, by decide, ⟨by simp; decide, by simp; decide⟩, by decide⟩⟩
  obtain ⟨hnil, hindent, htab, hspace⟩ := hspaces
  have hcomment : SheetLine none ([] ++ '#' :: " office".toList) := .comment hnil (by decide)
  have hfirst : SheetLine (some "10\\.1") ([' ', ' '] ++ "10\\.1".toList ++ []) :=
    .pattern hindent hpatterns.1 hnil
  have hlast : SheetLine (some "lan") (['\t'] ++ "lan".toList ++ [' ']) :=
    .pattern htab hpatterns.2 hspace
  simpa using Sheet.line hcomment (.inr rfl)
    (.line hfirst (.inr rfl) (.line (.blank hnil) (.inl rfl) (.last hlast)))

end Sheet

/-! ### Gates whose sources hold the same -/

namespace Gate

variable {t : Moments} {source : String} {reverse sensitive : Bool}

/-- A gate with its source under another description. -/
def described (g : Gate) (description : String) : Gate :=
  { g with source := { g.source with description } }

theorem check_described (g : Gate) (description : String) (list : AllowList) (source : String)
    (reverse sensitive : Bool) :
    (g.described description).check list source reverse sensitive =
      ((g.check list source reverse sensitive).1.described description,
        (g.check list source reverse sensitive).2) := by
  unfold check
  split
  · rfl
  · split <;> rfl

theorem load_described (g : Gate) (description : String) (now : ℕ) :
    (g.described description).load now =
      ((g.load now).1.described description, (g.load now).2) := rfl

theorem ask_described (g : Gate) (description : String) (list : AllowList) :
    (g.described description).ask t source reverse sensitive list =
      ((g.ask t source reverse sensitive list).1.described description,
        (g.ask t source reverse sensitive list).2) := by
  rw [ask, ask, check_described]
  rcases g.check list source reverse sensitive with ⟨g₁, _ | _⟩
  · dsimp only
    split
    · rw [load_described]
      rcases g₁.load t.reload with ⟨g₂, e | fresh⟩
      · rfl
      · exact check_described g₂ description fresh source reverse sensitive
    · rfl
  · rfl

/-- A gate decides in the same way and ends up the same, however its source is described. -/
theorem allow_described (g : Gate) (description : String) :
    (g.described description).allow t source reverse sensitive =
      ((g.allow t source reverse sensitive).1.described description,
        (g.allow t source reverse sensitive).2) := by
  have hfresh : (g.described description).fresh? t.fetch = g.fresh? t.fetch := rfl
  have hattempt : (g.described description).attempt t.load = g.attempt t.load := rfl
  rw [allow_eq, allow_eq, hfresh, hattempt]
  split
  · rfl
  · cases g.fresh? t.fetch with
    | some list => exact ask_described g description list
    | none =>
      cases g.attempt t.load with
      | error e => rfl
      | ok list => exact ask_described (g.load t.load).1 description list

theorem perform_described (g : Gate) (description : String) (act : Act) :
    (g.described description).perform act = (g.perform act).described description := by
  cases act with
  | allow t source reverse sensitive => exact congrArg Prod.fst (allow_described g description)
  | reload now => rfl
  | invalidate => rfl
  | edit contents => rfl

theorem after_described (g : Gate) (description : String) (acts : List Act) :
    (g.described description).after acts = (g.after acts).described description := by
  induction acts generalizing g with
  | nil => rfl
  | cons act acts ih =>
    rw [after, List.foldl_cons, perform_described]
    exact ih (g.perform act)

/-- Gates **agree** if they decide the same after any history. -/
def Agree (g g' : Gate) : Prop :=
  ∀ acts t source reverse sensitive, ((g.after acts).allow t source reverse sensitive).2 =
    ((g'.after acts).allow t source reverse sensitive).2

theorem agree_described (g : Gate) (description : String) : Agree (g.described description) g := by
  intro acts t source reverse sensitive
  rw [after_described, allow_described]

end Gate

namespace AllowSource

/-- A gate decides by what its source holds. -/
theorem agree_of_contents {s : AllowSource} {patterns : List String}
    (h : s.contents = .ok patterns) (canaries : List String) (timeToLive : ℕ)
    (hosts : String → List String) :
    Gate.Agree { source := s, canaries, timeToLive, hosts }
      { source := .inline patterns, canaries, timeToLive, hosts } := by
  obtain ⟨description, contents⟩ := s
  obtain rfl := h
  exact Gate.agree_described { source := .inline patterns, canaries, timeToLive, hosts } description

/-! ### The two forms -/

/-- A file **holds** a table if its text is a document with these members. -/
def Holds (f : File) (ms : Toml.Members) : Prop :=
  ∃ text, f.text = .ok text ∧ Toml.parse? text = some ms

/-- A value **lists** patterns: one by one, or on a sheet. -/
inductive Lists (patterns : List String) : Toml.Value → Prop where
  | array : Lists patterns (.arr (patterns.map .str))
  | sheet {text : String} (h : Sheet patterns text.toList) : Lists patterns (.str text)

/-- A value of neither form: no array of strings, and no string. -/
def IsNoList (v : Toml.Value) : Prop :=
  (∀ texts : List String, v ≠ .arr (texts.map .str)) ∧ ∀ text, v ≠ .str text

variable {f : File} {ms : Toml.Members} {key : String} {v : Toml.Value} {patterns : List String}

theorem str?_eq_some_iff {text : String} : v.str? = some text ↔ v = .str text := by
  cases v <;> simp [Toml.Value.str?]

/-- An array has texts for its items exactly if all of them are strings. -/
theorem mapM_str?_eq_some_iff {items : List Toml.Value} {texts : List String} :
    items.mapM Toml.Value.str? = some texts ↔ items = texts.map .str := by
  induction items generalizing texts with
  | nil => cases texts <;> simp
  | cons v items ih =>
    cases texts <;> simp [List.mapM_cons, Option.bind_eq_some_iff, str?_eq_some_iff, ih]

theorem patterns?_eq_some_iff : patterns? ms key = some patterns ↔
    ms.get? key = some (.arr (patterns.map .str)) ∨
      ∃ text, ms.get? key = some (.str text) ∧ patternLines text = patterns := by
  rw [patterns?]
  cases hv : ms.get? key with
  | none => simp
  | some v => cases v <;> simp [mapM_str?_eq_some_iff]

theorem patterns?_of_lists (hv : ms.get? key = some v) (h : Lists patterns v) :
    patterns? ms key = some patterns := by
  rw [patterns?_eq_some_iff]
  cases h with
  | array => exact .inl hv
  | sheet h => exact .inr ⟨_, hv, h.patternLines_eq⟩

theorem patterns?_eq_none_iff :
    patterns? ms key = none ↔ ∀ v, ms.get? key = some v → IsNoList v := by
  rw [patterns?]
  cases hv : ms.get? key with
  | none => simp
  | some v =>
    simp only [Option.some.injEq, forall_eq']
    cases v with
    | arr items => simp [IsNoList, Option.eq_none_iff_forall_ne_some, mapM_str?_eq_some_iff]
    | str text => simp [IsNoList]
    | _ => simp [IsNoList]

/-- What is loaded from a file that holds a table. -/
theorem contents_file (h : Holds f ms) (name key : String) :
    (file name key f).contents =
      match patterns? ms key with
      | some patterns => .ok patterns
      | none => .error (.missingKey name key) := by
  obtain ⟨text, htext, hparse⟩ := h
  cases hpatterns : patterns? ms key <;> simp [file, readFile, htext, hparse, hpatterns]

/-- **The forms of a list agree.** A file whose table has a list of patterns under the key, in
either form, holds exactly these in order, and a gate decides by it as by the patterns themselves.
If there is nothing under the key, or a value of neither form, the key counts as missing. -/
theorem forms_agree (h : Holds f ms) (name key : String) :
    (∀ v patterns, ms.get? key = some v → Lists patterns v →
      (file name key f).contents = .ok patterns ∧
      ∀ canaries timeToLive hosts,
        Gate.Agree { source := file name key f, canaries, timeToLive, hosts }
          { source := .inline patterns, canaries, timeToLive, hosts }) ∧
    ((file name key f).contents = .error (.missingKey name key) ↔
      ∀ v, ms.get? key = some v → IsNoList v) := by
  have hcontents := contents_file h name key
  refine ⟨fun v patterns hv hlists => ?_, ?_⟩
  · rw [patterns?_of_lists hv hlists] at hcontents
    exact ⟨hcontents, agree_of_contents hcontents⟩
  · rw [hcontents, ← patterns?_eq_none_iff]
    cases patterns? ms key <;> simp

/-- The document of a file with both forms: an array, a sheet with a comment, a blank line, both
kinds of line ends and blanks around the patterns, and a number. -/
def bothForms : String :=
  "allow = ['10\\.1', \"lan\"]\nhosts = \"# office\\r\\n  10\\\\.1\\r\\n\\n\\tlan \"\nport = 3\n"

/-- Both forms in one file, a value of neither form, and a key that is missing. -/
theorem forms_agree_sample :
    let f : File := some (utf8 bothForms)
    let gate (s : AllowSource) : Gate := { source := s, canaries := ["8.8.8.8"], timeToLive := 60 }
    (∃ ms, Holds f ms) ∧
      (file "lists" "allow" f).contents = .ok ["10\\.1", "lan"] ∧
      (file "lists" "hosts" f).contents = .ok ["10\\.1", "lan"] ∧
      Gate.Agree (gate (file "lists" "hosts" f)) (gate (.inline ["10\\.1", "lan"])) ∧
      (file "lists" "port" f).contents = .error (.missingKey "lists" "port") ∧
      (file "lists" "none" f).contents = .error (.missingKey "lists" "none") := by
  intro f gate
  obtain ⟨ms, hms⟩ := Option.isSome_iff_exists.mp
    (by decide +kernel : (Toml.parse? bothForms).isSome = true)
  have hholds : Holds f ms := ⟨bothForms, by simp [f, File.text, textOfBytes?_utf8], hms⟩
  -- what the table holds under each key
  have hread : (Toml.parse? bothForms).all (fun ms =>
      patterns? ms "allow" == some ["10\\.1", "lan"] &&
      (ms.get? "allow").bind Toml.Value.str? == none &&
      (ms.get? "hosts").bind Toml.Value.str? == some "# office\r\n  10\\.1\r\n\n\tlan " &&
      patterns? ms "port" == none && patterns? ms "none" == none) = true := by
    decide +kernel
  rw [hms, Option.all_some] at hread
  simp only [Bool.and_eq_true, beq_iff_eq] at hread
  obtain ⟨⟨⟨⟨hallow, harray⟩, hhosts⟩, hport⟩, hnone⟩ := hread
  have hallow : ms.get? "allow" = some (.arr (["10\\.1", "lan"].map .str)) := by
    refine (patterns?_eq_some_iff.mp hallow).resolve_right ?_
    rintro ⟨text, htext, -⟩
    rw [htext] at harray
    cases harray
  obtain ⟨v, hhosts, hv⟩ := Option.bind_eq_some_iff.mp hhosts
  obtain rfl := str?_eq_some_iff.mp hv
  have hlines := (forms_agree hholds "lists" "hosts").1 _ _ hhosts (.sheet Sheet.sample)
  exact ⟨⟨ms, hholds⟩, ((forms_agree hholds _ _).1 _ _ hallow .array).1, hlines.1,
    hlines.2 ["8.8.8.8"] 60 fun _ => [],
    (forms_agree hholds _ _).2.mpr (patterns?_eq_none_iff.mp hport),
    (forms_agree hholds _ _).2.mpr (patterns?_eq_none_iff.mp hnone)⟩

end AllowSource

end Switchboard
