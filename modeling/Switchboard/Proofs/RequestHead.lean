import Mathlib.Data.List.TakeWhile
import Switchboard.Proofs.Bytes
import Switchboard.Proofs.Fields
import Switchboard.Wire.Head

/-!
# Request heads are read back

What reading does with a line, with the words of a request line and with a header, and from that:
a well-formed head is read back as it was meant, whatever follows it, whichever way each of its
lines is ended, and whatever pieces the bytes arrive in.

Main statement: `Inbound.read_written`.
-/

namespace Switchboard

/-- Everything before an element, and everything from it on, where it does not occur before. -/
private theorem span_ne {α : Type} [DecidableEq α] {a : α} {before : List α} (h : a ∉ before)
    (rest : List α) :
    (before ++ a :: rest).takeWhile (· != a) = before ∧
      (before ++ a :: rest).dropWhile (· != a) = a :: rest := by
  have hall : ∀ x ∈ before, (x != a) = true := fun x hx => bne_iff_ne.mpr fun hxa => h (hxa ▸ hx)
  constructor
  · rw [List.takeWhile_append_of_pos hall, List.takeWhile_cons_of_neg (by simp), List.append_nil]
  · rw [List.dropWhile_append_of_pos hall, List.dropWhile_cons_of_neg (by simp)]

/-! ### Written lines -/

namespace WrittenLines

variable {lines more : List String} {line : String} {bytes : List UInt8}

theorem append_iff : WrittenLines (lines ++ more) bytes ↔
    ∃ before after, WrittenLines lines before ∧ WrittenLines more after ∧
      before ++ after = bytes := by
  induction lines generalizing bytes with
  | nil =>
    refine ⟨fun h => ⟨[], bytes, .nil, h, rfl⟩, ?_⟩
    rintro ⟨_, after, ⟨⟩, h, rfl⟩
    exact h
  | cons line lines ih =>
    constructor
    · rintro (_ | ⟨hending, h⟩)
      obtain ⟨before, after, hbefore, hafter, rfl⟩ := ih.mp h
      exact ⟨_, after, .cons hending hbefore, hafter, List.append_assoc _ _ _⟩
    · rintro ⟨_, after, _ | ⟨hending, hbefore⟩, hafter, rfl⟩
      rw [List.append_assoc]
      exact .cons hending (ih.mpr ⟨_, after, hbefore, hafter, rfl⟩)

theorem singleton_iff :
    WrittenLines [line] bytes ↔ ∃ ending, IsLineEnd ending ∧ utf8 line ++ ending = bytes := by
  constructor
  · rintro (_ | ⟨hending, _ | _⟩)
    exact ⟨_, hending, (List.append_nil _).symm⟩
  · rintro ⟨ending, hending, rfl⟩
    have hline : WrittenLines [line] (utf8 line ++ ending ++ []) := .cons hending .nil
    rwa [List.append_nil] at hline

end WrittenLines

/-! ### The request of a head -/

/-- The request that a head means. -/
def RequestHead.request (h : RequestHead) (id : RequestId) (source : String) : Request :=
  let plain : Request := { id, source, method := .parse h.method, path := h.path }
  { plain with headers := grouped h.headers, params := (plain.addParams h.pairs).params }

/-- Its parameters are those of the query. -/
theorem RequestHead.carries_request (h : RequestHead) (id : RequestId) (source : String) :
    (h.request id source).Carries h.pairs := by
  let plain : Request := { id, source, method := .parse h.method, path := h.path }
  have hcarries := (Request.carries_nil (r := plain) rfl).addParams h.pairs
  exact ⟨hcarries.keys, hcarries.absent, hcarries.sets⟩

/-! ### Words, pieces and blanks -/

namespace Blank

theorem isBlank_space : isBlank ' ' = true := rfl

/-- Characters that are no blanks belong to the present word. -/
theorem wordsFrom_append {cs : List Char} (h : ∀ c ∈ cs, isBlank c = false)
    (word rest : List Char) :
    wordsFrom word (cs ++ rest) = wordsFrom (cs.reverse ++ word) rest := by
  induction cs generalizing word with
  | nil => rfl
  | cons c cs ih =>
    obtain ⟨hc, hcs⟩ := List.forall_mem_cons.mp h
    rw [List.cons_append, wordsFrom, if_neg (by simp [hc]), ih hcs, List.reverse_cons,
      List.append_assoc, List.singleton_append]

/-- A blank after a word ends it. -/
theorem wordsFrom_blank {word : List Char} (h : word ≠ []) (rest : List Char) :
    wordsFrom word (' ' :: rest) = word.reverse :: wordsFrom [] rest := by
  rw [wordsFrom, if_pos isBlank_space, if_neg (by simpa using h)]

/-- Three words with a blank between them. -/
theorem words_three {a b c : String} (ha : RequestHead.IsWord a) (hb : RequestHead.IsWord b)
    (hc : RequestHead.IsWord c) : words (a ++ " " ++ b ++ " " ++ c) = [a, b, c] := by
  have hne {s : String} (h : RequestHead.IsWord s) : s.toList.reverse ++ [] ≠ [] := by
    simpa using h.1
  have htext : (a ++ " " ++ b ++ " " ++ c).toList =
      a.toList ++ ' ' :: (b.toList ++ ' ' :: (c.toList ++ [])) := by
    simp [String.toList_append]
  rw [words, htext, wordsFrom_append ha.2, wordsFrom_blank (hne ha), wordsFrom_append hb.2,
    wordsFrom_blank (hne hb), wordsFrom_append hc.2, wordsFrom, if_neg (by simpa using hc.1)]
  simp

theorem trimStart_eq {cs : List Char} (h : ∀ c, cs.head? = some c → isBlank c = false) :
    trimStart cs = cs := by
  cases cs with
  | nil => rfl
  | cons c cs => rw [trimStart, List.dropWhile_cons_of_neg (by simp [h c rfl])]

theorem trimEnd_eq {cs : List Char} (h : ∀ c, cs.getLast? = some c → isBlank c = false) :
    trimEnd cs = cs := by
  rw [trimEnd, ← trimStart, trimStart_eq (by simpa using h), List.reverse_reverse]

theorem trim_eq {s : String} (h : RequestHead.IsTrimmed s) : trim s = s := by
  rw [trim, trimChars, trimStart_eq h.1, trimEnd_eq h.2, String.ofList_toList]

/-- A blank in front is dropped. -/
theorem trim_space_append {s : String} (h : RequestHead.IsTrimmed s) : trim (" " ++ s) = s := by
  have hstart : trimStart (" " ++ s).toList = trimStart s.toList := by
    rw [String.toList_append]
    exact List.dropWhile_cons_of_pos isBlank_space
  rw [trim, trimChars, hstart, ← trimChars, ← trim, trim_eq h]

end Blank

namespace Inbound

theorem splitOnce_eq_none {c : Char} {s : String} (h : c ∉ s.toList) : splitOnce c s = none := by
  have hdrop : s.toList.dropWhile (· != c) = [] :=
    List.dropWhile_eq_nil_iff.2 fun x hx => bne_iff_ne.mpr fun hxc => h (hxc ▸ hx)
  simp only [splitOnce, hdrop]

/-- A text is split at the first occurrence of a character. -/
theorem splitOnce_eq_some {c : Char} {s a b : String} (h : c ∉ a.toList)
    (hs : s.toList = a.toList ++ c :: b.toList) : splitOnce c s = some (a, b) := by
  obtain ⟨htake, hdrop⟩ := span_ne h b.toList
  simp only [splitOnce, hs, htake, hdrop, String.ofList_toList]

/-! ### Lines -/

/-- A line is read off what its reader will ever read. -/
theorem readLine_of_view {r : Reader} {line rest : List UInt8} (hline : 0x0A ∉ line)
    (h : r.view = line ++ 0x0A :: rest) :
    (readLine r).1 = lineText (some line) ∧ (readLine r).2.view = rest := by
  obtain ⟨htake, hdrop⟩ := span_ne hline rest
  rw [← h] at htake hdrop
  constructor
  · change lineText r.line.1 = _
    rw [Reader.line_eq, hdrop, htake]
    rfl
  · change r.line.2.view = _
    rw [Reader.view_line, hdrop]
    rfl

/-- The text of a line that does not end with a carriage return, however the line is ended. -/
theorem lineText?_utf8 {line : String} (h : line.toList.getLast? ≠ some '\r') {crs : List UInt8}
    (hcrs : ∀ b ∈ crs, b = 0x0D) : lineText? (utf8 line ++ crs) = some line := by
  have hall : ∀ b ∈ crs.reverse, (b == 0x0D) = true := fun b hb =>
    beq_iff_eq.mpr (hcrs b (List.mem_reverse.mp hb))
  have hlast : (utf8 line).reverse.dropWhile (· == 0x0D) = (utf8 line).reverse := by
    cases hrev : (utf8 line).reverse with
    | nil => rfl
    | cons b bs =>
      refine List.dropWhile_cons_of_neg fun hb => h ?_
      obtain rfl := beq_iff_eq.mp hb
      exact getLast?_utf8 (b := 0x0D) (by decide) (by rw [← List.head?_reverse, hrev]; rfl)
  rw [lineText?, List.reverse_append, List.dropWhile_append_of_pos hall, hlast,
    List.reverse_reverse, textOfBytes?_utf8]

/-- A written line is read back. -/
theorem readLine_written {r : Reader} {line : String} {ending rest : List UInt8}
    (hlf : '\n' ∉ line.toList) (hcr : line.toList.getLast? ≠ some '\r') (hending : IsLineEnd ending)
    (h : r.view = utf8 line ++ ending ++ rest) :
    (readLine r).1 = .ok line ∧ (readLine r).2.view = rest := by
  have hlf' : 0x0A ∉ utf8 line := fun hmem => hlf ((mem_utf8_iff (by decide)).mp hmem)
  -- the carriage return of the ending, if there is one, is read as part of the line
  obtain ⟨crs, hcrs, rfl⟩ : ∃ crs : List UInt8, (∀ b ∈ crs, b = 0x0D) ∧ ending = crs ++ [0x0A] := by
    obtain rfl | rfl := hending
    · exact ⟨[], nofun, rfl⟩
    · exact ⟨[0x0D], by simp, rfl⟩
  have hline : 0x0A ∉ utf8 line ++ crs := by
    rw [List.mem_append, not_or]
    exact ⟨hlf', fun hmem => absurd (hcrs _ hmem) (by decide)⟩
  have hsplit : r.view = (utf8 line ++ crs) ++ 0x0A :: rest := by rw [h]; simp
  obtain ⟨htext, hview⟩ := readLine_of_view hline hsplit
  exact ⟨by rw [htext, lineText, lineText?_utf8 hcr hcrs], hview⟩

/-! ### Headers -/

theorem readHeaders_eq (request : Request) (r : Reader) :
    readHeaders request r =
      match (readLine r).1 with
      | .error e => (.error e, (readLine r).2)
      | .ok line =>
        if line = "" then (.ok request, (readLine r).2)
        else
          match splitOnce ':' line with
          | none => (.error (.headerLine line), (readLine r).2)
          | some (name, value) =>
            readHeaders (request.addHeader (Blank.trim name) (Blank.trim value)) (readLine r).2 := by
  rw [readHeaders]
  split
  · rename_i he
    rw [he]
  · rename_i hline
    simp only [hline]
    split <;> rfl

theorem headerLine_ne_empty (header : String × String) : RequestHead.headerLine header ≠ "" := by
  intro h
  have := congrArg String.toList h
  simp [RequestHead.headerLine, String.toList_append] at this

/-- What is read off a header line. -/
theorem splitOnce_headerLine {header : String × String} (h : ':' ∉ header.1.toList) :
    splitOnce ':' (RequestHead.headerLine header) = some (header.1, " " ++ header.2) :=
  splitOnce_eq_some h (by simp [RequestHead.headerLine, String.toList_append])

theorem not_mem_headerLine {header : String × String} (h : RequestHead.GoodHeader header) :
    '\n' ∉ (RequestHead.headerLine header).toList := by
  simp [RequestHead.headerLine, String.toList_append, h.name_line, h.value_line]

theorem getLast?_headerLine {header : String × String} (h : RequestHead.GoodHeader header) :
    (RequestHead.headerLine header).toList.getLast? ≠ some '\r' := by
  intro hlast
  have htext : (RequestHead.headerLine header).toList =
      (header.1.toList ++ [':']) ++ (' ' :: header.2.toList) := by
    simp [RequestHead.headerLine, String.toList_append]
  rw [htext, List.getLast?_append, List.getLast?_cons] at hlast
  cases hv : header.2.toList.getLast? with
  | none => simp [hv] at hlast
  | some c =>
    have hc : c = '\r' := by simpa [hv] using hlast
    have := h.value_trimmed.2 c hv
    rw [hc] at this
    cases this

/-- What follows reads as an empty line, for every reader that sees it, and stalls after it or
not. -/
def EndsHead (rest : List UInt8) (stalls : Bool) : Prop :=
  ∀ r : Reader, r.view = rest → r.stalls = stalls → (readLine r).1 = .ok ""

/-- An empty line reads as one. -/
theorem endsHead_lineEnd {ending : List UInt8} (hending : IsLineEnd ending) (after : List UInt8)
    (stalls : Bool) : EndsHead (ending ++ after) stalls := by
  intro r hview _
  have hlf : '\n' ∉ "".toList := nofun
  exact (readLine_written hlf nofun hending (by rw [hview, utf8_empty, List.nil_append])).1

/-- So does the end of what there is. -/
theorem endsHead_nil : EndsHead [] false := by
  intro r hview hstalls
  have hline : r.line.1 = some (utf8 "" ++ []) := by
    rw [Reader.line_eq, hview, hstalls, utf8_empty]
    rfl
  have hcr : "".toList.getLast? ≠ some '\r' := nofun
  change lineText r.line.1 = _
  rw [hline, lineText, lineText?_utf8 hcr (List.forall_mem_nil _)]

theorem stalls_readLine (r : Reader) : (readLine r).2.stalls = r.stalls := r.stalls_line

/-- The line of a header adds it. -/
theorem readHeaders_headerLine {header : String × String} (h : RequestHead.GoodHeader header)
    {r : Reader} (hline : (readLine r).1 = .ok (RequestHead.headerLine header))
    (request : Request) :
    readHeaders request r = readHeaders (request.addHeader header.1 header.2) (readLine r).2 := by
  rw [readHeaders_eq, hline]
  dsimp only
  rw [if_neg (headerLine_ne_empty header), splitOnce_headerLine h.colon]
  dsimp only
  rw [Blank.trim_eq h.name_trimmed, Blank.trim_space_append h.value_trimmed]

/-- Headers are added one by one, up to an empty line or what reads as one. -/
theorem readHeaders_lines {headers : List (String × String)} {bytes : List UInt8}
    (hb : WrittenLines (headers.map RequestHead.headerLine) bytes)
    (hgood : ∀ header ∈ headers, RequestHead.GoodHeader header) {request : Request} {r : Reader}
    {rest : List UInt8} (h : r.view = bytes ++ rest) (hend : EndsHead rest r.stalls) :
    (readHeaders request r).1 = .ok (request.addHeaders headers) := by
  induction headers generalizing bytes request r with
  | nil =>
    cases hb with
    | nil =>
      rw [readHeaders_eq, hend r h rfl]
      rfl
  | cons header headers ih =>
    obtain ⟨hheader, hrest⟩ := List.forall_mem_cons.mp hgood
    cases hb with
    | cons hending hb =>
      obtain ⟨hline, hview⟩ := readLine_written (not_mem_headerLine hheader)
        (getLast?_headerLine hheader) hending (by rw [h, List.append_assoc])
      rw [readHeaders_headerLine hheader hline, ih hb hrest hview (by rwa [stalls_readLine])]
      rfl

/-! ### The request line -/

theorem requestLine?_requestLine {head : RequestHead} (h : head.WellFormed) :
    requestLine? head.requestLine = some (head.method, head.target) := by
  have hprotocol : "HTTP/".toList.isPrefixOf head.version.toList = true :=
    List.isPrefixOf_iff_prefix.mpr h.protocol
  simp only [requestLine?, RequestHead.requestLine, Blank.words_three h.method h.target h.version,
    hprotocol, if_true]

/-- The request of a target: its path, and the parameters of its query. -/
theorem ofTarget_target {head : RequestHead} (h : head.WellFormed) (id : RequestId)
    (source : String) :
    ofTarget id source head.method head.target =
      ({ id, source, method := .parse head.method, path := head.path } : Request).addParams
        head.pairs := by
  unfold RequestHead.target RequestHead.pairs ofTarget
  cases hq : head.query with
  | none =>
    simp only [splitOnce_eq_none h.path, Option.getD_none, utf8_empty]
    rfl
  | some query =>
    have hsplit : splitOnce '?' (head.path ++ "?" ++ query) = some (head.path, query) :=
      splitOnce_eq_some h.path (by simp [String.toList_append])
    simp only [hsplit, Option.getD_some]

/-- A blank is in no word. -/
theorem not_mem_of_isWord {s : String} (h : RequestHead.IsWord s) {c : Char}
    (hc : Blank.isBlank c = true) : c ∉ s.toList := fun hmem => by
  rw [h.2 c hmem] at hc
  cases hc

theorem not_mem_requestLine {head : RequestHead} (h : head.WellFormed) :
    '\n' ∉ head.requestLine.toList := by
  have hblank : Blank.isBlank '\n' = true := rfl
  simp [RequestHead.requestLine, String.toList_append, not_mem_of_isWord h.method hblank,
    not_mem_of_isWord h.target hblank, not_mem_of_isWord h.version hblank]

theorem getLast?_requestLine {head : RequestHead} (h : head.WellFormed) :
    head.requestLine.toList.getLast? ≠ some '\r' := by
  intro hlast
  have hne : head.version.toList ≠ [] := by simpa using h.version.1
  rw [RequestHead.requestLine, String.toList_append, List.getLast?_append_of_ne_nil _ hne] at hlast
  exact not_mem_of_isWord h.version (c := '\r') rfl (List.mem_of_getLast? hlast)

theorem requestLine_ne_empty (head : RequestHead) : head.requestLine ≠ "" := by
  intro h
  have := congrArg String.toList h
  simp [RequestHead.requestLine, String.toList_append] at this

/-! ### Whole heads -/

theorem readHead_eq (id : RequestId) (source : String) (r : Reader) :
    readHead id source r =
      match (readLine r).1 with
      | .error e => (.error e, (readLine r).2)
      | .ok line =>
        if line = "" then (.error .noRequestLine, (readLine r).2)
        else
          match requestLine? line with
          | none => (.error (.requestLine line), (readLine r).2)
          | some (method, target) =>
            readHeaders (ofTarget id source method target) (readLine r).2 := by
  unfold readHead
  generalize readLine r = p
  obtain ⟨_ | _, _⟩ := p <;> rfl

/-- A head begins with a request line, after which only headers are read. -/
theorem exists_requestLine_of_readHead {id : RequestId} {source : String} {r : Reader}
    {head : Request} (h : (readHead id source r).1 = .ok head) :
    ∃ line method target, (readLine r).1 = .ok line ∧ requestLine? line = some (method, target) ∧
      (readHeaders (ofTarget id source method target) (readLine r).2).1 = .ok head := by
  rw [readHead_eq] at h
  split at h
  · cases h
  · rename_i line hline
    split at h
    · cases h
    · split at h
      · cases h
      · rename_i method target hwords
        exact ⟨line, method, target, hline, hwords, h⟩

/-- After a request line, only headers are read. -/
theorem readHead_requestLine {head : RequestHead} (hwf : head.WellFormed) {r : Reader}
    (hline : (readLine r).1 = .ok head.requestLine) (id : RequestId) (source : String) :
    readHead id source r =
      readHeaders (ofTarget id source head.method head.target) (readLine r).2 := by
  rw [readHead_eq, hline]
  dsimp only
  rw [if_neg (requestLine_ne_empty head), requestLine?_requestLine hwf]

/-- The lines of a head are read up to an empty line or what reads as one. -/
theorem readHead_lines {head : RequestHead} (hwf : head.WellFormed) {bytes rest : List UInt8}
    (hb : WrittenLines (head.requestLine :: head.headers.map RequestHead.headerLine) bytes)
    {r : Reader} (h : r.view = bytes ++ rest) (hend : EndsHead rest r.stalls) (id : RequestId)
    (source : String) : (readHead id source r).1 = .ok (head.request id source) := by
  cases hb with
  | cons hending hb =>
    obtain ⟨hline, hview⟩ := readLine_written (not_mem_requestLine hwf) (getLast?_requestLine hwf)
      hending (by rw [h, List.append_assoc])
    rw [readHead_requestLine hwf hline, readHeaders_lines hb hwf.headers hview
      (by rwa [stalls_readLine]), ofTarget_target hwf, Request.addParams_eq,
      Request.addHeaders_eq rfl]
    rfl

/-- The request of a head posts a form exactly if the head announces one. -/
theorem postsForm_request (head : RequestHead) (id : RequestId) (source : String) :
    postsForm (head.request id source) = head.announcesForm := by
  have hheaders : (head.request id source).headers = grouped head.headers := rfl
  rw [postsForm, RequestHead.announcesForm, Request.header?_grouped hheaders]
  cases head.headers.find? fun header => asciiCaseEq "Content-Type" header.1 <;> rfl

theorem read_eq (id : RequestId) (source : String) (r : Reader) :
    read id source r =
      match (readHead id source r).1 with
      | .error e => (.error e, (readHead id source r).2)
      | .ok request =>
        if postsForm request then readBody request (readHead id source r).2
        else (.ok request, (readHead id source r).2) := by
  unfold read
  generalize readHead id source r = p
  obtain ⟨_ | _, _⟩ := p <;> rfl

/-- A request that is read has a head. -/
theorem exists_readHead_of_read {id : RequestId} {source : String} {r : Reader} {request : Request}
    (h : (read id source r).1 = .ok request) : ∃ head, (readHead id source r).1 = .ok head := by
  rw [read_eq] at h
  cases hhead : (readHead id source r).1 with
  | error e =>
    rw [hhead] at h
    cases h
  | ok head => exact ⟨head, rfl⟩

/-- Without a form, nothing is read after the head. -/
theorem read_lines {head : RequestHead} (hwf : head.WellFormed)
    (hform : head.announcesForm = false) {bytes rest : List UInt8}
    (hb : WrittenLines (head.requestLine :: head.headers.map RequestHead.headerLine) bytes)
    {r : Reader} (h : r.view = bytes ++ rest) (hend : EndsHead rest r.stalls) (id : RequestId)
    (source : String) : (read id source r).1 = .ok (head.request id source) := by
  have hposts : postsForm (head.request id source) = false :=
    (postsForm_request head id source).trans hform
  rw [read_eq, readHead_lines hwf hb h hend]
  exact congrArg Prod.fst (if_neg (Bool.eq_false_iff.mp hposts))

/-- A head is read up to its empty line. -/
theorem read_whole {head : RequestHead} (hwf : head.WellFormed) (hform : head.announcesForm = false)
    {bytes : List UInt8} (hb : WrittenLines head.lines bytes) {stream : Stream}
    {after : List UInt8} (hs : stream.bytes = bytes ++ after) {limit : ℕ}
    (hlimit : bytes.length ≤ limit) (id : RequestId) (source : String) :
    (read id source (.ofStream stream limit)).1 = .ok (head.request id source) := by
  rw [RequestHead.lines, ← List.cons_append] at hb
  obtain ⟨before, _, hbefore, hlast, rfl⟩ := WrittenLines.append_iff.mp hb
  obtain ⟨ending, hending, rfl⟩ := WrittenLines.singleton_iff.mp hlast
  rw [utf8_empty, List.nil_append] at hs hlimit
  -- what is left of the limit lets through a beginning of what follows
  have hview : (Reader.ofStream stream limit).view =
      before ++ (ending ++ after.take (limit - (before ++ ending).length)) := by
    change [] ++ stream.bytes.take limit = _
    rw [List.nil_append, hs, List.take_append, List.take_of_length_le hlimit, List.append_assoc]
  exact read_lines hwf hform hbefore hview (endsHead_lineEnd hending _ _) id source

/-- A head may be its request line alone. -/
theorem read_lone {head : RequestHead} (hwf : head.WellFormed) (hheaders : head.headers = [])
    (hform : head.announcesForm = false) {stream : Stream}
    (hs : stream.bytes = utf8 (head.requestLine ++ "\r\n\r\n")) {limit : ℕ}
    (hlimit : stream.bytes.length ≤ limit) (id : RequestId) (source : String) :
    (read id source (.ofStream stream limit)).1 = .ok (head.request id source) := by
  have hends : utf8 "\r\n\r\n" = [0x0D, 0x0A] ++ (utf8 "" ++ [0x0D, 0x0A] ++ []) := by
    decide +kernel
  have hwritten : WrittenLines head.lines stream.bytes := by
    rw [hs, utf8_append, hends, ← List.append_assoc, RequestHead.lines, hheaders]
    exact .cons (.inr rfl) (.cons (.inr rfl) .nil)
  exact read_whole hwf hform hwritten (List.append_nil _).symm hlimit id source

/-- **Heads are read back.** A well-formed head that announces no form, written with a line feed or
with carriage return and line feed at the end of each line, followed by any bytes and sent in any
pieces, is read under every limit that it does not exceed, and as exactly the request it means: its
method, its path, its headers in order and grouped under the first spelling of each name, and the
form data of its query as sets; no command is set. -/
theorem read_written {head : RequestHead} (hwf : head.WellFormed)
    (hform : head.announcesForm = false) {bytes : List UInt8}
    (hb : WrittenLines head.lines bytes) {stream : Stream} {after : List UInt8}
    (hs : stream.bytes = bytes ++ after) {limit : ℕ} (hlimit : bytes.length ≤ limit)
    (id : RequestId) (source : String) :
    ∃ request, (read id source (.ofStream stream limit)).1 = .ok request ∧
      request.id = id ∧ request.source = source ∧ request.method = .parse head.method ∧
      request.path = head.path ∧ request.headers = grouped head.headers ∧
      request.Carries head.pairs ∧ request.command = none :=
  ⟨head.request id source, read_whole hwf hform hb hs hlimit id source, rfl, rfl, rfl, rfl, rfl,
    head.carries_request id source, rfl⟩

/-- A head with a header under two spellings, its lines ended in both ways. -/
def sampleHead : RequestHead where
  method := "GET"
  path := "/a/b"
  query := some "x=1&x=2"
  version := "HTTP/1.1"
  headers := [("Host", "a"), ("host", "")]

theorem wellFormed_sampleHead : sampleHead.WellFormed where
  method := by decide +kernel
  target := by decide +kernel
  path := by decide +kernel
  version := by decide +kernel
  protocol := by decide +kernel
  headers := by
    refine List.forall_mem_cons.mpr ⟨?_, List.forall_mem_cons.mpr ⟨?_, nofun⟩⟩
    · exact ⟨by decide +kernel, by decide +kernel, by decide +kernel,
        ⟨by simp; decide, by simp; decide⟩, ⟨by simp; decide, by simp; decide⟩⟩
    · exact ⟨by decide +kernel, by decide +kernel, by decide +kernel,
        ⟨by simp; decide, by simp; decide⟩, ⟨nofun, nofun⟩⟩

/-- Its bytes. -/
def sampleBytes : List UInt8 :=
  utf8 "GET /a/b?x=1&x=2 HTTP/1.1" ++ [0x0D, 0x0A] ++ (utf8 "Host: a" ++ [0x0A] ++
    (utf8 "host: " ++ [0x0D, 0x0A] ++ (utf8 "" ++ [0x0A] ++ [])))

theorem written_sampleHead : WrittenLines sampleHead.lines sampleBytes := by
  have hlines : sampleHead.lines =
      ["GET /a/b?x=1&x=2 HTTP/1.1", "Host: a", "host: ", ""] := by decide +kernel
  rw [hlines]
  exact .cons (.inr rfl) (.cons (.inl rfl) (.cons (.inr rfl) (.cons (.inl rfl) .nil)))

/-- It is read back from a connection that goes on with something else and then stalls, under a
limit that it just meets. -/
theorem read_written_sample :
    sampleHead.WellFormed ∧ sampleHead.announcesForm = false ∧
      WrittenLines sampleHead.lines sampleBytes ∧
      ∃ request, (read default "127.0.0.1"
          (.ofStream { pieces := [sampleBytes, [0xFF]], stalls := true } sampleBytes.length)).1 =
            .ok request ∧
        request.path = "/a/b" ∧ request.headers = [("Host", ["a", ""])] ∧
        request.Carries sampleHead.pairs := by
  have hform : sampleHead.announcesForm = false := by decide +kernel
  have hbytes : Stream.bytes { pieces := [sampleBytes, [0xFF]], stalls := true } =
      sampleBytes ++ [0xFF] := rfl
  obtain ⟨request, hread, -, -, -, hpath, hheaders, hparams, -⟩ :=
    read_written wellFormed_sampleHead hform written_sampleHead hbytes le_rfl default "127.0.0.1"
  exact ⟨wellFormed_sampleHead, hform, written_sampleHead, request, hread, hpath,
    hheaders.trans (by decide +kernel), hparams⟩

end Inbound

end Switchboard
