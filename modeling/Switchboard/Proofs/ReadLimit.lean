import Switchboard.Proofs.RequestHead

/-!
# Reading under a limit

A limit is meant to turn down what is too long. It does so with bodies: none is read that would not
be read to its end. But a head that goes beyond the limit is cut, since a line reads as ended where
the limit is, and nothing at all reads as the empty line that ends a head.

Two readers are followed side by side, the second of which sees at least what the first one sees
(`Reader.Shows`): as long as the first one sees a whole head, or as much as the second one, both
read the same.

* `Inbound.read_under_limit`: a request that is accepted under a limit is the same under every
  larger one unless its head is cut, and a head that is cut reads as if the connection ended there.
* `Inbound.cut_head_accepted`: so a head can lose its headers.
-/

namespace Switchboard

/-! ### Whole heads -/

/-- The head that begins with a line. -/
theorem headOf?_line {line rest : List UInt8} (hline : 0x0A ∉ line) :
    headOf? (line ++ 0x0A :: rest) = if isEmptyLine line then some (line ++ [0x0A])
      else (headOf? rest).map (line ++ 0x0A :: ·) := by
  have hall : ∀ b ∈ line, (b != 0x0A) = true := fun b hb => by
    simpa using ne_of_mem_of_not_mem hb hline
  have htake : (line ++ 0x0A :: rest).takeWhile (· != 0x0A) = line := by
    simp [List.takeWhile_append_of_pos hall]
  have hdrop : (line ++ 0x0A :: rest).dropWhile (· != 0x0A) = 0x0A :: rest := by
    simp [List.dropWhile_append_of_pos hall]
  rw [headOf?, htake]
  split
  · rename_i h
    rw [hdrop] at h
    cases h
  · rename_i h
    rw [hdrop] at h
    obtain ⟨rfl, rfl⟩ := List.cons.inj h
    rfl

/-- Bytes without a line feed begin with no head. -/
theorem headOf?_of_not_mem {bytes : List UInt8} (h : 0x0A ∉ bytes) : headOf? bytes = none := by
  have hdrop : bytes.dropWhile (· != 0x0A) = [] :=
    List.dropWhile_eq_nil_iff.mpr fun b hb => by simpa using ne_of_mem_of_not_mem hb h
  rw [headOf?]
  split
  · rfl
  · rename_i hcons
    rw [hdrop] at hcons
    cases hcons

/-- Bytes that begin with a head begin with a line, and what follows it begins with the rest of the
head unless the line is empty. -/
theorem exists_line_of_headOf? {bytes : List UInt8} (h : headOf? bytes ≠ none) :
    ∃ line rest, 0x0A ∉ line ∧ bytes = line ++ 0x0A :: rest ∧
      (isEmptyLine line = false → headOf? rest ≠ none) := by
  have hmem : 0x0A ∈ bytes := by_contra fun hmem => h (headOf?_of_not_mem hmem)
  obtain ⟨line, rest, rfl, hline⟩ := List.eq_append_cons_of_mem hmem
  refine ⟨line, rest, hline, rfl, fun hne hnone => h ?_⟩
  rw [headOf?_line hline, if_neg (Bool.eq_false_iff.mp hne), hnone]
  rfl

/-- An empty line is read as the empty text. -/
theorem Inbound.lineText_of_isEmptyLine {line : List UInt8} (h : isEmptyLine line = true) :
    lineText (some line) = .ok "" := by
  have hdrop : line.reverse.dropWhile (· == 0x0D) = [] :=
    List.dropWhile_eq_nil_iff.2 fun b hb => List.all_eq_true.mp h b (List.mem_reverse.mp hb)
  have htext : lineText? line = some "" := by
    rw [lineText?, hdrop, List.reverse_nil, ← utf8_empty, textOfBytes?_utf8]
  rw [lineText, htext]

/-! ### Readers side by side -/

namespace Reader

/-- Two readers that see the same. -/
structure Alike (r r' : Reader) : Prop where
  view : r.view = r'.view
  stalls : r.stalls = r'.stalls

/-- The second reader sees at least what the first one sees; and the same, unless the first one sees
a whole head. -/
structure Shows (r r' : Reader) : Prop where
  view : r.view <+: r'.view
  whole : headOf? r.view ≠ none ∨ r.Alike r'

end Reader

namespace Inbound

variable {α : Type} {r r' : Reader}

/-- Readings of two readers that come to the same. The second reader still sees at least what the
first one sees, and the same if they saw the same before. -/
structure Agree (r r' : Reader) (x x' : Except ReadError α × Reader) : Prop where
  result : x.1 = x'.1
  view : x.2.view <+: x'.2.view
  alike : r.Alike r' → x.2.Alike x'.2

/-! ### Lines and headers -/

theorem readLine_alike (h : r.Alike r') :
    (readLine r).1 = (readLine r').1 ∧ (readLine r).2.Alike (readLine r').2 := by
  have hline : r.line.1 = r'.line.1 := by
    rw [Reader.line_eq, Reader.line_eq, h.view, h.stalls]
  refine ⟨congrArg lineText hline, ?_, ?_⟩
  · change r.line.2.view = r'.line.2.view
    rw [Reader.view_line, Reader.view_line, h.view]
  · change r.line.2.stalls = r'.line.2.stalls
    rw [Reader.stalls_line, Reader.stalls_line, h.stalls]

/-- Both readers read the same line, and the second one goes on seeing enough until the line is
empty. -/
theorem readLine_shows (h : r.Shows r') :
    Agree r r' (readLine r) (readLine r') ∧
      ((readLine r).1 ≠ .ok "" → (readLine r).2.Shows (readLine r').2) := by
  obtain hwhole | halike := h.whole
  · obtain ⟨line, rest, hline, hview, hrest⟩ := exists_line_of_headOf? hwhole
    obtain ⟨more, hmore⟩ := h.view
    have hview' : r'.view = line ++ 0x0A :: (rest ++ more) := by
      rw [← hmore, hview, List.append_assoc, List.cons_append]
    obtain ⟨hresult, hleft⟩ := readLine_of_view hline hview
    obtain ⟨hresult', hleft'⟩ := readLine_of_view hline hview'
    have hsees : (readLine r).2.view <+: (readLine r').2.view := by
      rw [hleft, hleft']
      exact List.prefix_append rest more
    refine ⟨⟨hresult.trans hresult'.symm, hsees, fun halike => (readLine_alike halike).2⟩,
      fun hne => ⟨hsees, .inl ?_⟩⟩
    rw [hleft]
    refine hrest (Bool.eq_false_iff.mpr fun hempty => hne ?_)
    rw [hresult, lineText_of_isEmptyLine hempty]
  · obtain ⟨hresult, hleft⟩ := readLine_alike halike
    have hsees : (readLine r).2.view <+: (readLine r').2.view := hleft.view ▸ List.prefix_rfl
    exact ⟨⟨hresult, hsees, fun _ => hleft⟩, fun _ => ⟨hsees, .inr hleft⟩⟩

theorem readHeaders_shows (request : Request) (h : r.Shows r') :
    Agree r r' (readHeaders request r) (readHeaders request r') := by
  fun_induction readHeaders request r generalizing r' with
  | case1 request r e he =>
    obtain ⟨⟨hresult, hview, halike⟩, -⟩ := readLine_shows h
    rw [readHeaders_eq, ← hresult, he]
    exact ⟨rfl, hview, halike⟩
  | case2 request r hempty =>
    obtain ⟨⟨hresult, hview, halike⟩, -⟩ := readLine_shows h
    rw [readHeaders_eq, ← hresult, hempty]
    exact ⟨rfl, hview, halike⟩
  | case3 request r line hline hne hcolon =>
    obtain ⟨⟨hresult, hview, halike⟩, -⟩ := readLine_shows h
    rw [readHeaders_eq, ← hresult, hline]
    dsimp only
    rw [if_neg hne, hcolon]
    exact ⟨rfl, hview, halike⟩
  | case4 request r line hline hne name value hcolon _ ih =>
    obtain ⟨⟨hresult, -, halike⟩, hshows⟩ := readLine_shows h
    rw [readHeaders_eq request r', ← hresult, hline]
    dsimp only
    rw [if_neg hne, hcolon]
    have hrest := ih (hshows (by rw [hline]; exact fun heq => hne (Except.ok.inj heq)))
    exact ⟨hrest.result, hrest.view, hrest.alike ∘ halike⟩

/-- Both readers read the same head. -/
theorem readHead_shows (id : RequestId) (source : String) (h : r.Shows r') :
    Agree r r' (readHead id source r) (readHead id source r') := by
  obtain ⟨⟨hresult, hview, halike⟩, hshows⟩ := readLine_shows h
  rw [readHead_eq, readHead_eq, ← hresult]
  cases hline : (readLine r).1 with
  | error e => exact ⟨rfl, hview, halike⟩
  | ok line =>
    dsimp only
    by_cases hne : line = ""
    · rw [if_pos hne, if_pos hne]
      exact ⟨rfl, hview, halike⟩
    · rw [if_neg hne, if_neg hne]
      cases requestLine? line with
      | none => exact ⟨rfl, hview, halike⟩
      | some words =>
        have hrest := readHeaders_shows (ofTarget id source words.1 words.2)
          (hshows (by rw [hline]; exact fun heq => hne (Except.ok.inj heq)))
        exact ⟨hrest.result, hrest.view, hrest.alike ∘ halike⟩

/-! ### Bodies -/

/-- What is still to be read may still be consumed. -/
theorem length_view_le_budget (r : Reader) : r.view.length ≤ r.budget := by
  simp only [Reader.view, Reader.budget, List.length_append, List.length_take]
  omega

/-- A body is read if it may be consumed and is there. -/
theorem fst_readBody (request : Request) (r : Reader) :
    (readBody request r).1 =
      match wordOfText? ((request.header? "Content-Length").getD "0") with
      | none => .error .contentLength
      | some length =>
        if r.budget < length then .error (.bodyTooLong length r.budget)
        else if length ≤ r.view.length then
          .ok (request.addParams (Form.pairs (r.view.take length)))
        else .error (.shortBody r.stalls) := by
  unfold readBody
  cases wordOfText? ((request.header? "Content-Length").getD "0") with
  | none => rfl
  | some length =>
    dsimp only
    by_cases hbudget : r.budget < length
    · rw [if_pos hbudget, if_pos hbudget]
    · rw [if_neg hbudget, if_neg hbudget]
      have hbody := r.exactly_eq length
      have hstalls := r.stalls_exactly length
      generalize r.exactly length = x at hbody hstalls
      obtain ⟨body, left⟩ := x
      dsimp only at hbody hstalls
      split at hbody <;> subst hbody
      · rename_i hlength
        rw [if_pos hlength]
      · rename_i hlength
        rw [if_neg hlength, ← hstalls]

/-- A body that was read is there for a reader that sees more. -/
theorem readBody_of_prefix {request result : Request} (hview : r.view <+: r'.view)
    (h : (readBody request r).1 = .ok result) : (readBody request r').1 = .ok result := by
  rw [fst_readBody] at h ⊢
  split at h
  · cases h
  · rename_i length _
    split at h
    · cases h
    split at h
    · rename_i hlength
      have hle := hlength.trans hview.length_le
      have htake : r'.view.take length = r.view.take length := by
        obtain ⟨more, hmore⟩ := hview
        rw [← hmore, List.take_append_of_le_length hlength]
      rw [if_neg (not_lt.mpr (hle.trans (length_view_le_budget r'))), if_pos hle, htake]
      exact h
    · cases h

/-- Reading a head keeps count of what may be consumed and of what there is. -/
theorem counts_readHeaders (request : Request) (r : Reader) :
    (readHeaders request r).2.total = r.total ∧ (readHeaders request r).2.extent = r.extent := by
  have hline (r : Reader) :
      (readLine r).2.total = r.total ∧ (readLine r).2.extent = r.extent :=
    ⟨r.total_line, r.extent_line⟩
  fun_induction readHeaders request r with
  | case1 request r | case2 request r | case3 request r => exact hline r
  | case4 request r _ _ _ _ _ _ _ ih =>
    exact ⟨ih.1.trans (hline r).1, ih.2.trans (hline r).2⟩

theorem counts_readHead (id : RequestId) (source : String) (r : Reader) :
    (readHead id source r).2.total = r.total ∧ (readHead id source r).2.extent = r.extent := by
  have hline : (readLine r).2.total = r.total ∧ (readLine r).2.extent = r.extent :=
    ⟨r.total_line, r.extent_line⟩
  rw [readHead_eq]
  split
  · exact hline
  · split
    · exact hline
    · split
      · exact hline
      · obtain ⟨htotal, hextent⟩ := counts_readHeaders (ofTarget id source _ _) (readLine r).2
        exact ⟨htotal.trans hline.1, hextent.trans hline.2⟩

/-! ### Requests -/

/-- A request that one reader accepts is accepted by another one that sees more of the same. -/
theorem read_of_shows {id : RequestId} {source : String} {request : Request} (h : r.Shows r')
    (hread : (read id source r).1 = .ok request) : (read id source r').1 = .ok request := by
  obtain ⟨hresult, hview, -⟩ := readHead_shows id source h
  rw [read_eq] at hread ⊢
  rw [← hresult]
  cases hhead : (readHead id source r).1 with
  | error e =>
    rw [hhead] at hread
    cases hread
  | ok head =>
    rw [hhead] at hread
    dsimp only at hread ⊢
    split
    · rename_i hform
      rw [if_pos hform] at hread
      exact readBody_of_prefix hview hread
    · rename_i hform
      rwa [if_neg hform] at hread

/-- Two readers that see the same, and may read as much of it, read the same. -/
theorem read_of_alike {id : RequestId} {source : String} (h : r.Alike r')
    (htotal : r.total = r'.total) (hextent : r.extent = r'.extent) :
    (read id source r).1 = (read id source r').1 := by
  obtain ⟨hresult, -, halike⟩ := readHead_shows id source ⟨h.view ▸ List.prefix_rfl, .inr h⟩
  obtain ⟨hview, hstalls⟩ := halike h
  obtain ⟨ht, he⟩ := counts_readHead id source r
  obtain ⟨ht', he'⟩ := counts_readHead id source r'
  have hbudget : (readHead id source r).2.budget = (readHead id source r').2.budget := by
    have hlength := congrArg List.length hview
    simp only [Reader.total, Reader.extent] at *
    omega
  rw [read_eq, read_eq, ← hresult]
  cases (readHead id source r).1 with
  | error e => rfl
  | ok head =>
    dsimp only
    split
    · rw [fst_readBody, fst_readBody, hbudget, hview, hstalls]
    · rfl

end Inbound

/-! ### Limits -/

/-- A limit **cuts** a stream if there is no whole head before it and more could come after it. -/
def Stream.CutAt (s : Stream) (limit : ℕ) : Prop :=
  headOf? (s.bytes.take limit) = none ∧
    (limit < s.bytes.length ∨ limit = s.bytes.length ∧ s.stalls = true)

namespace Stream

variable {s : Stream} {limit limit' : ℕ}

theorem view_ofStream (s : Stream) (limit : ℕ) :
    (Reader.ofStream s limit).view = s.bytes.take limit := rfl

theorem stalls_ofStream (s : Stream) (limit : ℕ) :
    (Reader.ofStream s limit).stalls = (s.stalls && decide (s.bytes.length < limit)) := rfl

/-- Under a larger limit there is more to see, and nothing new unless there was a whole head. -/
theorem shows_of_le (h : ¬ s.CutAt limit) (hle : limit ≤ limit') :
    (Reader.ofStream s limit).Shows (.ofStream s limit') := by
  refine ⟨List.prefix_take_iff.mpr ⟨List.take_prefix _ _, (List.length_take_le _ _).trans hle⟩, ?_⟩
  rw [view_ofStream, or_iff_not_imp_left, not_not]
  intro hhead
  have hall : s.bytes.length < limit ∨ s.bytes.length = limit ∧ s.stalls = false := by
    by_contra hnot
    refine h ⟨hhead, ?_⟩
    cases hs : s.stalls <;> simp [hs] at hnot ⊢ <;> omega
  refine ⟨?_, ?_⟩
  · rw [view_ofStream, view_ofStream, List.take_of_length_le (by omega),
      List.take_of_length_le (by omega)]
  · rw [stalls_ofStream, stalls_ofStream]
    obtain hlt | ⟨-, hs⟩ := hall
    · rw [decide_eq_true hlt, decide_eq_true (hlt.trans_le hle)]
    · rw [hs, Bool.false_and, Bool.false_and]

/-- A stream that is cut is seen as if it ended at the limit. -/
theorem alike_of_cutAt (h : s.CutAt limit) :
    (Reader.ofStream s limit).Alike (.ofStream (.ofBytes (s.bytes.take limit) false) limit) := by
  have hview : (Stream.ofBytes (s.bytes.take limit) false).bytes = s.bytes.take limit :=
    List.append_nil _
  refine ⟨?_, ?_⟩
  · rw [view_ofStream, view_ofStream, hview, List.take_take, min_self]
  · have hle : ¬ s.bytes.length < limit := by
      obtain hlt | ⟨heq, -⟩ := h.2 <;> omega
    rw [stalls_ofStream, decide_eq_false hle, Bool.and_false]
    rfl

end Stream

namespace Inbound

/-- **Reading under a limit.** Unless a limit cuts the head of what comes over a connection, a
request that is accepted under it is accepted as the same under every larger one. Where it does cut
the head, everything is read as if the connection ended at the limit. -/
theorem read_under_limit (id : RequestId) (source : String) (s : Stream) {limit limit' : ℕ}
    (hle : limit ≤ limit') :
    (¬ s.CutAt limit → ∀ request, (read id source (.ofStream s limit)).1 = .ok request →
      (read id source (.ofStream s limit')).1 = .ok request) ∧
    (s.CutAt limit → (read id source (.ofStream s limit)).1 =
      (read id source (.ofStream (.ofBytes (s.bytes.take limit) false) limit)).1) := by
  refine ⟨fun h request hread => read_of_shows (Stream.shows_of_le h hle) hread, fun h => ?_⟩
  have halike := Stream.alike_of_cutAt h
  refine read_of_alike halike rfl ?_
  simp only [Reader.extent, halike.view]
  rfl

/-- A head of two lines, the first of which has sixteen bytes. -/
def twoLines : Stream := .ofBytes (utf8 "GET / HTTP/1.1\r\nHost: x\r\n\r\n") false

theorem headOf?_twoLines : headOf? twoLines.bytes = some twoLines.bytes := by
  have hlines : twoLines.bytes = utf8 "GET / HTTP/1.1\r" ++ 0x0A ::
      (utf8 "Host: x\r" ++ 0x0A :: (utf8 "\r" ++ 0x0A :: [])) := by decide +kernel
  rw [hlines, headOf?_line (by decide +kernel), if_neg (by decide +kernel),
    headOf?_line (by decide +kernel), if_neg (by decide +kernel),
    headOf?_line (by decide +kernel), if_pos (by decide +kernel)]
  rfl

/-- Its head ends before the byte 27, and is cut at the byte 16. -/
theorem read_under_limit_sample :
    16 ≤ 64 ∧ 27 ≤ 64 ∧ twoLines.CutAt 16 ∧ ¬ twoLines.CutAt 27 ∧
      (∀ request, (read default "127.0.0.1" (.ofStream twoLines 27)).1 = .ok request →
        (read default "127.0.0.1" (.ofStream twoLines 64)).1 = .ok request) ∧
      (read default "127.0.0.1" (.ofStream twoLines 16)).1 =
        (read default "127.0.0.1" (.ofStream (.ofBytes (utf8 "GET / HTTP/1.1\r\n") false) 16)).1 := by
  have hkept : twoLines.bytes.take 16 = utf8 "GET / HTTP/1.1\r\n" := by decide +kernel
  have hcut : twoLines.CutAt 16 := by
    have hline : utf8 "GET / HTTP/1.1\r\n" = utf8 "GET / HTTP/1.1\r" ++ [0x0A] := by decide +kernel
    refine ⟨?_, .inl (by decide +kernel)⟩
    rw [hkept, hline, headOf?_line (by decide +kernel), if_neg (by decide +kernel),
      headOf?_of_not_mem List.not_mem_nil]
    rfl
  have hwhole : ¬ twoLines.CutAt 27 := by
    have hall : twoLines.bytes.take 27 = twoLines.bytes := by decide +kernel
    rintro ⟨hnone, -⟩
    rw [hall, headOf?_twoLines] at hnone
    cases hnone
  exact ⟨by decide, by decide, hcut, hwhole,
    (read_under_limit default "127.0.0.1" twoLines (by decide : 27 ≤ 64)).1 hwhole,
    hkept ▸ (read_under_limit default "127.0.0.1" twoLines (by decide : 16 ≤ 64)).2 hcut⟩

/-- A head that is cut between two of its lines is accepted, and loses the lines after the cut. -/
theorem read_cut {head : RequestHead} (hwf : head.WellFormed) (hform : head.announcesForm = false)
    {bytes : List UInt8}
    (hb : WrittenLines (head.requestLine :: head.headers.map RequestHead.headerLine) bytes)
    {stream : Stream} {after : List UInt8} (hs : stream.bytes = bytes ++ after) (id : RequestId)
    (source : String) :
    (read id source (.ofStream stream bytes.length)).1 = .ok (head.request id source) := by
  have hview : (Reader.ofStream stream bytes.length).view = bytes ++ [] := by
    rw [Stream.view_ofStream, hs, List.take_left, List.append_nil]
  have hstalls : (Reader.ofStream stream bytes.length).stalls = false := by
    have hle : ¬ stream.bytes.length < bytes.length := by
      rw [hs, List.length_append]
      omega
    rw [Stream.stalls_ofStream, decide_eq_false hle, Bool.and_false]
  exact read_lines hwf hform hb hview (hstalls ▸ endsHead_nil) id source

/-- What a cut after the first line leaves of the head of two lines. -/
def firstLine : RequestHead where
  method := "GET"
  path := "/"
  version := "HTTP/1.1"

theorem wellFormed_firstLine : firstLine.WellFormed where
  method := by decide +kernel
  target := by decide +kernel
  path := by decide +kernel
  version := by decide +kernel
  protocol := by decide +kernel
  headers := nofun

theorem goodHeader_host : RequestHead.GoodHeader ("Host", "x") where
  colon := by decide +kernel
  name_line := by decide +kernel
  value_line := by decide +kernel
  name_trimmed := ⟨by simp; decide, by simp; decide⟩
  value_trimmed := ⟨by simp; decide, by simp; decide⟩

/-- **A cut head is accepted.** Under a limit of sixteen bytes a head of twenty-seven is not turned
down: it is accepted, and as another request than under a limit that leaves it whole. -/
theorem cut_head_accepted :
    headOf? twoLines.bytes = some twoLines.bytes ∧ twoLines.bytes.length = 27 ∧
      (read default "127.0.0.1" (.ofStream twoLines 16)).1 =
        .ok { source := "127.0.0.1", path := "/" } ∧
      (read default "127.0.0.1" (.ofStream twoLines 64)).1 =
        .ok { source := "127.0.0.1", path := "/", headers := [("Host", ["x"])] } := by
  let whole : RequestHead := { firstLine with headers := [("Host", "x")] }
  have hwf : whole.WellFormed :=
    { wellFormed_firstLine with headers := List.forall_mem_singleton.mpr goodHeader_host }
  have hfirst : firstLine.requestLine = "GET / HTTP/1.1" := by decide +kernel
  have hlines : whole.lines = ["GET / HTTP/1.1", "Host: x", ""] := by decide +kernel
  have hkept : WrittenLines [firstLine.requestLine] (utf8 "GET / HTTP/1.1" ++ [0x0D, 0x0A] ++ []) :=
    hfirst ▸ .cons (.inr rfl) .nil
  have hwritten : WrittenLines whole.lines twoLines.bytes := by
    have hbytes : twoLines.bytes = utf8 "GET / HTTP/1.1" ++ [0x0D, 0x0A] ++
        (utf8 "Host: x" ++ [0x0D, 0x0A] ++ (utf8 "" ++ [0x0D, 0x0A] ++ [])) := by decide +kernel
    rw [hlines, hbytes]
    exact .cons (.inr rfl) (.cons (.inr rfl) (.cons (.inr rfl) .nil))
  have hcut : twoLines.bytes = utf8 "GET / HTTP/1.1" ++ [0x0D, 0x0A] ++ [] ++
      utf8 "Host: x\r\n\r\n" := by decide +kernel
  have hlength : (utf8 "GET / HTTP/1.1" ++ [0x0D, 0x0A] ++ []).length = 16 := by decide +kernel
  have hread := read_cut wellFormed_firstLine (by decide +kernel) hkept hcut default "127.0.0.1"
  have hread' := read_whole hwf (by decide +kernel) hwritten (List.append_nil _).symm
    (by decide +kernel : twoLines.bytes.length ≤ 64) default "127.0.0.1"
  have hrequest : firstLine.request default "127.0.0.1" =
      { source := "127.0.0.1", path := "/" } := by decide +kernel
  have hrequest' : whole.request default "127.0.0.1" =
      { source := "127.0.0.1", path := "/", headers := [("Host", ["x"])] } := by decide +kernel
  rw [hlength, hrequest] at hread
  rw [hrequest'] at hread'
  exact ⟨headOf?_twoLines, by decide +kernel, hread, hread'⟩

end Inbound

end Switchboard
