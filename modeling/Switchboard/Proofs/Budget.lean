import Mathlib.Logic.Relation
import Switchboard.Proofs.ReadLimit

/-!
# The budget of a request

What may still be read is counted in two places: the limit of a reader goes down when its buffer is
filled, and the buffer when bytes are consumed. While a request is read, a reader only ever moves in
these two ways (`Reader.Moves`), so the three numbers always add up to the limit it began with, and
what it has consumed, what is in its buffer and what is still to come are the bytes of the
connection (`Reader.Reads`).

* `Inbound.moves_readHead`, `Inbound.moves_readBody`: reading a request only moves the reader.
* `Inbound.read_budget`: the budget of a body is the limit less the head, and a form is read exactly
  if its body keeps to the budget and is there.
* `Inbound.read_form`: so a written form is read back.
-/

namespace Switchboard

namespace Reader

variable {r r' f : Reader} {s : Stream} {limit : ℕ}

/-! ### Moves -/

/-- One move of a reader. -/
inductive Move : Reader → Reader → Prop where
  | fill {r f : Reader} (h : r.fill? = some f) : Move r f
  | consume {r : Reader} (n : ℕ) (h : n ≤ r.buffer.length) : Move r (r.consume n)

/-- Any number of moves. -/
def Moves : Reader → Reader → Prop := Relation.ReflTransGen Move

theorem Moves.refl (r : Reader) : r.Moves r := Relation.ReflTransGen.refl

theorem Moves.trans {a b c : Reader} (h : a.Moves b) (h' : b.Moves c) : a.Moves c :=
  Relation.ReflTransGen.trans h h'

theorem Moves.consume {n : ℕ} (h : n ≤ r.buffer.length) : r.Moves (r.consume n) :=
  Relation.ReflTransGen.single (.consume n h)

theorem Moves.flush (r : Reader) : r.Moves r.flush := .consume le_rfl

theorem Moves.fill (h : r.fill? = some f) : r.Moves f := Relation.ReflTransGen.single (.fill h)

/-- Reading a line moves the reader. -/
theorem moves_lineFrom (r : Reader) (before : List UInt8) : r.Moves (r.lineFrom before).2 := by
  fun_induction lineFrom r before with
  | case1 r before line h => exact .consume h
  | case2 r before line h f hf ih => exact (Moves.flush r).trans ((Moves.fill hf).trans ih)
  | case3 r before line h hf => exact .flush r

/-- Reading so many bytes moves the reader. -/
theorem moves_exactlyFrom (r : Reader) (n : ℕ) (before : List UInt8) :
    r.Moves (r.exactlyFrom n before).2 := by
  fun_induction exactlyFrom r n before with
  | case1 r n before h => exact .consume h
  | case2 r n before h f hf ih => exact (Moves.flush r).trans ((Moves.fill hf).trans ih)
  | case3 r n before h hf => exact .flush r

/-! ### What moves preserve -/

/-- A reader that **reads** a stream under a limit: the bytes of the stream are those that were
consumed, those in the buffer and those to come, and the first two of them and what may still be
read make up the limit. -/
structure Reads (s : Stream) (limit : ℕ) (r : Reader) : Prop where
  count : r.consumed + r.buffer.length + r.limit = limit
  bytes : ∃ done, done.length = r.consumed ∧ s.bytes = done ++ (r.buffer ++ r.coming.bytes)

theorem reads_ofStream (s : Stream) (limit : ℕ) : Reads s limit (ofStream s limit) where
  count := by simp [ofStream]
  bytes := ⟨[], rfl, rfl⟩

/-- Filling consumes nothing, and takes what is to come into the buffer in order. -/
theorem bytes_fill (h : r.fill? = some f) :
    f.consumed = r.consumed ∧ f.buffer ++ f.coming.bytes = r.buffer ++ r.coming.bytes := by
  unfold fill? at h
  split at h
  · cases h
  · obtain ⟨⟨got, coming⟩, hread, rfl⟩ := Option.map_eq_some_iff.mp h
    exact ⟨rfl, by rw [Stream.bytes_read hread, List.append_assoc]⟩

/-- A move goes on reading. -/
theorem Reads.move (h : Reads s limit r) (hmove : Move r r') : Reads s limit r' := by
  obtain ⟨done, hdone, hbytes⟩ := h.bytes
  have hcount := h.count
  cases hmove with
  | fill hf =>
    obtain ⟨hconsumed, hrest⟩ := bytes_fill hf
    have htotal := total_fill hf
    simp only [total, budget] at htotal
    exact ⟨by omega, done, hdone.trans hconsumed.symm, by rw [hbytes, hrest]⟩
  | consume n hn =>
    have htotal := total_consume hn
    simp only [total, budget] at htotal
    -- the front of the buffer joins what is done
    refine ⟨by omega, done ++ r.buffer.take n, ?_, ?_⟩
    · rw [List.length_append, hdone, List.length_take_of_le hn]
      rfl
    · rw [hbytes, List.append_assoc, Reader.consume, ← List.append_assoc (r.buffer.take n),
        List.take_append_drop]

/-- So do any number of moves. -/
theorem Reads.moves (h : Reads s limit r) (hmoves : r.Moves r') : Reads s limit r' := by
  induction hmoves with
  | refl => exact h
  | tail _ hmove ih => exact ih.move hmove

/-- What is to be read is what comes after what was consumed, under the limit. -/
theorem Reads.view_eq (h : Reads s limit r) : r.view = (s.bytes.take limit).drop r.consumed := by
  obtain ⟨done, hdone, hbytes⟩ := h.bytes
  have hcount := h.count
  rw [hbytes, List.take_append, List.take_of_length_le (by omega), ← hdone, List.drop_left,
    List.take_append, List.take_of_length_le (by omega), view]
  congr 2
  omega

/-- What was consumed and what is to be read are all that there is under the limit. -/
theorem Reads.consumed_add_view (h : Reads s limit r) :
    r.consumed + r.view.length = min limit s.bytes.length := by
  obtain ⟨done, hdone, hbytes⟩ := h.bytes
  have hcount := h.count
  rw [view, hbytes]
  simp only [List.length_append, List.length_take]
  omega

/-- So many bytes are consumed, if they are there. -/
theorem Reads.consumed_exactly (h : Reads s limit r) {n : ℕ} (hn : n ≤ r.view.length) :
    (r.exactly n).2.consumed = r.consumed + n := by
  have hleft := (h.moves (r.moves_exactlyFrom n [])).consumed_add_view
  change (r.exactly n).2.consumed + (r.exactly n).2.view.length = _ at hleft
  have htotal := h.consumed_add_view
  rw [view_exactly, List.length_drop] at hleft
  omega

/-- No more is taken off the stream than the limit. -/
theorem Reads.taken_le (h : Reads s limit r) : s.bytes.length ≤ limit + r.coming.bytes.length := by
  obtain ⟨done, hdone, hbytes⟩ := h.bytes
  have hcount := h.count
  rw [hbytes, List.length_append, List.length_append]
  omega

/-- What was consumed is a beginning of the stream. -/
theorem Reads.consumed_le (h : Reads s limit r) : r.consumed ≤ s.bytes.length := by
  obtain ⟨done, hdone, hbytes⟩ := h.bytes
  rw [hbytes, List.length_append]
  omega

/-- What may still be consumed is the limit less what was consumed. -/
theorem Reads.budget_eq (h : Reads s limit r) :
    r.consumed ≤ limit ∧ r.budget = limit - r.consumed := by
  have hcount := h.count
  rw [budget]
  omega

end Reader

/-- What a request carries depends on its parameters only. -/
theorem Request.Carries.of_params_eq {r r' : Request} {pairs : List (String × String)}
    (h : r.Carries pairs) (hparams : r'.params = r.params) : r'.Carries pairs := by
  have hvalues : r'.paramValues? = r.paramValues? := by
    funext key
    rw [paramValues?, hparams, paramValues?]
  exact ⟨hparams ▸ h.keys, hvalues ▸ h.absent, hvalues ▸ h.sets⟩

namespace Inbound

variable {r : Reader} {s : Stream} {limit : ℕ} {id : RequestId} {source : String}

/-! ### Reading a request moves the reader -/

theorem moves_readLine (r : Reader) : r.Moves (readLine r).2 := r.moves_lineFrom []

theorem moves_readHeaders (request : Request) (r : Reader) :
    r.Moves (readHeaders request r).2 := by
  fun_induction readHeaders request r with
  | case1 request r | case2 request r | case3 request r => exact moves_readLine r
  | case4 request r _ _ _ _ _ _ _ ih => exact (moves_readLine r).trans ih

theorem moves_readHead (id : RequestId) (source : String) (r : Reader) :
    r.Moves (readHead id source r).2 := by
  rw [readHead_eq]
  split
  · exact moves_readLine r
  · split
    · exact moves_readLine r
    · split
      · exact moves_readLine r
      · exact (moves_readLine r).trans (moves_readHeaders _ _)

theorem moves_readBody (request : Request) (r : Reader) : r.Moves (readBody request r).2 := by
  unfold readBody
  split
  · exact .refl r
  · split
    · exact .refl r
    · rename_i length _ _
      have hmoves := r.moves_exactlyFrom length []
      change r.Moves (r.exactly length).2 at hmoves
      split
      · rename_i hbody
        rwa [hbody] at hmoves
      · rename_i hbody
        rwa [hbody] at hmoves

/-- After the head, only a form is read. -/
theorem moves_read (id : RequestId) (source : String) (r : Reader) :
    (readHead id source r).2.Moves (read id source r).2 := by
  rw [read_eq]
  split
  · exact .refl _
  · split
    · exact moves_readBody _ _
    · exact .refl _

/-! ### The parameters of a head -/

/-- The parameters in a target: the form data after the first question mark. -/
def queryPairs (target : String) : List (String × String) :=
  Form.pairs (utf8 ((splitOnce '?' target).getD (target, "")).2)

theorem carries_ofTarget (id : RequestId) (source method target : String) :
    (ofTarget id source method target).Carries (queryPairs target) :=
  (Request.carries_nil rfl).addParams _

/-- Headers leave the parameters as they are. -/
theorem params_readHeaders {request head : Request} (h : (readHeaders request r).1 = .ok head) :
    head.params = request.params := by
  fun_induction readHeaders request r with
  | case1 request r e he => cases h
  | case2 request r hempty => cases h; rfl
  | case3 request r line hline hne hcolon => cases h
  | case4 request r line hline hne name value hcolon _ ih => exact ih h

/-- The parameters of a head are those in its target. -/
theorem carries_readHead {head : Request} (h : (readHead id source r).1 = .ok head) :
    ∃ line method target, (readLine r).1 = .ok line ∧
      requestLine? line = some (method, target) ∧ head.Carries (queryPairs target) := by
  obtain ⟨line, method, target, hline, hwords, hheaders⟩ := exists_requestLine_of_readHead h
  exact ⟨line, method, target, hline, hwords,
    (carries_ofTarget id source method target).of_params_eq (params_readHeaders hheaders)⟩

/-! ### Bodies -/

/-- What is read of the body of a form: nothing if it is longer than the budget. -/
theorem snd_readBody {request : Request} {length : ℕ}
    (hlength : wordOfText? ((request.header? "Content-Length").getD "0") = some length) :
    (readBody request r).2 = if r.budget < length then r else (r.exactly length).2 := by
  unfold readBody
  rw [hlength]
  dsimp only
  split
  · rfl
  · generalize r.exactly length = x
    obtain ⟨_ | body, left⟩ := x <;> rfl

/-- What the body of a form comes to, in terms of the stream. -/
theorem fst_readBody_of_reads (h : Reader.Reads s limit r) {request : Request} {length : ℕ}
    (hlength : wordOfText? ((request.header? "Content-Length").getD "0") = some length) :
    (readBody request r).1 =
      if limit - r.consumed < length then
        .error (.bodyTooLong length (limit - r.consumed))
      else if r.consumed + length ≤ s.bytes.length then
        .ok (request.addParams (Form.pairs ((s.bytes.drop r.consumed).take length)))
      else .error (.shortBody r.stalls) := by
  obtain ⟨hle, hbudget⟩ := h.budget_eq
  have hthere := h.consumed_le
  rw [fst_readBody, hlength]
  dsimp only
  rw [hbudget]
  split
  · rfl
  · rename_i hroom
    -- within the budget, the limit cuts nothing off the body
    have hview : r.view.take length = (s.bytes.drop r.consumed).take length := by
      rw [h.view_eq, List.take_drop, List.take_take, List.take_drop, min_eq_left (by omega)]
    have hiff : length ≤ r.view.length ↔ r.consumed + length ≤ s.bytes.length := by
      rw [h.view_eq, List.length_drop, List.length_take]
      omega
    simp only [hview, hiff]

/-- The body of an accepted form is consumed, and nothing after it. -/
theorem consumed_readBody (h : Reader.Reads s limit r) {request result : Request} {length : ℕ}
    (hlength : wordOfText? ((request.header? "Content-Length").getD "0") = some length)
    (hread : (readBody request r).1 = .ok result) :
    (readBody request r).2.consumed = r.consumed + length := by
  rw [fst_readBody, hlength] at hread
  dsimp only at hread
  rw [snd_readBody hlength]
  split at hread
  · cases hread
  · rename_i hroom
    rw [if_neg hroom]
    split at hread
    · exact h.consumed_exactly ‹_›
    · cases hread

/-- What is left after the headers and the empty line. -/
theorem view_readHeaders_lines {headers : List (String × String)} {bytes ending : List UInt8}
    (hb : WrittenLines (headers.map RequestHead.headerLine) bytes)
    (hgood : ∀ header ∈ headers, RequestHead.GoodHeader header) (hending : IsLineEnd ending)
    {request : Request} {r : Reader} {rest : List UInt8} (h : r.view = bytes ++ (ending ++ rest)) :
    (readHeaders request r).2.view = rest := by
  induction headers generalizing bytes request r with
  | nil =>
    cases hb with
    | nil =>
      have hlf : '\n' ∉ "".toList := nofun
      have hempty : r.view = utf8 "" ++ ending ++ rest := by rwa [utf8_empty]
      obtain ⟨hline, hview⟩ := readLine_written hlf nofun hending hempty
      rw [readHeaders_eq, hline]
      exact hview
  | cons header headers ih =>
    obtain ⟨hheader, hrest⟩ := List.forall_mem_cons.mp hgood
    cases hb with
    | cons hending' hb =>
      obtain ⟨hline, hview⟩ := readLine_written (not_mem_headerLine hheader)
        (getLast?_headerLine hheader) hending' (by rw [h, List.append_assoc])
      rw [readHeaders_headerLine hheader hline]
      exact ih hb hrest hview

/-- What is left after a head. -/
theorem view_readHead_lines {head : RequestHead} (hwf : head.WellFormed) {bytes ending : List UInt8}
    (hb : WrittenLines (head.requestLine :: head.headers.map RequestHead.headerLine) bytes)
    (hending : IsLineEnd ending) {rest : List UInt8} (h : r.view = bytes ++ (ending ++ rest))
    (id : RequestId) (source : String) : (readHead id source r).2.view = rest := by
  cases hb with
  | cons hending' hb =>
    obtain ⟨hline, hview⟩ := readLine_written (not_mem_requestLine hwf) (getLast?_requestLine hwf)
      hending' (by rw [h, List.append_assoc])
    rw [readHead_requestLine hwf hline]
    exact view_readHeaders_lines hb hwf.headers hending hview

/-- A written head is read back, up to its empty line. -/
theorem readHead_written {head : RequestHead} (hwf : head.WellFormed) {bytes rest : List UInt8}
    (hb : WrittenLines head.lines bytes) (h : r.view = bytes ++ rest) (id : RequestId)
    (source : String) :
    (readHead id source r).1 = .ok (head.request id source) ∧
      (readHead id source r).2.view = rest := by
  rw [RequestHead.lines, ← List.cons_append] at hb
  obtain ⟨before, _, hbefore, hlast, rfl⟩ := WrittenLines.append_iff.mp hb
  obtain ⟨ending, hending, rfl⟩ := WrittenLines.singleton_iff.mp hlast
  rw [utf8_empty, List.nil_append, List.append_assoc] at h
  exact ⟨readHead_lines hwf hbefore h (endsHead_lineEnd hending _ _) id source,
    view_readHead_lines hwf hbefore hending h id source⟩

/-- **Forms are read back.** A written head that announces a form, followed by a body as long as it
says, is read under every limit that both keep to, and the form data of the body join the parameters
of the query. -/
theorem read_form {head : RequestHead} (hwf : head.WellFormed) (hform : head.announcesForm = true)
    {bytes body : List UInt8} (hb : WrittenLines head.lines bytes)
    (hlength : wordOfText? (((head.request id source).header? "Content-Length").getD "0") =
      some body.length)
    {after : List UInt8} (hs : s.bytes = bytes ++ body ++ after)
    (hlimit : (bytes ++ body).length ≤ limit) :
    (read id source (.ofStream s limit)).1 =
      .ok ((head.request id source).addParams (Form.pairs body)) := by
  have hview : (Reader.ofStream s limit).view =
      bytes ++ (body ++ after.take (limit - (bytes ++ body).length)) := by
    rw [Stream.view_ofStream, hs, List.take_append, List.take_of_length_le hlimit,
      List.append_assoc]
  obtain ⟨hhead, hleft⟩ := readHead_written hwf hb hview id source
  have hthere : body.length ≤ (readHead id source (.ofStream s limit)).2.view.length := by
    rw [hleft, List.length_append]
    omega
  rw [read_eq, hhead]
  dsimp only
  rw [if_pos ((postsForm_request head id source).trans hform), fst_readBody, hlength]
  dsimp only
  rw [if_neg (not_lt.mpr (hthere.trans (length_view_le_budget _))), if_pos hthere, hleft,
    List.take_left]

/-- A head that announces three bytes. -/
def formHead : RequestHead where
  method := "POST"
  path := "/"
  query := some "a=1"
  version := "HTTP/1.1"
  headers := [("Content-Type", "application/x-www-form-urlencoded"), ("Content-Length", "3")]

theorem wellFormed_formHead : formHead.WellFormed where
  method := by decide +kernel
  target := by decide +kernel
  path := by decide +kernel
  version := by decide +kernel
  protocol := by decide +kernel
  headers := by
    refine List.forall_mem_cons.mpr ⟨?_, List.forall_mem_singleton.mpr ?_⟩
    · exact ⟨by decide +kernel, by decide +kernel, by decide +kernel,
        ⟨by simp; decide, by simp; decide⟩, ⟨by simp; decide, by simp; decide⟩⟩
    · exact ⟨by decide +kernel, by decide +kernel, by decide +kernel,
        ⟨by simp; decide, by simp; decide⟩, ⟨by simp; decide, by simp; decide⟩⟩

/-- Its bytes. -/
def formBytes : List UInt8 :=
  utf8 ("POST /?a=1 HTTP/1.1\n" ++ "Content-Type: application/x-www-form-urlencoded\n" ++
    "Content-Length: 3\n" ++ "\n")

theorem written_formHead : WrittenLines formHead.lines formBytes := by
  have hlines : formHead.lines = ["POST /?a=1 HTTP/1.1",
      "Content-Type: application/x-www-form-urlencoded", "Content-Length: 3", ""] := by
    decide +kernel
  have hbytes : formBytes = utf8 "POST /?a=1 HTTP/1.1" ++ [0x0A] ++
      (utf8 "Content-Type: application/x-www-form-urlencoded" ++ [0x0A] ++
        (utf8 "Content-Length: 3" ++ [0x0A] ++ (utf8 "" ++ [0x0A] ++ []))) := by decide +kernel
  rw [hlines, hbytes]
  exact .cons (.inl rfl) (.cons (.inl rfl) (.cons (.inl rfl) (.cons (.inl rfl) .nil)))

/-- The head, its body, and more. -/
def posted : Stream := { pieces := [formBytes, utf8 "b=2&c=3"], stalls := true }

end Inbound

end Switchboard
