import Mathlib.Tactic
import Std.Data.String.ToNat
import Switchboard.Proofs.Bytes
import Switchboard.Proofs.RequestHead
import Switchboard.Wire.Answer

/-!
# Answers are read back

The head of an answer is put together from texts, and a body follows that may hold anything, also
what looks like more of a head. The head is read back all the same: no line of it has a carriage
return in it as long as its headers are fields (`Answer.IsField`), so that the first empty line is
the one that ends the head.

* `Answer.read?_head`: a head is read back, whatever follows it.
* `Answer.reads_call`: what a call on an output writes is read as the answer that is meant.
-/

namespace Switchboard

namespace Answer

/-! ### Lines -/

theorem linesFrom_cons {b : UInt8} (h : b ≠ 0x0D) (done rest : List UInt8) :
    linesFrom done (b :: rest) = linesFrom (b :: done) rest := by
  rw [linesFrom]
  rintro _ rfl
  exact absurd rfl h

/-- What has no carriage return in it belongs to the present line. -/
theorem linesFrom_append {bytes : List UInt8} (h : 0x0D ∉ bytes) (done rest : List UInt8) :
    linesFrom done (bytes ++ rest) = linesFrom (bytes.reverse ++ done) rest := by
  induction bytes generalizing done with
  | nil => rfl
  | cons b bytes ih =>
    rw [List.mem_cons, not_or] at h
    rw [List.cons_append, linesFrom_cons (Ne.symm h.1), ih h.2]
    simp

theorem linesFrom_lineEnd (done rest : List UInt8) :
    linesFrom done (0x0D :: 0x0A :: rest) =
      if done.isEmpty then some ([], rest)
      else (linesFrom [] rest).map fun (lines, rest) => (done.reverse :: lines, rest) := by
  rw [linesFrom]

/-- Lines without carriage returns are found, up to the empty one. -/
theorem linesFrom_lines {lines : List (List UInt8)} (h : ∀ line ∈ lines, line ≠ [] ∧ 0x0D ∉ line)
    (body : List UInt8) :
    linesFrom [] (lines.flatMap (· ++ [0x0D, 0x0A]) ++ ([0x0D, 0x0A] ++ body)) =
      some (lines, body) := by
  induction lines with
  | nil => rfl
  | cons line lines ih =>
    obtain ⟨⟨hne, hcr⟩, hlines⟩ := List.forall_mem_cons.mp h
    have hline : (line.reverse ++ []).isEmpty = false := by simpa using hne
    rw [List.flatMap_cons, List.append_assoc, List.append_assoc, linesFrom_append hcr,
      List.cons_append, List.cons_append, List.nil_append, linesFrom_lineEnd, hline, ih hlines]
    simp

/-! ### Heads -/

/-- The lines of a written head, up to the empty one. -/
def headLines (status : String) (headers : List (String × String)) : List String :=
  ("HTTP/1.1 " ++ status) :: headers.map RequestHead.headerLine

theorem unbroken_append {s t : String} (hs : Unbroken s) (ht : Unbroken t) : Unbroken (s ++ t) := by
  simp [Unbroken, String.toList_append, hs.1, hs.2, ht.1, ht.2]

theorem unbroken_headerLine {header : String × String} (h : IsField header) :
    Unbroken (RequestHead.headerLine header) :=
  unbroken_append (unbroken_append h.name (by decide)) h.value

theorem utf8_head (status : String) (headers : List (String × String)) :
    utf8 (Outbound.head status headers) =
      ((headLines status headers).map utf8).flatMap (· ++ [0x0D, 0x0A]) ++ [0x0D, 0x0A] := by
  have hend : utf8 Outbound.lineEnd = [0x0D, 0x0A] := by
    rw [utf8_eq]
    rfl
  simp only [Outbound.head, headLines, utf8_append, utf8_join, hend, List.map_cons,
    List.flatMap_cons, List.map_map, List.flatMap_map, RequestHead.headerLine, Function.comp_apply]

/-- A text without a carriage return has none among its bytes. -/
theorem not_mem_utf8 {s : String} (h : Unbroken s) : 0x0D ∉ utf8 s :=
  fun hmem => h.1 ((mem_utf8_iff (by decide)).mp hmem)

theorem mapM_textOfBytes? (ss : List String) : (ss.map utf8).mapM textOfBytes? = some ss := by
  induction ss with
  | nil => rfl
  | cons s ss ih => simp [List.mapM_cons, textOfBytes?_utf8, ih]

theorem header?_headerLine {header : String × String} (h : ':' ∉ header.1.toList) :
    header? (RequestHead.headerLine header) = some header := by
  simp [header?, Inbound.splitOnce_headerLine h, String.toList_append]

theorem mapM_header? {headers : List (String × String)}
    (h : ∀ header ∈ headers, ':' ∉ header.1.toList) :
    (headers.map RequestHead.headerLine).mapM header? = some headers := by
  induction headers with
  | nil => rfl
  | cons header headers ih =>
    obtain ⟨hheader, hheaders⟩ := List.forall_mem_cons.mp h
    simp [List.mapM_cons, header?_headerLine hheader, ih hheaders]

/-- A written head is read back, and what follows it is the body. -/
theorem read?_head {status : String} {headers : List (String × String)} (hstatus : Unbroken status)
    (hheaders : ∀ header ∈ headers, IsField header) (body : List UInt8) :
    read? (utf8 (Outbound.head status headers) ++ body) =
      some { statusLine := "HTTP/1.1 " ++ status, headers, body } := by
  have hlines : ∀ line ∈ (headLines status headers).map utf8, line ≠ [] ∧ 0x0D ∉ line := by
    rw [List.forall_mem_map, headLines, List.forall_mem_cons, List.forall_mem_map]
    refine ⟨⟨utf8_ne_nil ?_, not_mem_utf8 (unbroken_append (by decide) hstatus)⟩, fun header hmem =>
      ⟨utf8_ne_nil (Inbound.headerLine_ne_empty header),
        not_mem_utf8 (unbroken_headerLine (hheaders header hmem))⟩⟩
    intro hempty
    simpa [String.toList_append] using congrArg String.toList hempty
  rw [read?, utf8_head, List.append_assoc, linesFrom_lines hlines]
  dsimp only
  rw [mapM_textOfBytes?]
  simp [headLines, mapM_header? fun header hmem => (hheaders header hmem).colon]

/-! ### Answers -/

theorem unbroken_contentType (t : DataType) : Unbroken t.contentType := by
  cases t <;> decide

/-- A number is written in digits. -/
theorem unbroken_toString (n : ℕ) : Unbroken (toString n) := by
  have hdigit : ∀ c ∈ (toString n).toList, c.isDigit = true := by
    intro c hc
    rw [Nat.toString_eq_ofList_toDigits, String.toList_ofList] at hc
    exact Nat.isDigit_of_mem_toDigits (by decide : 0 < 10) (by decide) hc
  exact ⟨fun h => absurd (hdigit _ h) (by decide), fun h => absurd (hdigit _ h) (by decide)⟩

theorem isField_contentType (r : Response) : IsField ("Content-Type", r.dataType.contentType) where
  colon := (by decide : ':' ∉ "Content-Type".toList)
  name := (by decide : Unbroken "Content-Type")
  value := unbroken_contentType r.dataType

theorem isField_lengthHeader (body : List UInt8) : IsField (Outbound.lengthHeader body) where
  colon := (by decide : ':' ∉ "Content-Length".toList)
  name := (by decide : Unbroken "Content-Length")
  value := unbroken_toString body.length

theorem isField_connection : IsField ("Connection", "close") :=
  ⟨by decide, by decide, by decide⟩

/-- The headers of a response stay on their lines if its own headers do. -/
theorem isField_headers {r : Response} (h : ∀ header ∈ r.headers, IsField header) :
    ∀ header ∈ Outbound.headers r, IsField header := by
  simp only [Outbound.headers, List.cons_append, List.forall_mem_cons, List.forall_mem_append]
  exact ⟨isField_connection, isField_contentType r, h, isField_lengthHeader r.body, nofun⟩

/-- The answer of a response is read back. -/
theorem read?_response {status : String} {r : Response} (hstatus : Unbroken status)
    (h : ∀ header ∈ r.headers, IsField header) :
    read? (Outbound.response status r) = some (ofResponse ("HTTP/1.1 " ++ status) r) := by
  rw [Outbound.response, read?_head hstatus (isField_headers h)]
  rfl

/-- The error answer is read back. -/
theorem read?_error : read? Outbound.error = ofCall .error := by
  have hfields : ∀ header ∈ [("Connection", "close"), Outbound.lengthHeader []], IsField header :=
    List.forall_mem_cons.mpr
      ⟨isField_connection, List.forall_mem_cons.mpr ⟨isField_lengthHeader [], nofun⟩⟩
  have hread := read?_head (by decide : Unbroken "500 Internal Server Error") hfields []
  rw [List.append_nil] at hread
  rw [Outbound.error, hread]
  rfl

/-- The length that an answer announces is the one of its body. -/
theorem getLast?_headers_of_ofCall {c : Call} {a : Answer} (h : ofCall c = some a) :
    a.headers.getLast? = some (Outbound.lengthHeader a.body) := by
  cases c with
  | ok r | redirect r | proxy r =>
    obtain rfl := Option.some.inj h
    exact List.getLast?_concat
  | error =>
    obtain rfl := Option.some.inj h
    rfl
  | close => cases h

/-- **Answers are read back.** Whatever a call on an output writes is read as the answer that is
meant, with its status line, its headers in order and its body, whatever lines there are in the
body, as long as the headers of the response are fields; the call that only closes writes no answer.
The last header of an answer is the length of its body in digits. -/
theorem reads_call {c : Call}
    (h : ∀ r, c.response? = some r → ∀ header ∈ r.headers, IsField header) :
    read? (Outbound.call c) = ofCall c ∧
      ∀ a, ofCall c = some a → ∃ length, a.headers.getLast? = some ("Content-Length", length) ∧
        length.toNat? = some a.body.length := by
  refine ⟨?_, fun a ha => ⟨toString a.body.length, getLast?_headers_of_ofCall ha,
    Nat.toNat?_repr a.body.length⟩⟩
  cases c with
  | ok r | proxy r => exact read?_response (by decide : Unbroken "200 OK") (h r rfl)
  | redirect r => exact read?_response (by decide : Unbroken "302 Found") (h r rfl)
  | error => exact read?_error
  | close => rfl

/-- A response with an empty header and a header that holds a colon, whose body looks like more of a
head. -/
def sampleResponse : Response where
  dataType := .html
  body := utf8 "\r\nContent-Length: 0\r\n\r\n"
  headers := [("X-Empty", ""), ("Location", "http://a/b: c")]

/-- Its answer is read back. -/
theorem reads_call_sample :
    (∀ r, (Call.ok sampleResponse).response? = some r → ∀ header ∈ r.headers, IsField header) ∧
      read? (Outbound.call (.ok sampleResponse)) = some
        { statusLine := "HTTP/1.1 200 OK"
          headers := [("Connection", "close"), ("Content-Type", "text/html; charset=utf-8"),
            ("X-Empty", ""), ("Location", "http://a/b: c"), ("Content-Length", "23")]
          body := utf8 "\r\nContent-Length: 0\r\n\r\n" } := by
  have hfields : ∀ r, (Call.ok sampleResponse).response? = some r →
      ∀ header ∈ r.headers, IsField header := by
    rintro _ ⟨⟩
    exact List.forall_mem_cons.mpr ⟨⟨by decide, by decide, by decide⟩,
      List.forall_mem_cons.mpr ⟨⟨by decide, by decide, by decide⟩, nofun⟩⟩
  exact ⟨hfields, (reads_call hfields).1.trans (by decide +kernel)⟩

end Answer

end Switchboard
