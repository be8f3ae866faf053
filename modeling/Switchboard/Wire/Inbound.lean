import Switchboard.Message.Request
import Switchboard.Text.Blank
import Switchboard.Text.Quoted
import Switchboard.Wire.Form
import Switchboard.Wire.Reader

/-!
# Requests on the wire

A request is read from the bytes of a connection: a line with method, target and version, header
lines up to an empty one, and, for a posted form, a body. What was read and the reader that is left
are there whether or not it is a request.

* `Inbound.readLine` reads a line of text;
* `Inbound.readHead` reads a request up to the empty line;
* `Inbound.readBody` reads a posted form;
* `Inbound.read` reads a whole request.
-/

namespace Switchboard

/-- Why no request was read. -/
inductive ReadError where
  /-- Nothing more came in time. -/
  | timedOut
  | notText
  | noRequestLine
  | requestLine (line : String)
  | headerLine (line : String)
  | contentLength
  /-- The body is longer than what may still be read. -/
  | bodyTooLong (length budget : Nat)
  /-- The body ends early, or the rest of it did not come in time. -/
  | shortBody (stalled : Bool)
  deriving DecidableEq, Repr

namespace ReadError

/-- The text of a read that took too long. -/
def timeout : String := "Resource temporarily unavailable (os error 11)"

/-- What is wrong, in words. -/
def message : ReadError → String
  | timedOut => timeout
  | notText => "stream did not contain valid UTF-8"
  | noRequestLine => "connection closed before request line"
  | requestLine line => "malformed request line: " ++ Quoted.quote line
  | headerLine line => "malformed header line: " ++ Quoted.quote line
  | contentLength => "invalid Content-Length"
  | bodyTooLong length budget =>
    "request body of " ++ toString length ++ " bytes exceeds max_request_bytes (" ++
      toString budget ++ " left)"
  | shortBody stalled =>
    "short request body: " ++ if stalled then timeout else "failed to fill whole buffer"

end ReadError

namespace Inbound

/-! ### Lines -/

/-- A line without the carriage returns at its end. -/
def lineText? (bytes : List UInt8) : Option String :=
  textOfBytes? (bytes.reverse.dropWhile (· == 0x0D)).reverse

/-- The text of a line that was read, if one was. -/
def lineText : Option (List UInt8) → Except ReadError String
  | none => .error .timedOut
  | some bytes =>
    match lineText? bytes with
    | none => .error .notText
    | some text => .ok text

/-- Reads a line of text; the last one may lack the line feed. The end of the connection reads as an
empty line. -/
def readLine (r : Reader) : Except ReadError String × Reader :=
  let (bytes, r) := r.line
  (lineText bytes, r)

/-- A line that is not empty is taken off the reader. -/
theorem length_view_readLine {r : Reader} {line : String} (h : (readLine r).1 = .ok line)
    (hl : line ≠ "") : (readLine r).2.view.length < r.view.length := by
  change lineText r.line.1 = .ok line at h
  cases hb : r.line.1 with
  | none => simp [lineText, hb] at h
  | some bytes =>
    refine Reader.length_view_line hb ?_
    rintro rfl
    rw [hb] at h
    exact hl (Except.ok.inj h).symm

/-! ### Heads -/

/-- Splits a text at the first occurrence of a character. -/
def splitOnce (c : Char) (s : String) : Option (String × String) :=
  let cs := s.toList
  match cs.dropWhile (· != c) with
  | [] => none
  | _ :: rest => some (String.ofList (cs.takeWhile (· != c)), String.ofList rest)

/-- The method and the target of a request line. Words after the version do not count. -/
def requestLine? (line : String) : Option (String × String) :=
  match Blank.words line with
  | method :: target :: version :: _ =>
    if "HTTP/".toList.isPrefixOf version.toList then some (method, target) else none
  | _ => none

/-- The request of a method and a target: what follows the first question mark is a query. -/
def ofTarget (id : RequestId) (source method target : String) : Request :=
  let (path, query) := (splitOnce '?' target).getD (target, "")
  ({ id, source, method := .parse method, path } : Request).addParams (Form.pairs (utf8 query))

/-- Reads header lines up to an empty one. -/
def readHeaders (request : Request) (r : Reader) : Except ReadError Request × Reader :=
  match h : (readLine r).1 with
  | .error e => (.error e, (readLine r).2)
  | .ok line =>
    if hl : line = "" then (.ok request, (readLine r).2)
    else
      match splitOnce ':' line with
      | none => (.error (.headerLine line), (readLine r).2)
      | some (name, value) =>
        have := length_view_readLine h hl
        readHeaders (request.addHeader (Blank.trim name) (Blank.trim value)) (readLine r).2
termination_by r.view.length

/-- Reads a request up to the empty line. -/
def readHead (id : RequestId) (source : String) (r : Reader) :
    Except ReadError Request × Reader :=
  match readLine r with
  | (.error e, r) => (.error e, r)
  | (.ok line, r) =>
    if line = "" then (.error .noRequestLine, r)
    else
      match requestLine? line with
      | none => (.error (.requestLine line), r)
      | some (method, target) => readHeaders (ofTarget id source method target) r

/-! ### Bodies -/

/-- Whether a request posts a form. -/
def postsForm (r : Request) : Bool :=
  r.method == .post &&
    match r.header? "Content-Type" with
    | some t => "application/x-www-form-urlencoded".toList.isPrefixOf t.toList
    | none => false

/-- A number that fits a word, with a plus sign in front or not. -/
def wordOfText? (s : String) : Option Nat :=
  let digits := match s.toList with
    | '+' :: rest => rest
    | cs => cs
  if digits.isEmpty || !digits.all Char.isDigit then none
  else
    let n := digits.foldl (fun n c => n * 10 + (c.toNat - '0'.toNat)) 0
    if n < UInt64.size then some n else none

/-- Reads the body of a posted form, if so many bytes may still be read. -/
def readBody (request : Request) (r : Reader) : Except ReadError Request × Reader :=
  match wordOfText? ((request.header? "Content-Length").getD "0") with
  | none => (.error .contentLength, r)
  | some length =>
    -- no body is read that would not be read to its end
    if r.budget < length then (.error (.bodyTooLong length r.budget), r)
    else
      match r.exactly length with
      | (none, r) => (.error (.shortBody r.stalls), r)
      | (some body, r) => (.ok (request.addParams (Form.pairs body)), r)

/-- Reads a request. -/
def read (id : RequestId) (source : String) (r : Reader) : Except ReadError Request × Reader :=
  match readHead id source r with
  | (.error e, r) => (.error e, r)
  | (.ok request, r) => if postsForm request then readBody request r else (.ok request, r)

end Inbound

end Switchboard
