import Switchboard.Wire.Inbound
import Switchboard.Wire.Outbound

/-!
# Answers as they are read

What a client makes of the bytes of an answer: lines, each ended by a carriage return and a line
feed, up to the first empty one; the first of them is the status line and the others are headers, a
name and a value around a colon and a blank; and what follows is the body.

* `Answer.linesFrom` finds the lines of a head;
* `Answer.read?` reads an answer;
* `Answer.ofCall` is the answer that each call on an output is meant to write.
-/

namespace Switchboard

/-- A text without a line break in it. -/
def Unbroken (s : String) : Prop := '\r' ∉ s.toList ∧ '\n' ∉ s.toList

instance (s : String) : Decidable (Unbroken s) := inferInstanceAs (Decidable (_ ∧ _))

/-- An answer as its client reads it. -/
structure Answer where
  statusLine : String
  headers : List (String × String)
  body : List UInt8
  deriving DecidableEq, Repr

namespace Answer

/-- The lines up to the first empty one, and what follows that; `line` is the present one so far, in
reverse. Nothing if no line is empty. -/
def linesFrom (line : List UInt8) : List UInt8 → Option (List (List UInt8) × List UInt8)
  | [] => none
  | 0x0D :: 0x0A :: rest =>
    if line.isEmpty then some ([], rest)
    else (linesFrom [] rest).map fun (lines, rest) => (line.reverse :: lines, rest)
  | b :: rest => linesFrom (b :: line) rest

/-- The name and the value on the line of a header. -/
def header? (line : String) : Option (String × String) :=
  match Inbound.splitOnce ':' line with
  | none => none
  | some (name, value) =>
    match value.toList with
    | ' ' :: value => some (name, String.ofList value)
    | _ => none

/-- Reads an answer. -/
def read? (bytes : List UInt8) : Option Answer :=
  match linesFrom [] bytes with
  | none => none
  | some (lines, body) =>
    match lines.mapM textOfBytes? with
    | some (statusLine :: headers) =>
      (headers.mapM header?).map fun headers => { statusLine, headers, body }
    | _ => none

/-! ### What is meant -/

/-- The answer that a response is meant as, under a status line. -/
def ofResponse (statusLine : String) (r : Response) : Answer where
  statusLine
  headers := [("Connection", "close"), ("Content-Type", r.dataType.contentType)] ++ r.headers ++
    [("Content-Length", toString r.body.length)]
  body := r.body

/-- The answer that a call is meant to write, unless it only closes. -/
def ofCall : Call → Option Answer
  | .ok r | .proxy r => some (ofResponse "HTTP/1.1 200 OK" r)
  | .redirect r => some (ofResponse "HTTP/1.1 302 Found" r)
  | .error => some
      { statusLine := "HTTP/1.1 500 Internal Server Error"
        headers := [("Connection", "close"), ("Content-Length", "0")]
        body := [] }
  | .close => none

/-- A header that stays on its line and whose name ends where it should. -/
structure IsField (header : String × String) : Prop where
  colon : ':' ∉ header.1.toList
  name : Unbroken header.1
  value : Unbroken header.2

end Answer

end Switchboard
