import Switchboard.Reply

/-!
# Answers on the wire

The bytes that the calls on the output of a connection write: a status line, header lines, an empty
line and the body. Every answer announces that the connection is closed and how long the body is.
-/

namespace Switchboard.Outbound

/-- The end of a line. -/
def lineEnd : String := "\r\n"

/-- The status line and the headers of an answer. -/
def head (status : String) (headers : List (String × String)) : String :=
  "HTTP/1.1 " ++ status ++ lineEnd ++
    String.join (headers.map fun h => h.1 ++ ": " ++ h.2 ++ lineEnd) ++ lineEnd

/-- The header that announces the length of a body. -/
def lengthHeader (body : List UInt8) : String × String :=
  ("Content-Length", toString body.length)

/-- The headers of a response as it is sent. -/
def headers (r : Response) : List (String × String) :=
  ("Connection", "close") :: ("Content-Type", r.dataType.contentType) :: r.headers ++
    [lengthHeader r.body]

/-- The bytes of a response with a status line. -/
def response (status : String) (r : Response) : List UInt8 :=
  utf8 (head status (headers r)) ++ r.body

/-- The bytes of the error answer. -/
def error : List UInt8 :=
  utf8 (head "500 Internal Server Error" [("Connection", "close"), lengthHeader []])

/-- The bytes that a call writes. -/
def call : Call → List UInt8
  | .ok r | .proxy r => response "200 OK" r
  | .redirect r => response "302 Found" r
  | .error => error
  | .close => []

/-- The bytes that several calls write. -/
def calls (cs : List Call) : List UInt8 := cs.flatMap call

end Switchboard.Outbound
