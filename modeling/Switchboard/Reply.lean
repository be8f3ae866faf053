import Switchboard.Message.Response

/-!
# Replies

The one answer of an exchange. An output is the writing side of a connection: it can send an
answer of each kind, send the error answer, and close. A reply owns an output and sees to it that
exactly one answer is sent and then the connection is closed exactly once, whatever its owner does
and however the owner ends.

A call on an output returns, with success or with an I/O error, or panics; `Output` decides which
for every call from the calls made before it. The operations of a reply that can panic say so in
their result, and the reply they leave behind is what the unwinding finds.

* `Reply.respond`, `Reply.fail`, `Reply.close` are the operations of the owner;
* `Reply.drop` is what happens when the owner lets go of the reply, also while unwinding.
-/

namespace Switchboard

/-- A call on an output. -/
inductive Call where
  | ok (r : Response)
  | redirect (r : Response)
  | proxy (r : Response)
  | error
  | close
  deriving DecidableEq, Repr

namespace Call

/-- The name of a call. -/
def name : Call → String
  | ok _ => "ok"
  | redirect _ => "redirect"
  | proxy _ => "proxy"
  | error => "error"
  | close => "close"

/-- The response that a call sends. -/
def response? : Call → Option Response
  | ok r | redirect r | proxy r => some r
  | error | close => none

/-- A call as data. -/
def toJson (c : Call) : Json := .arr (.str c.name :: c.response?.toList.map (·.toJson))

end Call

/-- Which answer was sent. -/
inductive Sent where
  | ok
  | redirect
  | proxy
  | error
  deriving DecidableEq, Repr

namespace Sent

/-- The name of an answer. -/
def name : Sent → String
  | ok => "Ok"
  | redirect => "Redirect"
  | proxy => "Proxy"
  | error => "Error"

end Sent

namespace Response

/-- The answer that a response of each status is sent as. -/
def sentAs (r : Response) : Sent :=
  match r.status with
  | .ok => .ok
  | .redirect => .redirect
  | .proxy => .proxy

/-- The call that sends a response. -/
def call (r : Response) : Call :=
  match r.status with
  | .ok => .ok r
  | .redirect => .redirect r
  | .proxy => .proxy r

end Response

/-- How a call ends. -/
inductive CallEnd where
  /-- The call returns; `ok` is false for an I/O error. -/
  | returned (ok : Bool)
  | panicked
  deriving DecidableEq, Repr

/-- How an output ends a call, after the calls made before it. -/
abbrev Output := List Call → Call → CallEnd

namespace Output

/-- The output on which every call succeeds. -/
def reliable : Output := fun _ _ => .returned true

/-- The output on which the calls of some names end with an I/O error. -/
def failing (names : List String) : Output := fun _ c => .returned (!names.contains c.name)

/-- An output whose calls return. -/
def Returns (o : Output) : Prop := ∀ before c, o before c ≠ .panicked

end Output

/-- The state of an exchange's reply, and the calls its output has seen. -/
structure Reply where
  sent : Option Sent := none
  closed : Bool := false
  calls : List Call := []
  deriving DecidableEq, Repr, Inhabited

namespace Reply

/-- Whether an answer can still be sent. -/
def canSend (g : Reply) : Bool := g.sent.isNone && !g.closed

/-- Makes a call on the output; the answer tells whether it panicked. -/
def call (o : Output) (g : Reply) (c : Call) : Reply × Bool :=
  ({ g with calls := g.calls ++ [c] }, o g.calls c == .panicked)

/-- Sends a response with the call of its status, unless an answer was sent or the output is
closed. The answer is whether it was sent, or nothing after a panic: the answer is only marked as
sent once the call has returned. -/
def respond (o : Output) (g : Reply) (r : Response) : Reply × Option Bool :=
  if g.canSend then
    match g.call o r.call with
    -- nothing is marked: whoever drops the reply sends once more
    | (g, true) => (g, none)
    | (g, false) => ({ g with sent := some r.sentAs }, some true)
  else (g, some false)

/-- Sends the error answer, unless an answer was sent. The answer is marked as sent before the
call. The result tells whether the call panicked. -/
def fail (o : Output) (g : Reply) : Reply × Bool :=
  if g.canSend then { g with sent := some .error }.call o .error else (g, false)

/-- Closes the output, after the error answer if nothing was sent; closing again does nothing. -/
def close (o : Output) (g : Reply) : Reply × Bool :=
  if g.closed then (g, false)
  else
    match g.fail o with
    | (g, true) => (g, true)
    | (g, false) => { g with closed := true }.call o .close

/-- The owner lets go of the reply: it is closed. -/
def drop (o : Output) (g : Reply) : Reply := (g.close o).1

/-- A reply as it is shown: the answer sent and whether it is closed. -/
def shown (g : Reply) : String :=
  let sent := match g.sent with
    | none => "None"
    | some s => "Some(" ++ s.name ++ ")"
  "ResponseGuard \x7b sent: " ++ sent ++ ", closed: " ++ toString g.closed ++ ", .. \x7d"

end Reply

end Switchboard
