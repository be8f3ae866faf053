import Switchboard.Message.Request

/-!
# Handlers

A handler is registered as a template. The template never serves a request: it only makes copies
of itself, and each request runs on a copy of its own. Running a copy ends in a response, in an
error, or in a panic; making a copy may panic as well.

What a copy does may depend on which copy of its template it is and on how often it has been run,
which is all that a copy made from a fixed template can know besides the request.
-/

namespace Switchboard

/-- Why a handler gave no response. -/
inductive HandlerError where
  | badRequest (reason : String)
  | failed (reason : String)
  | io (reason : String)
  /-- A value could not be written as JSON. -/
  | unwritable (reason : String)
  deriving DecidableEq, Repr

namespace HandlerError

/-- The text of an error. -/
def message : HandlerError → String
  | badRequest r => "bad request: " ++ r
  | failed r => "handler failed: " ++ r
  | io r => "I/O error: " ++ r
  | unwritable r => "serialization error: " ++ r

end HandlerError

/-- What a panic carries. -/
inductive PanicPayload where
  | text (s : String)
  /-- Something that is not a text. -/
  | other
  deriving DecidableEq, Repr

namespace PanicPayload

/-- The text of a panic. -/
def message : PanicPayload → String
  | text s => s
  | other => "non-string panic payload"

end PanicPayload

/-- How running a handler ends. -/
inductive HandlerEnd where
  | answered (r : Response)
  | failed (e : HandlerError)
  | panicked (p : PanicPayload)
  deriving DecidableEq, Repr

/-- A registered handler. `handle n k` is what the `n`-th copy does when it runs for the `k`-th
time; `copyPanics n` says that making the `n`-th copy panics; a handler that waits for something
outside names the latch that lets it go on. -/
structure Template where
  handle : Nat → Nat → Request → HandlerEnd
  copyPanics : Nat → Bool := fun _ => false
  latch : Option String := none

instance : Inhabited Template := ⟨{ handle := fun _ _ _ => .answered {} }⟩

namespace Template

/-- A template whose copies all treat a request alike. -/
def ofFunction (f : Request → HandlerEnd) : Template := { handle := fun _ _ => f }

/-- The copies of a template behave alike, however often they run. -/
def Uniform (t : Template) : Prop :=
  ∃ f : Request → HandlerEnd, ∀ n k r, t.handle n k r = f r

end Template

/-- A copy of a template: which template, which of its copies, and how often it has run. -/
structure Instance where
  template : Nat
  number : Nat
  uses : Nat := 0
  deriving DecidableEq, Repr, Inhabited

end Switchboard
