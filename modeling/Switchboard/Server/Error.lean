import Switchboard.Queue.Ring
import Switchboard.Settings.Load

/-!
# Errors of the server

What can go wrong when a listener is bound and when a server is built or started.
-/

namespace Switchboard

/-- Why no listener was bound. -/
inductive ListenerError where
  /-- The address is no socket address. -/
  | address (text : String)
  /-- The address could not be bound. -/
  | bind (reason : String)
  deriving DecidableEq, Repr

namespace ListenerError

/-- What is wrong, in words. -/
def message : ListenerError → String
  | address text => "invalid bind address " ++ text ++ ": " ++ SocketAddress.syntaxMessage
  | bind reason => "failed to bind: " ++ reason

end ListenerError

/-- Why a server was not built or not started. -/
inductive ServerError where
  | settings (e : LoadError)
  | listener (e : ListenerError)
  | queue (e : QueueError)
  | io (reason : String)
  | alreadyStarted
  deriving DecidableEq, Repr

namespace ServerError

/-- What is wrong, in words. -/
def message : ServerError → String
  | settings e => "configuration error: " ++ e.message
  | listener e => "listener error: " ++ e.message
  | queue e => "event queue error: " ++ e.message
  | io reason => "I/O error: " ++ reason
  | alreadyStarted => "server already started"

end ServerError

end Switchboard
