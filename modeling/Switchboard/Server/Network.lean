import Switchboard.Server.Basic
import Switchboard.Wire.Listener

/-!
# A server on the network

A server whose input is a listener: every connection that is accepted is converted by reading a
request from it, and what its output is told is written back.
-/

namespace Switchboard

namespace Arrival

/-- The connection of a client as the accept loop finds it. -/
def ofStream (s : ListenerSettings) (id : RequestId) (stream : Stream) : Arrival :=
  if s.readTimeoutMs = 0 then .fault
  else
    match Listener.read s id stream with
    | .ok r => .connection .reliable (.request r) .late none
    | .error e => .connection .reliable (.malformed e.message false) .late none

end Arrival

namespace Server

/-- Serves one client. The answer is what the client reads. -/
def serve (s : Server) (id : RequestId) (stream : Stream) : Server × List UInt8 :=
  let connection := s.pipeline.ledger.length
  let s := (s.offer (.ofStream s.settings.listener id stream)).settle
  (s, Outbound.calls (s.pipeline.ledger.line connection).reply.calls)

end Server

end Switchboard
