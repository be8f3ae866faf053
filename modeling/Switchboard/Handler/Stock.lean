import Switchboard.Handler.Basic
import Switchboard.Text.Quoted

/-!
# Stock handlers

The handlers that come with the server: one that answers with the server's name and version, one
that writes the request back, and one that redirects.
-/

namespace Switchboard.Stock

/-- Answers with the name and version of the server. -/
def version : Template := .ofFunction fun _ =>
  .answered <| ({} : Response).withJson <| .obj
    [("name", .str "dispatch-server"), ("version", .str "0.1.0")]

/-- A request as the echo shows it. -/
def echoed (r : Request) : Json :=
  .obj [
    ("request_id", .str r.id.text),
    ("source", .str r.source),
    ("method", .str r.method.name),
    ("path", .str r.path),
    ("command", .optional r.command),
    ("params", .obj (r.sortedParams.map fun p => (p.1, Json.strings p.2)))]

/-- Writes the request back. -/
def echo : Template := .ofFunction fun r => .answered (({} : Response).withJson (echoed r))

/-- Where a redirect goes. With `allowOverride` the least `to` parameter takes the place of the
configured location, and has to be a path of this site. -/
def redirectTarget (location : String) (allowOverride : Bool) (r : Request) :
    Except HandlerError String :=
  match r.param? "to" with
  | some target =>
    if allowOverride then
      if target.toList.head? = some '/' then .ok target
      else .error (.badRequest ("refusing off-site redirect to " ++ Quoted.quote target))
    else .ok location
  | none => .ok location

/-- Redirects every request. -/
def redirect (location : String) (allowOverride : Bool) : Template := .ofFunction fun r =>
  match redirectTarget location allowOverride r with
  | .ok target => .answered (({} : Response).redirectTo target)
  | .error e => .failed e

end Switchboard.Stock
