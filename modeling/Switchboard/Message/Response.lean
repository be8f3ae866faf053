import Switchboard.Text.Bytes

/-!
# Responses

What a handler answers with: which of the three kinds of answer it is, the kind of data, the body
and the headers. A response starts empty and is filled in step by step.
-/

namespace Switchboard

/-- Whether two texts are equal when the case of ASCII letters is ignored. -/
def asciiCaseEq (a b : String) : Bool :=
  a.toList.map Char.toLower == b.toList.map Char.toLower

/-- The kind of an answer. -/
inductive Status where
  /-- The body answers the request. -/
  | ok
  /-- The client is sent elsewhere. -/
  | redirect
  /-- The body comes from another server and is passed on as it is. -/
  | proxy
  deriving DecidableEq, Repr, Inhabited

/-- The kind of data in a body. -/
inductive DataType where
  | json
  | html
  | css
  | js
  | png
  /-- Data of another server, passed on as it is. -/
  | proxy
  deriving DecidableEq, Repr, Inhabited

namespace Status

/-- The name of a kind of answer. -/
def name : Status → String
  | ok => "Ok"
  | redirect => "Redirect"
  | proxy => "Proxy"

/-- The kind of answer of a name; an unknown one is an ordinary answer. -/
def ofName : String → Status
  | "Redirect" => redirect
  | "Proxy" => proxy
  | _ => ok

end Status

namespace DataType

/-- The name of a kind of data. -/
def name : DataType → String
  | json => "Json"
  | html => "Html"
  | css => "Css"
  | js => "Js"
  | png => "Png"
  | proxy => "Proxy"

/-- The kind of data of a name; an unknown one is JSON. -/
def ofName : String → DataType
  | "Html" => html
  | "Css" => css
  | "Js" => js
  | "Png" => png
  | "Proxy" => proxy
  | _ => json

/-- The content type that announces a kind of data. -/
def contentType : DataType → String
  | json => "application/json"
  | html => "text/html; charset=utf-8"
  | css => "text/css"
  | js => "application/javascript"
  | png => "image/png"
  | proxy => "application/octet-stream"

end DataType

/-- An answer to a request. -/
structure Response where
  status : Status := .ok
  dataType : DataType := .json
  body : List UInt8 := []
  headers : List (String × String) := []
  deriving DecidableEq, Repr, Inhabited

namespace Response

/-- Adds a header after the others. -/
def withHeader (r : Response) (name value : String) : Response :=
  { r with headers := r.headers ++ [(name, value)] }

/-- A JSON value as the body. -/
def withJson (r : Response) (value : Json) : Response :=
  { r with dataType := .json, body := utf8 value.compact }

/-- Sends the client to a location. -/
def redirectTo (r : Response) (location : String) : Response :=
  { r with status := .redirect }.withHeader "Location" location

/-- Passes on the data of another server. -/
def proxied (r : Response) (payload : List UInt8) : Response :=
  { r with status := .proxy, dataType := .proxy, body := payload }

/-- The first header of a name, in any case. -/
def header? (r : Response) (name : String) : Option String :=
  (r.headers.find? fun h => asciiCaseEq h.1 name).map (·.2)

/-- A response as data. -/
def toJson (r : Response) : Json :=
  .obj [("status", .str r.status.name), ("data_type", .str r.dataType.name),
    ("content_type", .str r.dataType.contentType), ("body", .ofBytes r.body),
    ("headers", .arr (r.headers.map fun h => .strings [h.1, h.2]))]

end Response

end Switchboard
