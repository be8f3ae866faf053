import Switchboard.Message.Response

/-!
# Requests

A request as the server sees it once a connection has been read: where it came from, the method,
the path, the headers and the parameters, and, after routing, the command it was matched to.

Headers are grouped by name without regard to case, under the spelling that came first, and keep
the order of arrival. A parameter holds a set of values, kept in increasing order; `param?`
answers the least one.
-/

namespace Switchboard

/-- The number that tells a request apart from all others: 122 random bits with the marks of a
random identifier. -/
structure RequestId where
  high : UInt64
  low : UInt64
  deriving DecidableEq, Repr, Inhabited

namespace RequestId

/-- The identifier made from 128 random bits, six of which are overwritten by the version and the
variant. -/
def ofRandom (high low : UInt64) : RequestId where
  high := (high &&& 0xFFFFFFFFFFFF0FFF) ||| 0x4000
  low := (low &&& 0x3FFFFFFFFFFFFFFF) ||| 0x8000000000000000

/-- A number as hexadecimal digits, at least so many. -/
private def hex (width : Nat) (n : Nat) : List Char :=
  let ds := Nat.toDigits 16 n
  List.replicate (width - ds.length) '0' ++ ds

/-- The identifier in five groups of hexadecimal digits. -/
def text (id : RequestId) : String :=
  let ds := hex 16 id.high.toNat ++ hex 16 id.low.toNat
  String.ofList (ds.take 8 ++ '-' :: (ds.drop 8).take 4 ++ '-' :: (ds.drop 12).take 4 ++
    '-' :: (ds.drop 16).take 4 ++ '-' :: ds.drop 20)

end RequestId

/-- The method of a request. -/
inductive Method where
  | get
  | post
  /-- Anything else. -/
  | unknown
  deriving DecidableEq, Repr, Inhabited

namespace Method

/-- The method of a token, in any case. -/
def parse (token : String) : Method :=
  if asciiCaseEq token "GET" then .get
  else if asciiCaseEq token "POST" then .post
  else .unknown

/-- The name of a method. -/
def name : Method → String
  | get => "GET"
  | post => "POST"
  | unknown => "UNKNOWN"

end Method

/-- Puts a value into an increasing list without repetition. -/
def insertSorted (v : String) : List String → List String
  | [] => [v]
  | w :: ws => if v = w then w :: ws else if v < w then v :: w :: ws else w :: insertSorted v ws

/-- A request. -/
structure Request where
  id : RequestId := default
  source : String := ""
  method : Method := .get
  path : String := ""
  headers : List (String × List String) := []
  params : List (String × List String) := []
  command : Option String := none
  deriving DecidableEq, Repr, Inhabited

namespace Request

/-! ### Headers -/

/-- Adds a value to the first group of a name, or a new group at the end. -/
def addToGroup (name value : String) : List (String × List String) → List (String × List String)
  | [] => [(name, [value])]
  | (existing, values) :: rest =>
    if asciiCaseEq existing name then (existing, values ++ [value]) :: rest
    else (existing, values) :: addToGroup name value rest

/-- Adds a header value, keeping the first spelling of the name. -/
def addHeader (r : Request) (name value : String) : Request :=
  { r with headers := addToGroup name value r.headers }

/-- All values of a header, in order of arrival. -/
def headerValues (r : Request) (name : String) : List String :=
  match r.headers.find? fun h => asciiCaseEq h.1 name with
  | some h => h.2
  | none => []

/-- The first value of a header. -/
def header? (r : Request) (name : String) : Option String := (r.headerValues name).head?

/-! ### Parameters -/

/-- Adds a value to the set of a key. -/
def addToSet (key value : String) : List (String × List String) → List (String × List String)
  | [] => [(key, [value])]
  | (existing, values) :: rest =>
    if existing = key then (existing, insertSorted value values) :: rest
    else (existing, values) :: addToSet key value rest

/-- Adds a value of a parameter. -/
def addParam (r : Request) (key value : String) : Request :=
  { r with params := addToSet key value r.params }

/-- Adds several parameters. -/
def addParams (r : Request) (pairs : List (String × String)) : Request :=
  pairs.foldl (fun r p => r.addParam p.1 p.2) r

/-- The values of a parameter, least first. -/
def paramValues? (r : Request) (key : String) : Option (List String) :=
  (r.params.find? fun p => p.1 == key).map (·.2)

/-- The least value of a parameter. -/
def param? (r : Request) (key : String) : Option String :=
  (r.paramValues? key).bind List.head?

/-- The parameters in the order of their keys. -/
def sortedParams (r : Request) : List (String × List String) :=
  r.params.mergeSort fun a b => a.1 ≤ b.1

/-! ### A request as data -/

/-- A request without its identifier. -/
def toJson (r : Request) : Json :=
  .obj [("source", .str r.source), ("method", .str r.method.name), ("path", .str r.path),
    ("headers", .arr (r.headers.map fun h => .arr [.str h.1, .strings h.2])),
    ("params", .obj (r.params.map fun p => (p.1, .strings p.2))),
    ("command", .optional r.command)]

end Request

end Switchboard
