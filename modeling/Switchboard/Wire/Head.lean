import Switchboard.Wire.Inbound

/-!
# Request heads

A request head as its client means it, and how it is written: the request line, a line for each
header, and an empty line, each of them ended by a line feed with or without a carriage return
before it. A writer has some freedom there, so `WrittenLines` is a relation; `Inbound` reads what it
relates.

* `RequestHead.lines` are the lines of a head;
* `RequestHead.WellFormed` is what a head has to be like to be read back;
* `headOf?` finds the end of a head in bytes that begin with one.
-/

namespace Switchboard

/-! ### Heads and their lines -/

/-- The head of a request. -/
structure RequestHead where
  method : String
  path : String
  /-- What stands after the question mark, if there is one. -/
  query : Option String := none
  version : String
  headers : List (String × String) := []
  deriving DecidableEq, Repr

namespace RequestHead

/-- The path and the query. -/
def target (h : RequestHead) : String :=
  match h.query with
  | none => h.path
  | some query => h.path ++ "?" ++ query

/-- The first line. -/
def requestLine (h : RequestHead) : String := h.method ++ " " ++ h.target ++ " " ++ h.version

/-- The line of a header. -/
def headerLine (header : String × String) : String := header.1 ++ ": " ++ header.2

/-- The lines of a head, up to the empty one. -/
def lines (h : RequestHead) : List String := h.requestLine :: (h.headers.map headerLine ++ [""])

/-- The form data of the query. -/
def pairs (h : RequestHead) : List (String × String) :=
  match h.query with
  | none => []
  | some query => Form.pairs (utf8 query)

/-- Whether a head announces a form in the body: it posts, and the first content type it gives, in
any spelling of that name, begins with the one of forms. -/
def announcesForm (h : RequestHead) : Bool :=
  Method.parse h.method == .post &&
    match h.headers.find? fun header => asciiCaseEq "Content-Type" header.1 with
    | some (_, type) => "application/x-www-form-urlencoded".toList.isPrefixOf type.toList
    | none => false

/-- A word: not empty, and without blanks. -/
def IsWord (s : String) : Prop := s ≠ "" ∧ ∀ c ∈ s.toList, Blank.isBlank c = false

instance (s : String) : Decidable (IsWord s) :=
  decidable_of_decidable_of_iff
    (p := s ≠ "" ∧ (s.toList.all fun c => !Blank.isBlank c) = true) (by simp [IsWord])

/-- A text that neither begins nor ends with a blank. -/
def IsTrimmed (s : String) : Prop :=
  (∀ c, s.toList.head? = some c → Blank.isBlank c = false) ∧
    ∀ c, s.toList.getLast? = some c → Blank.isBlank c = false

/-- A header that can be read back: one line, with the first colon after the name. -/
structure GoodHeader (header : String × String) : Prop where
  colon : ':' ∉ header.1.toList
  name_line : '\n' ∉ header.1.toList
  value_line : '\n' ∉ header.2.toList
  name_trimmed : IsTrimmed header.1
  value_trimmed : IsTrimmed header.2

/-- A head that can be read back. -/
structure WellFormed (h : RequestHead) : Prop where
  method : IsWord h.method
  target : IsWord h.target
  path : '?' ∉ h.path.toList
  version : IsWord h.version
  protocol : "HTTP/".toList <+: h.version.toList
  headers : ∀ header ∈ h.headers, GoodHeader header

end RequestHead

/-! ### Writing lines -/

/-- The bytes that end a line. -/
def IsLineEnd (bytes : List UInt8) : Prop := bytes = [0x0A] ∨ bytes = [0x0D, 0x0A]

/-- Lines written one after the other, each with an end of its own. -/
inductive WrittenLines : List String → List UInt8 → Prop where
  | nil : WrittenLines [] []
  | cons {line : String} {ending : List UInt8} {lines : List String} {bytes : List UInt8}
      (hending : IsLineEnd ending) (h : WrittenLines lines bytes) :
      WrittenLines (line :: lines) (utf8 line ++ ending ++ bytes)

/-! ### Heads among bytes -/

/-- Whether a line counts as empty: carriage returns at its end do not. -/
def isEmptyLine (line : List UInt8) : Bool := line.all (· == 0x0D)

/-- The head that bytes begin with: everything up to the first empty line, with its line feed.
Nothing if no line that is ended by a line feed is empty. -/
def headOf? (bytes : List UInt8) : Option (List UInt8) :=
  match _h : bytes.dropWhile (· != 0x0A) with
  | [] => none
  | lf :: rest =>
    let line := bytes.takeWhile (· != 0x0A)
    if isEmptyLine line then some (line ++ [lf])
    else (headOf? rest).map (line ++ lf :: ·)
termination_by bytes.length
decreasing_by
  have := (List.dropWhile_suffix (l := bytes) (· != 0x0A)).length_le
  rw [_h, List.length_cons] at this
  omega

end Switchboard
