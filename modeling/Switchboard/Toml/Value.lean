import Switchboard.Text.Json

/-!
# TOML values

The values of the file format of settings and allow lists. A table remembers how it came about,
because that decides whether later lines may still add to it.

* `Toml.entry?` puts a value under a dotted key into a table;
* `Toml.header?` and `Toml.arrayHeader?` open a table and a table of an array.
-/

namespace Switchboard.Toml

/-- How a table came about. -/
inductive Origin where
  /-- Between braces: nothing can be added. -/
  | braces
  /-- By a header of its own. -/
  | header
  /-- By a header of a table inside it. -/
  | implied
  /-- By a dotted key. -/
  | dotted
  deriving DecidableEq, Repr

/-- A TOML value. -/
inductive Value where
  | str (s : String)
  | int (n : Int)
  /-- A floating-point number, as it is written. -/
  | float (text : String)
  | bool (b : Bool)
  /-- A date, a time or both, as it is written. -/
  | time (text : String)
  | arr (items : List Value)
  | table (origin : Origin) (members : List (String × Value))
  /-- The tables of the headers in double brackets, of which the last one is open. -/
  | tables (items : List (List (String × Value)))
  deriving Inhabited

/-- A string. -/
def Value.str? : Value → Option String
  | .str s => some s
  | _ => none

/-- The members of a table. -/
abbrev Members := List (String × Value)

namespace Members

/-- The value under a key. -/
def get? (ms : Members) (key : String) : Option Value :=
  (ms.find? fun m => m.1 == key).map (·.2)

/-- Replaces the value under a key, or adds it at the end. -/
def set (ms : Members) (key : String) (v : Value) : Members :=
  if ms.any fun m => m.1 == key then ms.map fun m => if m.1 == key then (key, v) else m
  else ms ++ [(key, v)]

end Members

/-! ### Adding to tables -/

/-- Changes the table that a path leads to, making tables on the way. A dotted key only goes
through tables that have no header of their own. -/
def descend (dotted : Bool) (change : Origin → Members → Option Members) :
    List String → Origin → Members → Option Members
  | [], origin, ms => change origin ms
  | key :: path, _, ms =>
    let made := if dotted then Origin.dotted else .implied
    match ms.get? key with
    | none => (descend dotted change path made []).map fun inner => ms.set key (.table made inner)
    | some (.table origin inner) =>
      if origin = .braces ∨ (dotted ∧ origin = .header) then none
      else (descend dotted change path origin inner).map fun inner =>
        ms.set key (.table origin inner)
    | some (.tables items) =>
      match items.getLast? with
      | some last =>
        (descend dotted change path .header last).map fun inner =>
          ms.set key (.tables (items.dropLast ++ [inner]))
      | none => none
    | some _ => none

/-- Puts a value under a dotted key, which must be new, into a table. -/
def entry? (path : List String) (v : Value) (ms : Members) : Option Members :=
  match path.getLast? with
  | none => none
  | some key =>
    let change (origin : Origin) (inner : Members) : Option Members :=
      if decide (origin = .dotted) = decide (path.length = 1) then none
      else if (inner.get? key).isSome then none
      else some (inner.set key v)
    descend true change path.dropLast .header ms

/-- Opens the table of a header, which may exist only because of tables inside it. -/
def header? (path : List String) (ms : Members) : Option Members :=
  match path.getLast? with
  | none => none
  | some key =>
    let change (_ : Origin) (inner : Members) : Option Members :=
      match inner.get? key with
      | none => some (inner.set key (.table .header []))
      | some (.table .implied ms) => some (inner.set key (.table .header ms))
      | some _ => none
    descend false change path.dropLast .header ms

/-- Opens a new table at the end of the array of a header. -/
def arrayHeader? (path : List String) (ms : Members) : Option Members :=
  match path.getLast? with
  | none => none
  | some key =>
    let change (_ : Origin) (inner : Members) : Option Members :=
      match inner.get? key with
      | none => some (inner.set key (.tables [[]]))
      | some (.tables items) => some (inner.set key (.tables (items ++ [[]])))
      | some _ => none
    descend false change path.dropLast .header ms

/-- Puts a value under a dotted key into the table that a header has opened. -/
def entryUnder? (table path : List String) (v : Value) (ms : Members) : Option Members :=
  descend false (fun _ inner => entry? path v inner) table .header ms

/-! ### As data -/

mutual

/-- A value as JSON. Dates and times have no counterpart there and become objects with a single
member. -/
def Value.toJson : Value → Json
  | .str s => .str s
  | .int n => .int n
  | .float _ => .decimal 0 0
  | .bool b => .bool b
  | .time text => .obj [("time", .str text)]
  | .arr items => .arr (itemsToJson items)
  | .table _ members => .obj (membersToJson members)
  | .tables items => .arr (tablesToJson items)

/-- The items of an array as JSON. -/
def itemsToJson : List Value → List Json
  | [] => []
  | v :: vs => v.toJson :: itemsToJson vs

/-- The members of a table as JSON. -/
def membersToJson : List (String × Value) → List (String × Json)
  | [] => []
  | (k, v) :: ms => (k, v.toJson) :: membersToJson ms

/-- The tables of an array as JSON. -/
def tablesToJson : List (List (String × Value)) → List Json
  | [] => []
  | ms :: rest => .obj (membersToJson ms) :: tablesToJson rest

end

end Switchboard.Toml
