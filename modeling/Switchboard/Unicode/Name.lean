import Switchboard.Unicode.Age
import Switchboard.Unicode.Property
import Switchboard.Unicode.Script

/-!
# Classes of code points by name

A pattern names a class of code points by a general category, a script or a property (`Lu`,
`Greek`, `White_Space`) or by a property and a value (`gc=Lu`, `Script=Greek`, `Age=6.0`). Names
match loosely: case, blanks, hyphens, underscores and a leading `is` do not count.

`Unicode.named?` answers the first kind and `Unicode.valued?` the second.
-/

namespace Switchboard.Unicode

/-! ### Loose names -/

/-- Whether a text starts with `is`, in any case. -/
private def startsWithIs : List Char → Bool
  | a :: b :: _ => (a == 'i' || a == 'I') && (b == 's' || b == 'S')
  | _ => false

/-- A name as it is looked up: small, without blanks, hyphens, underscores and a leading `is`.
The one exception is `isc`, which is a name of its own. -/
def looseName (name : String) : String :=
  let cs := name.toList
  let body := if startsWithIs cs then cs.drop 2 else cs
  let kept := body.filter fun c => c != ' ' && c != '_' && c != '-' && c.toNat < 128
  let small := kept.map Char.toLower
  if startsWithIs cs && small == ['c'] then "isc" else String.ofList small

/-! ### General categories -/

/-- The general categories and their groups, under their names. -/
def categories : List (List String × CodePoints) := [
  (["any"], .range 0 CodePoints.last),
  (["ascii"], .range 0 0x7F),
  (["assigned"], Category.assigned),
  (["l", "letter"], Category.letter),
  (["lc", "casedletter"], Category.casedLetter),
  (["lu", "uppercaseletter"], Category.luPoints),
  (["ll", "lowercaseletter"], Category.llPoints),
  (["lt", "titlecaseletter"], Category.ltPoints),
  (["lm", "modifierletter"], Category.lmPoints),
  (["lo", "otherletter"], Category.loPoints),
  (["m", "mark", "combiningmark"], Category.mark),
  (["mn", "nonspacingmark"], Category.mnPoints),
  (["mc", "spacingmark"], Category.mcPoints),
  (["me", "enclosingmark"], Category.mePoints),
  (["n", "number"], Category.number),
  (["nd", "decimalnumber", "digit"], Category.ndPoints),
  (["nl", "letternumber"], Category.nlPoints),
  (["no", "othernumber"], Category.noPoints),
  (["p", "punctuation", "punct"], Category.punctuation),
  (["pc", "connectorpunctuation"], Category.pcPoints),
  (["pd", "dashpunctuation"], Category.pdPoints),
  (["ps", "openpunctuation"], Category.psPoints),
  (["pe", "closepunctuation"], Category.pePoints),
  (["pi", "initialpunctuation"], Category.piPoints),
  (["pf", "finalpunctuation"], Category.pfPoints),
  (["po", "otherpunctuation"], Category.poPoints),
  (["s", "symbol"], Category.symbol),
  (["sm", "mathsymbol"], Category.smPoints),
  (["sc", "currencysymbol"], Category.scPoints),
  (["sk", "modifiersymbol"], Category.skPoints),
  (["so", "othersymbol"], Category.soPoints),
  (["z", "separator"], Category.separator),
  (["zs", "spaceseparator"], Category.zsPoints),
  (["zl", "lineseparator"], Category.zlPoints),
  (["zp", "paragraphseparator"], Category.zpPoints),
  (["c", "other"], Category.other),
  (["cc", "control", "cntrl"], Category.ccPoints),
  (["cf", "format"], Category.cfPoints),
  (["cn", "unassigned"], Category.points .cn),
  (["co", "privateuse"], Category.coPoints)]

/-- The general category or group of a loose name. -/
def category? (loose : String) : Option CodePoints :=
  (categories.find? fun p => p.1.contains loose).map (·.2)

/-! ### Look-up -/

/-- The properties that have values instead of a yes or no, under their names. A name of this
list alone does not name a class. -/
private def valuedNames : List String :=
  ["age", "gc", "generalcategory", "script", "scx", "scriptextensions", "blk", "block", "ccc",
    "canonicalcombiningclass", "bc", "bidiclass", "ea", "eastasianwidth", "lb", "linebreak",
    "gcb", "graphemeclusterbreak", "wb", "wordbreak", "sb", "sentencebreak", "nt", "numerictype",
    "nv", "numericvalue", "dt", "decompositiontype", "dm", "decompositionmapping", "jt",
    "joiningtype", "jg", "joininggroup", "hst", "hangulsyllabletype", "na", "name", "na1",
    "unicode1name", "isc", "isocomment"]

/-- The class that a name alone stands for: a property, a general category or a script. The
names `cf`, `sc` and `lc` are categories before they are anything else. -/
def named? (name : String) : Option CodePoints :=
  let n := looseName name
  let category := (category? n).orElse fun _ => (Script.named? n).map (·.own)
  if n == "cf" || n == "sc" || n == "lc" then category
  else
    match Property.named? n with
    | some s => some s
    | none => if valuedNames.contains n then none else category

/-- The class of the code points for which a property has a value. -/
def valued? (property value : String) : Option CodePoints :=
  let p := looseName property
  let v := looseName value
  if p == "gc" || p == "generalcategory" then category? v
  else if p == "sc" || p == "script" then (Script.named? v).map (·.own)
  else if p == "scx" || p == "scriptextensions" then (Script.named? v).map (·.extended)
  else if p == "age" then Age.upTo? v
  else none

end Switchboard.Unicode
