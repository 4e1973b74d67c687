import DeprecationLint.Json.Basic
import DeprecationLint.Record

/-!
# Records in JSON

A record is an object, or an array of its fields in the order of their declaration, of which
trailing ones may be missing. Names that the record does not have are skipped, and a repeated name
that it has is an error. One of several names is a string, or an object with that name for its only
member and `null` for its value.
-/

namespace DeprecationLint.Json

/-- A string. -/
def text? : Json → Option String
  | .text s => some s
  | _ => none

/-- One of the literals `true` and `false`. -/
def bool? : Json → Option Bool
  | .bool b => some b
  | _ => none

/-- An integer that is not negative. -/
def natural? : Json → Option Nat
  | .number (.integer n) => if 0 ≤ n then some n.toNat else none
  | _ => none

/-- An array. -/
def list? : Json → Option (List Json)
  | .list items => some items
  | _ => none

/-- One of several names. -/
def choice? : Json → Option String
  | .text s => some s
  | .object [(name, .null)] => some name
  | _ => none

/-- An object of carried values. -/
def entries? : Json → Option (List (String × Value))
  | .object members => entryValues? members
  | _ => none

/-- The fields of a record. -/
def fields? (names : List String) : Json → Option (Fields Json)
  | .object members =>
    let known := members.filter fun m ↦ names.contains m.1
    if (known.map (·.1)).Nodup then some known else none
  | .list items => if items.length ≤ names.length then some (names.zip items) else none
  | _ => none

/-- The literal `null`. -/
def isNull : Json → Bool
  | .null => true
  | _ => false

instance : Document Json where
  text? := text?
  natural? := natural?
  list? := list?
  choice? := choice?
  entries? := entries?
  fields? := fields?
  isAbsent := isNull

end DeprecationLint.Json
