import DeprecationLint.Record
import DeprecationLint.Yaml.Node
import DeprecationLint.Yaml.Plain

/-!
# Records in YAML

A record is a mapping. Names that the record does not have are skipped, and a repeated name that it
has is an error. Every scalar is a text, whatever else it could mean; an optional text is absent if
it is spelled plainly and means nothing. Where nothing is written, there is an empty list or an
empty record.
-/

namespace DeprecationLint.Yaml.Node

/-- The text of a scalar. -/
def text? : Node → Option String
  | .scalar _ text => some text
  | _ => none

/-- A plain scalar that is a number and not negative. -/
def natural? : Node → Option Nat
  | .scalar true text => Plain.natural? text
  | _ => none

/-- A sequence, or an empty one where nothing is written. -/
def list? : Node → Option (List Node)
  | .sequence items => some items
  | .scalar true "" => some []
  | _ => none

/-- A mapping whose keys are texts, or an empty one where nothing is written. -/
def pairs? : Node → Option (List (String × Node))
  | .mapping pairs => pairs.mapM fun (p : Node × Node) ↦ (text? p.1).map (·, p.2)
  | .scalar true "" => some []
  | _ => none

/-- The fields of a record. -/
def fields? (names : List String) (n : Node) : Option (Fields Node) := do
  let pairs ← pairs? n
  let known := pairs.filter fun p ↦ names.contains p.1
  if (known.map (·.1)).Nodup then some known else none

mutual

/-- A tree as a carried value. -/
def value? : Node → Option Value
  | .scalar true text => Plain.value? text
  | .scalar false text => some (.text text)
  | .sequence items => (listValue? items).map .list
  | .mapping pairs => (entryValues? pairs).map .record
  | .unreadable => none

/-- The items of a sequence as carried values. -/
def listValue? : List Node → Option (List Value)
  | [] => some []
  | n :: rest => do
    let v ← value? n
    let vs ← listValue? rest
    return v :: vs

/-- The pairs of a mapping as carried values. -/
def entryValues? : List (Node × Node) → Option (List (String × Value))
  | [] => some []
  | (key, n) :: rest => do
    let name ← text? key
    let v ← value? n
    let vs ← entryValues? rest
    return (name, v) :: vs

end

/-- A mapping of carried values, or an empty one where nothing is written. -/
def entries? : Node → Option (List (String × Value))
  | .mapping pairs => entryValues? pairs
  | .scalar true "" => some []
  | _ => none

/-- A plain scalar that means nothing. -/
def isAbsent : Node → Bool
  | .scalar true text => Plain.isNull text
  | _ => false

instance : Document Node where
  text? := text?
  natural? := natural?
  list? := list?
  choice? := text?
  entries? := entries?
  fields? := fields?
  isAbsent := isAbsent

end DeprecationLint.Yaml.Node
