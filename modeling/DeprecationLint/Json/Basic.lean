import DeprecationLint.Value

/-!
# JSON documents

The tree of a JSON text. Objects keep their members in written order, repeated names included:
whether a repetition is an error depends on what the object is read as.

Some well-formed values cannot be represented: a text with half of a surrogate pair, an object
with such a text for a name, a number beyond the doubles, a list or object nested too deeply. They
become `unreadable` leaves. Skipping such a value is no error, and reading it always is.
-/

namespace DeprecationLint

/-- The tree of a JSON text. -/
inductive Json where
  /-- The literal `null`. -/
  | null
  /-- One of the literals `true` and `false`. -/
  | bool (b : Bool)
  /-- A number. -/
  | number (n : Number)
  /-- A string. -/
  | text (s : String)
  /-- An array. -/
  | list (items : List Json)
  /-- An object, in written order. -/
  | object (members : List (String × Json))
  /-- A well-formed value that may only be skipped. -/
  | unreadable
  deriving Repr

namespace Json

mutual

/-- A tree as a carried value, unless something in it is unreadable. -/
def value? : Json → Option Value
  | .null => some .null
  | .bool b => some (.bool b)
  | .number n => some (.number n)
  | .text s => some (.text s)
  | .list items => (listValue? items).map .list
  | .object members => (entryValues? members).map .record
  | .unreadable => none

/-- The items of an array as carried values. -/
def listValue? : List Json → Option (List Value)
  | [] => some []
  | j :: rest => do
    let v ← value? j
    let vs ← listValue? rest
    return v :: vs

/-- The members of an object as carried values. -/
def entryValues? : List (String × Json) → Option (List (String × Value))
  | [] => some []
  | (name, j) :: rest => do
    let v ← value? j
    let vs ← entryValues? rest
    return (name, v) :: vs

end

mutual

/-- The tree of a carried value. -/
def ofValue : Value → Json
  | .null => .null
  | .bool b => .bool b
  | .number n => .number n
  | .text s => .text s
  | .list items => .list (ofValues items)
  | .record entries => .object (ofEntries entries)

/-- The trees of a list of carried values. -/
def ofValues : List Value → List Json
  | [] => []
  | v :: rest => ofValue v :: ofValues rest

/-- The trees of named carried values. -/
def ofEntries : List (String × Value) → List (String × Json)
  | [] => []
  | (name, v) :: rest => (name, ofValue v) :: ofEntries rest

end

mutual

/-- Writing a carried value as a tree loses nothing. -/
@[simp] theorem value?_ofValue : ∀ v : Value, value? (ofValue v) = some v
  | .null => rfl
  | .bool _ => rfl
  | .number _ => rfl
  | .text _ => rfl
  | .list items => by simp [ofValue, value?, listValue?_ofValues items]
  | .record entries => by simp [ofValue, value?, entryValues?_ofEntries entries]

theorem listValue?_ofValues : ∀ vs : List Value, listValue? (ofValues vs) = some vs
  | [] => rfl
  | v :: rest => by simp [ofValues, listValue?, value?_ofValue v, listValue?_ofValues rest]

theorem entryValues?_ofEntries :
    ∀ es : List (String × Value), entryValues? (ofEntries es) = some es
  | [] => rfl
  | (_, v) :: rest => by
    simp [ofEntries, entryValues?, value?_ofValue v, entryValues?_ofEntries rest]

end

end Json

end DeprecationLint
