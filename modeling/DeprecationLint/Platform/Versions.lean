import DeprecationLint.Platform.Declaration
import DeprecationLint.Text.CharClass

/-!
# Platform versions

A platform lists its versions in an enumeration. An enumerant is a version when its name is a
marker followed by an ASCII digit and anything else, such as `iOS_7_0` for the marker `iOS_`. The
text of a version leaves the marker out and writes dots for underscores: `7.0`.

`Versions.parse?` takes texts to values and asks for a unique name; `Versions.format` takes values
to texts and always answers, if need be with the bare number.
-/

namespace DeprecationLint.Platform

/-- An enumeration of platform versions. -/
structure Versions where
  /-- How the name of a version starts. -/
  marker : String
  /-- All enumerants, versions or not. -/
  enumerants : List Enumerant
  deriving DecidableEq, Repr

/-- Are the characters groups of decimal digits, joined by single separators? The flag says
whether the group at hand has a digit yet. -/
def isGroupedFrom (separator : Char) : Bool → List Char → Bool
  | started, [] => started
  | started, c :: rest =>
    if c = separator then started && isGroupedFrom separator false rest
    else Text.isDecimalDigit c && isGroupedFrom separator true rest

/-- Are the characters one or more groups of decimal digits, joined by single separators? -/
def isGrouped (separator : Char) (cs : List Char) : Bool :=
  isGroupedFrom separator false cs

/-- One character in place of another, throughout a text. -/
def replaceChar (old new : Char) (s : String) : String :=
  String.ofList (s.toList.map fun c ↦ if c = old then new else c)

/-- What is left of the characters after a number of UTF-8 bytes, if that many are there and they
end at a character. -/
def dropBytes? : Nat → List Char → Option (List Char)
  | 0, cs => some cs
  | _ + 1, [] => none
  | n + 1, c :: cs => if c.utf8Size ≤ n + 1 then dropBytes? (n + 1 - c.utf8Size) cs else none

namespace Versions

/-- Is a name the marker followed by an ASCII digit? -/
def isVersionName (marker name : String) : Bool :=
  match marker.toList.isPrefixOf? name.toList with
  | some (c :: _) => c.isDigit
  | _ => false

/-- The enumerants that are versions. -/
def versions (v : Versions) : List Enumerant :=
  v.enumerants.filter fun e ↦ isVersionName v.marker e.name

/-- Are there no versions? -/
def isEmpty (v : Versions) : Bool :=
  v.versions.isEmpty

/-- The greatest value of a version. -/
def max? (v : Versions) : Option UInt64 :=
  (v.versions.map (·.value)).max?

/-- The name of the version that a text stands for. -/
def nameOf (v : Versions) (text : String) : String :=
  v.marker ++ replaceChar '.' '_' text

/-- The value of the version that a text stands for: groups of digits joined by dots, which make
the name of exactly one version. -/
def parse? (v : Versions) (text : String) : Option UInt64 :=
  if isGrouped '.' text.toList then
    match v.versions.filter (·.name == v.nameOf text) with
    | [e] => some e.value
    | _ => none
  else none

/-- The text of an enumerant: its name without as many bytes as the marker has, and nothing if
they do not end at a character of the name. -/
def textOf (v : Versions) (e : Enumerant) : String :=
  replaceChar '_' '.' (String.ofList ((dropBytes? v.marker.utf8ByteSize e.name.toList).getD []))

/-- The text of a value: of the first version that has it, else of the first enumerant that has
it, else the number itself. -/
def format (v : Versions) (value : UInt64) : String :=
  match (v.versions ++ v.enumerants).find? (·.value == value) with
  | some e => v.textOf e
  | none => toString value.toNat

end Versions

end DeprecationLint.Platform
