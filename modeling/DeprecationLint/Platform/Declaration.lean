import DeprecationLint.Json.Document

/-!
# Platform declarations

What a platform module says about its types: their names and bases, their members, the attributes
on both, and the enumerants of enumerations. Of the data that an attribute carries only one entry
is ever looked at; the rest is passed on as it came.

Each declaration is read from any format of documents (`read?`) and has one JSON form (`toJson`),
which leaves out a missing base and an empty list of enumerants.
-/

namespace DeprecationLint.Platform

open Document

/-- What kind of member a declaration introduces. -/
inductive MemberKind where
  | method
  | property
  | field
  | constructor
  | event
  deriving DecidableEq, Repr

/-- The word for a kind of member. -/
def MemberKind.name : MemberKind → String
  | .method => "method"
  | .property => "property"
  | .field => "field"
  | .constructor => "constructor"
  | .event => "event"

/-- The kind of member that a word stands for. -/
def MemberKind.ofName? : String → Option MemberKind
  | "method" => some .method
  | "property" => some .property
  | "field" => some .field
  | "constructor" => some .constructor
  | "event" => some .event
  | _ => none

@[simp] theorem MemberKind.ofName?_name (k : MemberKind) : ofName? k.name = some k := by
  cases k <;> rfl

/-- An attribute on a type or member. -/
structure Attribute where
  /-- The full name of the attribute's type. -/
  typeName : String
  /-- What the attribute carries, in written order. -/
  entries : List (String × Value)
  deriving Repr

/-- What an attribute carries under a name. -/
def Attribute.carried? (a : Attribute) (name : String) : Option Value :=
  lastNamed? name a.entries

/-- A member of a type. -/
structure Member where
  /-- The member's name. -/
  name : String
  /-- The member's kind. -/
  kind : MemberKind
  /-- The attributes on the member. -/
  attributes : List Attribute
  deriving Repr

/-- A named value of an enumeration. -/
structure Enumerant where
  /-- The enumerant's name. -/
  name : String
  /-- The enumerant's value. -/
  value : UInt64
  deriving DecidableEq, Repr

/-- A type that the platform declares. -/
structure TypeDeclaration where
  /-- The full name, with the namespaces around the type. -/
  fullName : String
  /-- The full name of the base type. -/
  base : Option String
  /-- The attributes on the type. -/
  attributes : List Attribute
  /-- The members that the type itself declares. -/
  members : List Member
  /-- The values of an enumeration. -/
  enumerants : List Enumerant
  deriving Repr

namespace TypeDeclaration

/-- The simple name of a type: what follows the last dot of its full name. -/
def simpleName (t : TypeDeclaration) : String :=
  String.ofList (t.fullName.toList.reverse.takeWhile (· ≠ '.')).reverse

/-- The first member that the type declares under a name and kind. -/
def member? (t : TypeDeclaration) (name : String) (kind : MemberKind) : Option Member :=
  t.members.find? fun m ↦ m.name == name && m.kind == kind

/-- Does the type declare a member of that name, whatever its kind? -/
def hasMember (t : TypeDeclaration) (name : String) : Bool :=
  t.members.any (·.name == name)

end TypeDeclaration

/-! ### Reading -/

section Read

variable {σ : Type} [Document σ]

/-- A kind of member, by its word. -/
def MemberKind.read? (s : σ) : Option MemberKind :=
  (choice? s).bind MemberKind.ofName?

/-- An attribute; it may carry nothing. -/
def Attribute.read? (s : σ) : Option Attribute := do
  let fields ← fields? ["type", "fields"] s
  return {
    typeName := ← fields.required? "type" text?
    entries := ← fields.defaulted? "fields" [] entries? }

/-- A member; it may have no attributes. -/
def Member.read? (s : σ) : Option Member := do
  let fields ← fields? ["name", "kind", "attributes"] s
  return {
    name := ← fields.required? "name" text?
    kind := ← fields.required? "kind" MemberKind.read?
    attributes := ← fields.defaulted? "attributes" [] (listOf? Attribute.read?) }

/-- An enumerant. -/
def Enumerant.read? (s : σ) : Option Enumerant := do
  let fields ← fields? ["name", "value"] s
  return {
    name := ← fields.required? "name" text?
    value := ← fields.required? "value" word64? }

/-- A type; all but its name may be missing. -/
def TypeDeclaration.read? (s : σ) : Option TypeDeclaration := do
  let fields ← fields? ["full_name", "base", "attributes", "members", "enumerants"] s
  return {
    fullName := ← fields.required? "full_name" text?
    base := ← fields.optional? "base" text?
    attributes := ← fields.defaulted? "attributes" [] (listOf? Attribute.read?)
    members := ← fields.defaulted? "members" [] (listOf? Member.read?)
    enumerants := ← fields.defaulted? "enumerants" [] (listOf? Enumerant.read?) }

end Read

/-! ### Writing -/

/-- The JSON form of an attribute. -/
def Attribute.toJson (a : Attribute) : Json :=
  .object [("type", .text a.typeName), ("fields", .object (Json.ofEntries a.entries))]

/-- The JSON form of a member. -/
def Member.toJson (m : Member) : Json :=
  .object [("name", .text m.name), ("kind", .text m.kind.name),
    ("attributes", .list (m.attributes.map Attribute.toJson))]

/-- The JSON form of an enumerant. -/
def Enumerant.toJson (e : Enumerant) : Json :=
  .object [("name", .text e.name), ("value", .number (.ofUnsigned e.value))]

/-- The JSON form of a type. -/
def TypeDeclaration.toJson (t : TypeDeclaration) : Json :=
  .object (
    [("full_name", .text t.fullName)]
    ++ (t.base.map fun b ↦ ("base", .text b)).toList
    ++ [("attributes", .list (t.attributes.map Attribute.toJson)),
      ("members", .list (t.members.map Member.toJson))]
    ++ if t.enumerants.isEmpty then []
      else [("enumerants", .list (t.enumerants.map Enumerant.toJson))])

end DeprecationLint.Platform
