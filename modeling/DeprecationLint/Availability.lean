import DeprecationLint.Platform.Target
import DeprecationLint.Snapshot.Symbol

/-!
# Availability of symbols

The symbols of a program and the declarations of the platform meet by name. From a type of the
program one follows bases to the first type that the platform's module declares, looks that up in
the module by its full name, and goes on along the declared bases. The first declaration on the way
that carries the deprecation attribute decides, so a nearer declaration hides a farther one, and a
declaration without the attribute hides nothing.

Only a malformed attribute is a fault. Everything else that leads nowhere means that there is no
deprecation.

Symbols and declared types both lead on to a base, and both may lead in circles. The lineage of a
start is the list of what is met on the way, up to the first that has been met before. The walk is
bounded by a number of steps. With as many steps as there are different keys the bound is never what
ends it: a walk that meets no key twice cannot be longer than that.
-/

namespace DeprecationLint

open Platform Snapshot

/-! ### Lineages -/

section Lineage

variable {α κ : Type} [DecidableEq κ]

/-- What is met within a number of steps, given the keys that were met before. -/
def lineageAfter (key : α → κ) (next : α → Option α) : Nat → List κ → Option α → List α
  | 0, _, _ => []
  | _ + 1, _, none => []
  | steps + 1, seen, some a =>
    if key a ∈ seen then [] else a :: lineageAfter key next steps (key a :: seen) (next a)

/-- What is met from a start on, the start included, up to the first repetition of a key. -/
def lineage (key : α → κ) (next : α → Option α) (steps : Nat) (start : Option α) : List α :=
  lineageAfter key next steps [] start

@[simp] theorem lineageAfter_none (key : α → κ) (next : α → Option α) (steps : Nat)
    (seen : List κ) : lineageAfter key next steps seen none = [] := by
  cases steps <;> rfl

end Lineage

/-! ### Types of the program -/

namespace Snapshot.SymbolTable

/-- The symbol that the base of a type leads to. -/
def base? (table : SymbolTable) (s : Symbol) : Option Symbol :=
  s.baseType.bind table.get?

/-- A type and its bases, in order. -/
def bases (table : SymbolTable) (start : Option SymbolId) : List Symbol :=
  lineage Symbol.id table.base? table.symbols.length (start.bind table.get?)

end Snapshot.SymbolTable

/-- Is a symbol the root type of the platform? -/
def Platform.Target.isRoot (target : Target) (s : Symbol) : Bool :=
  s.module == target.identity && s.name == target.rootName

/-- Is a type the root type or a descendant of it? A missing type and an array are not. -/
def isDescendant (target : Target) (table : SymbolTable) (type : Option SymbolId) : Bool :=
  match type.bind table.get? with
  | none => false
  | some s => s.kind != .arrayType && (table.bases type).any target.isRoot

/-- The nearest type, from a type on along its bases, that belongs to the platform's module. -/
def nearestPlatformType? (target : Target) (table : SymbolTable) (start : Option SymbolId) :
    Option Symbol :=
  (table.bases start).find? (·.module == target.identity)

/-! ### Types of the platform -/

namespace Platform.Module

/-- The declaration that the base of a declared type leads to. -/
def base? (m : Module) (t : TypeDeclaration) : Option TypeDeclaration :=
  t.base.bind m.type?

/-- A declared type and its declared bases, in order. -/
def bases (m : Module) (start : TypeDeclaration) : List TypeDeclaration :=
  lineage TypeDeclaration.fullName m.base? m.types.length (some start)

end Platform.Module

/-- The first attribute that carries a deprecation. -/
def deprecationAmong? (target : Target) (attributes : List Attribute) : Option Attribute :=
  attributes.find? (·.typeName == target.attributeType)

/-- The kind of declared member that a symbol is looked up as. -/
def memberKind? : SymbolKind → Option MemberKind
  | .method => some .method
  | .property => some .property
  | _ => none

/-- The declared types that have a say about a type of the program, nearest first. -/
def platformBases (target : Target) (table : SymbolTable) (start : Option SymbolId) :
    List TypeDeclaration :=
  match (nearestPlatformType? target table start).bind fun s ↦ target.module.type? s.shownAs with
  | some t => target.module.bases t
  | none => []

/-- The deprecation attribute of a member, looked up by its name and a kind. -/
def memberAttribute? (target : Target) (table : SymbolTable) (member : SymbolId)
    (kind : MemberKind) : Option Attribute := do
  let s ← table.get? member
  (platformBases target table s.containingType).findSome? fun t ↦
    (t.member? s.name kind).bind fun m ↦ deprecationAmong? target m.attributes

/-- The deprecation attribute of a type. -/
def typeAttribute? (target : Target) (table : SymbolTable) (type : SymbolId) : Option Attribute :=
  (platformBases target table (some type)).findSome? fun t ↦ deprecationAmong? target t.attributes

/-! ### Versions -/

/-- The version that an attribute carries. -/
def Platform.Attribute.version (a : Attribute) : Except Fault UInt64 :=
  match (a.carried? deprecatedEntry).bind Value.unsigned? with
  | some v => .ok v
  | none => .error (.missingVersion a.typeName)

/-- The version of an attribute, if it is worth a report. -/
def reportableVersion (target : Target) : Option Attribute → Except Fault (Option UInt64)
  | none => .ok none
  | some a => do
    let v ← a.version
    return if target.isReportable v then some v else none

/-- The version in which a member was deprecated, if that is worth a report. -/
def memberDeprecation (target : Target) (table : SymbolTable) (member : SymbolId) :
    Except Fault (Option UInt64) :=
  match (table.get? member).bind fun s ↦ memberKind? s.kind with
  | none => .ok none
  | some kind => reportableVersion target (memberAttribute? target table member kind)

/-- The version in which a type was deprecated, if that is worth a report. -/
def typeDeprecation (target : Target) (table : SymbolTable) (type : SymbolId) :
    Except Fault (Option UInt64) :=
  reportableVersion target (typeAttribute? target table type)

end DeprecationLint
