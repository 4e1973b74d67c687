import DeprecationLint.Platform.Declaration

/-!
# Platform modules

A module has a title, by which programs refer to it, and declares types. Full names should be
unique but need not be: the last declaration of a name counts. A name from the settings may also
differ from the declared one in the case of its ASCII letters; such a name stands for the declared
name it equals, and otherwise for the first one it equals but for case.
-/

namespace DeprecationLint.Platform

open Document

/-- A platform module. -/
structure Module where
  /-- The name that programs know the module by. -/
  title : Option String
  /-- The declared types, in order. -/
  types : List TypeDeclaration
  deriving Repr

/-- Are two names equal but for the case of ASCII letters? -/
def equalIgnoringCase (a b : String) : Bool :=
  a.toList.map Char.toLower == b.toList.map Char.toLower

namespace Module

/-- The type with a full name: the last one declared under it. -/
def type? (m : Module) (fullName : String) : Option TypeDeclaration :=
  m.types.reverse.find? (·.fullName == fullName)

/-- The type with a full name, or else the first one whose name differs only in case. -/
def typeIgnoringCase? (m : Module) (fullName : String) : Option TypeDeclaration :=
  (m.type? fullName).or (m.types.find? fun t ↦ equalIgnoringCase t.fullName fullName)

/-- A module; both its title and its types may be missing. -/
def read? {σ : Type} [Document σ] (s : σ) : Option Module := do
  let fields ← fields? ["title", "types"] s
  return {
    title := ← fields.optional? "title" text?
    types := ← fields.defaulted? "types" [] (listOf? TypeDeclaration.read?) }

/-- A type found under a name has that name. -/
theorem fullName_of_type? {m : Module} {fullName : String} {t : TypeDeclaration}
    (h : m.type? fullName = some t) : t.fullName = fullName := by
  simpa using List.find?_some h

/-- A type found under a name is declared in the module. -/
theorem mem_types_of_type? {m : Module} {fullName : String} {t : TypeDeclaration}
    (h : m.type? fullName = some t) : t ∈ m.types := by
  simpa using List.mem_of_find?_eq_some h

/-- A name stands for no type exactly when no type is declared under it. -/
theorem type?_eq_none_iff {m : Module} {fullName : String} :
    m.type? fullName = none ↔ ∀ t ∈ m.types, t.fullName ≠ fullName := by
  simp [type?]

end Module

end DeprecationLint.Platform
