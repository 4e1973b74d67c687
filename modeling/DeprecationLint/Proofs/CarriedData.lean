import DeprecationLint.Proofs.Likeness

/-!
# What attributes carry

Of all that an attribute carries, an analysis asks for its version and nothing else. So other
attributes can be put in the place of those of a module, as long as each has the type and the
version of the one whose place it takes (`Attribute.SameVersion`).

`Module.mapAttributes` puts them in place everywhere, on types and on members. No lookup looks at
what an attribute carries, so **a type is like itself with the others in place**
(`TypeDeclaration.alike_mapAttributes`), and a target is resolved as before
(`Target.resolve_mapAttributes`).
-/

namespace DeprecationLint

open Platform Snapshot

namespace Platform

/-- A member with other attributes in the place of its own. -/
def Member.mapAttributes (f : Attribute → Attribute) (m : Member) : Member :=
  { m with attributes := m.attributes.map f }

/-- A type with other attributes in the place of its own and of those of its members. -/
def TypeDeclaration.mapAttributes (f : Attribute → Attribute) (t : TypeDeclaration) :
    TypeDeclaration :=
  { t with
    attributes := t.attributes.map f
    members := t.members.map (Member.mapAttributes f) }

/-- A module with other attributes in the place of its own. -/
def Module.mapAttributes (f : Attribute → Attribute) (m : Module) : Module :=
  { m with types := m.types.map (TypeDeclaration.mapAttributes f) }

/-- What is put in the place of an attribute has its type and its version. -/
structure Attribute.SameVersion (f : Attribute → Attribute) : Prop where
  /-- The type is the same. -/
  typeName_eq : ∀ a, (f a).typeName = a.typeName
  /-- The version is the same, or is missing in both. -/
  version_eq : ∀ a, (f a).version = a.version

theorem Member.mapAttributes_id (m : Member) : m.mapAttributes id = m := by
  rw [mapAttributes, List.map_id]

theorem TypeDeclaration.mapAttributes_id (t : TypeDeclaration) : t.mapAttributes id = t := by
  rw [mapAttributes, List.map_id, funext Member.mapAttributes_id, List.map_id']

theorem Module.mapAttributes_id (m : Module) : m.mapAttributes id = m := by
  rw [mapAttributes, funext TypeDeclaration.mapAttributes_id, List.map_id']

theorem Member.mapAttributes_mapAttributes (f g : Attribute → Attribute) (m : Member) :
    (m.mapAttributes f).mapAttributes g = m.mapAttributes (g ∘ f) := by
  rw [mapAttributes, mapAttributes, mapAttributes, List.map_map]

theorem TypeDeclaration.mapAttributes_mapAttributes (f g : Attribute → Attribute)
    (t : TypeDeclaration) : (t.mapAttributes f).mapAttributes g = t.mapAttributes (g ∘ f) := by
  have hmember : Member.mapAttributes g ∘ Member.mapAttributes f = Member.mapAttributes (g ∘ f) :=
    funext (Member.mapAttributes_mapAttributes f g)
  rw [mapAttributes, mapAttributes, mapAttributes, List.map_map, List.map_map, hmember]

/-! ### Likeness -/

section Likeness

variable {f : Attribute → Attribute}

theorem TypeDeclaration.member?_mapAttributes (t : TypeDeclaration) (name : String)
    (kind : MemberKind) :
    (t.mapAttributes f).member? name kind = (t.member? name kind).map (Member.mapAttributes f) := by
  rw [member?, member?, mapAttributes, List.find?_map]
  rfl

theorem TypeDeclaration.hasMember_mapAttributes (t : TypeDeclaration) (name : String) :
    (t.mapAttributes f).hasMember name = t.hasMember name := by
  rw [hasMember, hasMember, mapAttributes, List.any_map]
  rfl

variable (hf : Attribute.SameVersion f) {attributeType : String}

include hf

theorem deprecated?_map (attributes : List Attribute) :
    deprecated? attributeType (attributes.map f) = deprecated? attributeType attributes := by
  have hkey : ((·.typeName == attributeType) ∘ f) = (·.typeName == attributeType) :=
    funext fun a ↦ congrArg (· == attributeType) (hf.typeName_eq a)
  rw [deprecated?, deprecated?, List.find?_map, hkey, Option.map_map]
  exact congrArg (Option.map · _) (funext hf.version_eq)

/-- **A type is like itself with other attributes of the same versions.** -/
theorem TypeDeclaration.alike_mapAttributes (t : TypeDeclaration) :
    t.Alike attributeType (t.mapAttributes f) where
  fullName_eq := rfl
  base_eq := rfl
  deprecated?_eq := deprecated?_map hf t.attributes
  memberDeprecated?_eq name kind _ := by
    rw [memberDeprecated?, memberDeprecated?, member?_mapAttributes, Option.bind_map]
    exact congrArg (Option.bind _) (funext fun m ↦ deprecated?_map hf m.attributes)

end Likeness

/-- **A target is resolved without a look at what attributes carry.** -/
theorem Target.resolve_mapAttributes (f : Attribute → Attribute) (m : Module) (names : Names)
    (text : Option String) :
    resolve (m.mapAttributes f) names text =
      (resolve m names text).map ({ · with module := m.mapAttributes f }) :=
  Module.resolve_map (f := TypeDeclaration.mapAttributes f) (fun _ ↦ rfl)
    (fun t _ ↦ t.hasMember_mapAttributes deprecatedEntry) (fun _ _ ↦ rfl) text

end Platform

end DeprecationLint
