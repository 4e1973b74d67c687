import DeprecationLint.Proofs.Likeness
import DeprecationLint.Proofs.TargetVersion

/-!
# What of a module matters

A module says much that an analysis never looks at. To erase a module is to take all of that out:
attributes of other types than the one that carries deprecations, what else such an attribute
carries than its version, members that no symbol is looked up as, and enumerants of other types
than the platform's versions. Two places are spared, because a target is resolved there: the type
of the attributes keeps all of its members, and the platform type its enumerants.

What is taken out never stood before what is looked for (`deprecated?_erased`,
`TypeDeclaration.member?_erased`), and an erased attribute carries the same version. So **a type is
like its erased form** (`TypeDeclaration.alike_erased`), and modules that are alike lead to the same
runs.
-/

namespace DeprecationLint

open Platform Snapshot

/-! ### Erasing -/

namespace Platform

/-- An attribute that carries its version and nothing else. -/
def Attribute.erased (a : Attribute) : Attribute :=
  { a with entries := a.entries.filter (·.1 == deprecatedEntry) }

/-- The attributes of a type among others, erased. -/
def erasedAttributes (attributeType : String) (attributes : List Attribute) : List Attribute :=
  (attributes.filter (·.typeName == attributeType)).map Attribute.erased

/-- A member with erased attributes. -/
def Member.erased (attributeType : String) (m : Member) : Member :=
  { m with attributes := erasedAttributes attributeType m.attributes }

/-- A type with erased attributes and members, and without enumerants unless it is the platform
type. The type of the attributes keeps members of all kinds. -/
def TypeDeclaration.erased (attributeType platformType : String) (t : TypeDeclaration) :
    TypeDeclaration :=
  { t with
    attributes := erasedAttributes attributeType t.attributes
    members := (t.members.filter fun m ↦ m.kind.isLookedUp || t.fullName == attributeType).map
      (Member.erased attributeType)
    enumerants := if t.fullName = platformType then t.enumerants else [] }

/-- A module with erased types. -/
def Module.erased (attributeType platformType : String) (m : Module) : Module :=
  { m with types := m.types.map (TypeDeclaration.erased attributeType platformType) }

/-! ### Lookups -/

/-- A search does not miss what it never stops at. -/
theorem find?_filter_of_imp {α : Type} {p q : α → Bool} {l : List α}
    (h : ∀ a, q a = true → p a = true) : (l.filter p).find? q = l.find? q := by
  rw [List.find?_filter]
  congr 1
  funext a
  cases hq : q a with
  | false => simp
  | true => simp [h a hq]

theorem Attribute.carried?_erased (a : Attribute) :
    a.erased.carried? deprecatedEntry = a.carried? deprecatedEntry := by
  rw [carried?, carried?, erased, lastNamed?, lastNamed?, ← List.filter_reverse,
    find?_filter_of_imp fun _ h ↦ h]

/-- **An erased attribute carries the same version**, and is malformed in the same way. -/
theorem Attribute.version_erased (a : Attribute) : a.erased.version = a.version := by
  rw [version, version, carried?_erased]
  rfl

section Lookup

variable {attributeType platformType : String}

/-- **What is taken out of attributes was never found there.** -/
theorem deprecated?_erased (attributes : List Attribute) :
    deprecated? attributeType (erasedAttributes attributeType attributes) =
      deprecated? attributeType attributes := by
  have hfind : (erasedAttributes attributeType attributes).find? (·.typeName == attributeType) =
      (attributes.find? (·.typeName == attributeType)).map Attribute.erased := by
    rw [erasedAttributes, List.find?_map]
    exact congrArg (Option.map Attribute.erased) (find?_filter_of_imp fun _ h ↦ h)
  rw [deprecated?, deprecated?, hfind, Option.map_map]
  exact congrArg (Option.map · _) (funext Attribute.version_erased)

namespace TypeDeclaration

/-- A member of a kind that is looked up is found under its name, whatever was taken out. -/
theorem member?_erased {kind : MemberKind} (hkind : kind.isLookedUp = true) (t : TypeDeclaration)
    (name : String) :
    (t.erased attributeType platformType).member? name kind =
      (t.member? name kind).map (Member.erased attributeType) := by
  rw [member?, member?, erased, List.find?_map, find?_filter_of_imp]
  · rfl
  · intro m hm
    have hmkind : m.kind = kind := eq_of_beq ((Bool.and_eq_true _ _).mp hm).2
    rw [hmkind, hkind, Bool.true_or]

/-- **A type is like its erased form.** -/
theorem alike_erased (t : TypeDeclaration) :
    t.Alike attributeType (t.erased attributeType platformType) where
  fullName_eq := rfl
  base_eq := rfl
  deprecated?_eq := deprecated?_erased t.attributes
  memberDeprecated?_eq name kind hkind := by
    rw [memberDeprecated?, memberDeprecated?, member?_erased hkind, Option.bind_map]
    exact congrArg (Option.bind _) (funext fun m ↦ deprecated?_erased m.attributes)

/-- The type of the attributes keeps the names of its members. -/
theorem hasMember_erased {t : TypeDeclaration} (ht : t.fullName = attributeType) (name : String) :
    (t.erased attributeType platformType).hasMember name = t.hasMember name := by
  have hall : (t.members.filter fun m ↦ m.kind.isLookedUp || t.fullName == attributeType) =
      t.members := by
    simp [ht]
  rw [hasMember, hasMember, erased, hall, List.any_map]
  rfl

/-- The platform type keeps its enumerants. -/
theorem enumerants_erased {t : TypeDeclaration} (ht : t.fullName = platformType) :
    (t.erased attributeType platformType).enumerants = t.enumerants :=
  if_pos ht

end TypeDeclaration

end Lookup

/-- **A target is resolved in an erased module as it is in the module itself.** -/
theorem Target.resolve_erased {m : Module} {names : Names}
    {attributeType platform : TypeDeclaration}
    (hattribute : m.typeIgnoringCase? names.attributeType = some attributeType)
    (hplatform : m.typeIgnoringCase? names.platformType = some platform)
    (text : Option String) :
    resolve (m.erased attributeType.fullName platform.fullName) names text =
      (resolve m names text).map
        ({ · with module := m.erased attributeType.fullName platform.fullName }) := by
  let f := TypeDeclaration.erased attributeType.fullName platform.fullName
  refine Module.resolve_map (f := f) (fun _ ↦ rfl) (fun t ht ↦ ?_) (fun t ht ↦ ?_) text
  · obtain rfl := Option.some.inj (hattribute.symm.trans ht)
    exact TypeDeclaration.hasMember_erased rfl deprecatedEntry
  · obtain rfl := Option.some.inj (hplatform.symm.trans ht)
    exact TypeDeclaration.enumerants_erased rfl

end Platform

/-! ### Runs -/

/-- **Only the deprecations in a module matter.** If a module declares the type of the attributes
and the platform type, then all else can be erased from it: the target has the same fault, or is
the same but for the module, and a run for it writes the same to every sink and comes to the same
end. -/
theorem run_of_erased {m : Module} {names : Names} {attributeType platform : TypeDeclaration}
    (hattribute : m.typeIgnoringCase? names.attributeType = some attributeType)
    (hplatform : m.typeIgnoringCase? names.platformType = some platform)
    (version : Option String) :
    let m' := m.erased attributeType.fullName platform.fullName
    (∃ f, Target.resolve m names version = .error f ∧ Target.resolve m' names version = .error f) ∨
    ∃ t t', Target.resolve m names version = .ok t ∧ Target.resolve m' names version = .ok t' ∧
      t' = { t with module := m' } ∧
      ∀ (excluded : String → Bool) (solution : Solution) (sink : Sink),
        Inspection.run { target := t', excluded } solution sink =
          Inspection.run { target := t, excluded } solution sink := by
  refine run_of_alike (Target.resolve_erased hattribute hplatform version) fun t ht ↦ ?_
  -- the target keeps the name of the attributes' type, by which its module was erased
  obtain ⟨_, type, _, _, _, _, -, htype, -, -, -, -, -, rfl⟩ := Target.resolve_eq_ok_iff.1 ht
  obtain rfl := Option.some.inj (hattribute.symm.trans htype)
  exact m.alike_map TypeDeclaration.alike_erased

/-- The platform with a box, and much besides: attributes of another type, also one that claims to
deprecate, an event and a constructor with the name of the method, and enumerants of the box. -/
def crowdedModule : Module where
  title := some "Kit"
  types := boxModule.types.map fun t ↦ { t with
    attributes := { sinceVersion 1 with typeName := "Kit.Note" } :: t.attributes
    members := { name := "open", kind := .event, attributes := [sinceVersion 2] } ::
      { name := "open", kind := .constructor, attributes := [] } :: t.members
    enumerants := if t.fullName = "Kit.Box" then [⟨"v7", 7⟩] else t.enumerants }

/-- The latest version of that platform as a target. -/
def crowdedTarget : Target :=
  { boxTarget with module := crowdedModule }

theorem run_of_erased_crowded :
    let m' := crowdedModule.erased "Kit.Since" "Kit.Version"
    (m'.types.map (·.attributes.length) = [0, 0, 0, 1] ∧
      m'.types.map (·.members.length) = [0, 3, 0, 1] ∧
      m'.types.map (·.enumerants.length) = [0, 0, 2, 0]) ∧
    Target.resolve crowdedModule boxNames none = .ok crowdedTarget ∧
    Target.resolve m' boxNames none = .ok { crowdedTarget with module := m' } ∧
    ∀ (solution : Solution) (sink : Sink),
      Inspection.run { target := { crowdedTarget with module := m' } } solution sink =
        Inspection.run { target := crowdedTarget } solution sink := by
  intro m'
  have hresolve : Target.resolve crowdedModule boxNames none = .ok crowdedTarget := by rfl
  have hattribute : crowdedModule.typeIgnoringCase? boxNames.attributeType =
      some (crowdedModule.types.get ⟨1, by decide⟩) := by rfl
  have hplatform : crowdedModule.typeIgnoringCase? boxNames.platformType =
      some (crowdedModule.types.get ⟨2, by decide⟩) := by rfl
  rcases run_of_erased hattribute hplatform none with ⟨f, hf, -⟩ | ⟨t, t', ht, ht', rfl, hrun⟩
  · rw [hresolve] at hf
    exact absurd hf (by simp)
  · rw [hresolve] at ht
    obtain rfl := Except.ok.inj ht
    exact ⟨by decide, hresolve, ht', hrun fun _ ↦ false⟩

end DeprecationLint
