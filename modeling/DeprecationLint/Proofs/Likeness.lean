import DeprecationLint.Proofs.Lineage
import DeprecationLint.Proofs.Run
import DeprecationLint.Proofs.Target

/-!
# Modules that are alike

An analysis asks a module little. It looks up types by their full names and goes on to their bases,
and of the attributes on a type, or on a member that it looks up there, it wants the version that
the first one of the right type carries (`deprecated?`). Two modules are alike if they answer these
questions in the same way: the lookups find declarations that are alike (`TypeDeclaration.Alike`),
and these lead on to declarations that are alike.

From there on it does not matter what made the modules differ. Lineages are alike
(`Module.Alike.bases`), so the versions that are found are the same, so is a survey
(`survey_of_alike`), and a run has nothing else from a module. `run_of_alike` is that **a target
that is resolved alike in both modules leads to the same runs**.

A module often has changed forms of another one's types in their places. Then it is enough that each
type is like its changed form (`Module.alike_map`), and that the changes spare what a target is
resolved from (`Module.resolve_map`).
-/

namespace DeprecationLint

open Platform Snapshot

/-! ### Searches -/

section Search

variable {α β γ : Type} {R : α → β → Prop}

/-- Searches through elements that are alike find elements that are alike. -/
theorem rel_find? {p : α → Bool} {q : β → Bool} (h : ∀ a b, R a b → q b = p a) {l : List α}
    {l' : List β} (hl : List.Forall₂ R l l') : Option.Rel R (l.find? p) (l'.find? q) := by
  induction hl with
  | nil => exact Option.Rel.none
  | @cons a b l l' hab _ ih =>
    rw [List.find?_cons, List.find?_cons, h a b hab]
    cases p a with
    | true => exact Option.Rel.some hab
    | false => exact ih

/-- Elements that are alike give the same first answer. -/
theorem findSome?_eq_of_forall₂ {f : α → Option γ} {g : β → Option γ}
    (h : ∀ a b, R a b → g b = f a) {l : List α} {l' : List β} (hl : List.Forall₂ R l l') :
    l'.findSome? g = l.findSome? f := by
  induction hl with
  | nil => rfl
  | @cons a b l l' hab _ ih => rw [List.findSome?_cons, List.findSome?_cons, h a b hab, ih]

end Search

namespace Platform

/-! ### Declarations that are alike -/

/-- Is a declared member of this kind ever looked up? -/
def MemberKind.isLookedUp : MemberKind → Bool
  | .method | .property => true
  | .field | .constructor | .event => false

/-- Symbols are looked up as methods and properties only. -/
theorem isLookedUp_of_memberKind? {k : SymbolKind} {kind : MemberKind}
    (h : memberKind? k = some kind) : kind.isLookedUp = true := by
  cases k <;> simp [memberKind?] at h <;> subst h <;> rfl

/-- The version that the first attribute of a type carries, or why it carries none. -/
def deprecated? (attributeType : String) (attributes : List Attribute) :
    Option (Except Fault UInt64) :=
  (attributes.find? (·.typeName == attributeType)).map Attribute.version

/-- The version that the first attribute of a type carries on a member, or why it carries none. -/
def TypeDeclaration.memberDeprecated? (attributeType : String) (t : TypeDeclaration) (name : String)
    (kind : MemberKind) : Option (Except Fault UInt64) :=
  (t.member? name kind).bind fun m ↦ deprecated? attributeType m.attributes

/-- Two declarations answer in the same way what an analysis asks of them. -/
structure TypeDeclaration.Alike (attributeType : String) (t t' : TypeDeclaration) : Prop where
  /-- They have the same name. -/
  fullName_eq : t'.fullName = t.fullName
  /-- They have the same base. -/
  base_eq : t'.base = t.base
  /-- They are deprecated in the same version. -/
  deprecated?_eq : deprecated? attributeType t'.attributes = deprecated? attributeType t.attributes
  /-- Their members that are looked up are deprecated in the same version. -/
  memberDeprecated?_eq : ∀ (name : String) (kind : MemberKind), kind.isLookedUp = true →
    t'.memberDeprecated? attributeType name kind = t.memberDeprecated? attributeType name kind

/-- Two modules find declarations that are alike. -/
structure Module.Alike (attributeType : String) (m m' : Module) : Prop where
  /-- They have as many types. -/
  length_eq : m'.types.length = m.types.length
  /-- They find declarations that are alike under a full name. -/
  rel_type? : ∀ name,
    Option.Rel (TypeDeclaration.Alike attributeType) (m.type? name) (m'.type? name)

/-! ### Types in the place of others -/

namespace Module

variable {f : TypeDeclaration → TypeDeclaration} {attributeType : String}

theorem type?_map (hf : ∀ t, (f t).fullName = t.fullName) (m : Module) (name : String) :
    type? { m with types := m.types.map f } name = (m.type? name).map f := by
  have hkey : ((·.fullName == name) ∘ f) = (·.fullName == name) :=
    funext fun t ↦ congrArg (· == name) (hf t)
  rw [type?, type?, ← List.map_reverse, List.find?_map, hkey]

theorem typeIgnoringCase?_map (hf : ∀ t, (f t).fullName = t.fullName) (m : Module)
    (name : String) :
    typeIgnoringCase? { m with types := m.types.map f } name =
      (m.typeIgnoringCase? name).map f := by
  have hkey : ((fun t ↦ equalIgnoringCase t.fullName name) ∘ f) =
      fun t ↦ equalIgnoringCase t.fullName name :=
    funext fun t ↦ congrArg (equalIgnoringCase · name) (hf t)
  rw [typeIgnoringCase?, typeIgnoringCase?, type?_map hf, Option.map_or, List.find?_map, hkey]

/-- **A module is like the one whose types it has changed forms of**, if each of them is like the
type itself. -/
theorem alike_map (hf : ∀ t : TypeDeclaration, t.Alike attributeType (f t)) (m : Module) :
    m.Alike attributeType { m with types := m.types.map f } where
  length_eq := List.length_map _
  rel_type? name := by
    rw [type?_map fun t ↦ (hf t).fullName_eq]
    cases m.type? name with
    | none => exact Option.Rel.none
    | some t => exact Option.Rel.some (hf t)

/-- **A target is resolved in changed types as in the types themselves**, if the type of the
attributes keeps the member for versions, and the platform type its enumerants. -/
theorem resolve_map {m : Module} {names : Names} (hf : ∀ t, (f t).fullName = t.fullName)
    (hattribute : ∀ t, m.typeIgnoringCase? names.attributeType = some t →
      (f t).hasMember deprecatedEntry = t.hasMember deprecatedEntry)
    (hplatform : ∀ t, m.typeIgnoringCase? names.platformType = some t →
      (f t).enumerants = t.enumerants)
    (text : Option String) :
    Target.resolve { m with types := m.types.map f } names text =
      (Target.resolve m names text).map
        ({ · with module := { m with types := m.types.map f } }) := by
  have htitle : Module.title { m with types := m.types.map f } = m.title := rfl
  refine Target.resolve_congr htitle ?_ ?_ ?_ text
  · rw [typeIgnoringCase?_map hf, Option.map_map]
    exact congrArg (Option.map · _) (funext hf)
  · rw [typeIgnoringCase?_map hf, Option.map_map]
    refine Option.map_congr fun t ht ↦ ?_
    rw [Function.comp_apply, hf, hattribute t ht]
  · rw [typeIgnoringCase?_map hf, Option.map_map]
    refine Option.map_congr fun t ht ↦ ?_
    rw [Function.comp_apply, hf, hplatform t ht]

/-! ### Lineages -/

namespace Alike

variable {m m' : Module} (h : m.Alike attributeType m')

include h

theorem rel_base? (t t' : TypeDeclaration) (ht : t.Alike attributeType t') :
    Option.Rel (TypeDeclaration.Alike attributeType) (m.base? t) (m'.base? t') := by
  rw [base?, base?, ht.base_eq]
  cases t.base with
  | none => exact Option.Rel.none
  | some name => exact h.rel_type? name

/-- **Declarations that are alike have bases that are alike.** -/
theorem bases {t t' : TypeDeclaration} (ht : t.Alike attributeType t') :
    List.Forall₂ (TypeDeclaration.Alike attributeType) (m.bases t) (m'.bases t') := by
  rw [Module.bases, Module.bases, h.length_eq]
  exact forall₂_lineage (fun _ _ ht ↦ ht.fullName_eq) h.rel_base? _ (Option.Rel.some ht)

end Alike

end Module

end Platform

/-! ### Surveys -/

section Survey

variable {target : Target} {m' : Module}

/-- Of an attribute, only the version is asked for. -/
theorem reportableVersion_of_alike {a? b? : Option Attribute}
    (h : b?.map Attribute.version = a?.map Attribute.version) :
    reportableVersion { target with module := m' } b? = reportableVersion target a? := by
  cases a? with
  | none =>
    rw [Option.map_eq_none_iff.1 h]
    rfl
  | some a =>
    obtain ⟨b, rfl, hb⟩ := Option.map_eq_some_iff.1 h
    rw [reportableVersion, reportableVersion, hb]
    rfl

variable (h : target.module.Alike target.attributeType m')

include h

theorem forall₂_platformBases (table : SymbolTable) (start : Option SymbolId) :
    List.Forall₂ (TypeDeclaration.Alike target.attributeType) (platformBases target table start)
      (platformBases { target with module := m' } table start) := by
  have hnearest : nearestPlatformType? { target with module := m' } table start =
      nearestPlatformType? target table start := rfl
  rw [platformBases, platformBases, hnearest]
  cases nearestPlatformType? target table start with
  | none => exact List.Forall₂.nil
  | some s =>
    have htype := h.rel_type? s.shownAs
    simp only [Option.bind_some]
    generalize target.module.type? s.shownAs = found at htype ⊢
    generalize m'.type? s.shownAs = found' at htype ⊢
    cases htype with
    | none => exact List.Forall₂.nil
    | some ht => exact h.bases ht

theorem version_typeAttribute?_of_alike (table : SymbolTable) (type : SymbolId) :
    (typeAttribute? { target with module := m' } table type).map Attribute.version =
      (typeAttribute? target table type).map Attribute.version := by
  rw [typeAttribute?, typeAttribute?, List.map_findSome?, List.map_findSome?]
  exact findSome?_eq_of_forall₂ (fun _ _ ht ↦ ht.deprecated?_eq)
    (forall₂_platformBases h table (some type))

theorem version_memberAttribute?_of_alike (table : SymbolTable) (member : SymbolId)
    {kind : MemberKind} (hkind : kind.isLookedUp = true) :
    (memberAttribute? { target with module := m' } table member kind).map Attribute.version =
      (memberAttribute? target table member kind).map Attribute.version := by
  rw [memberAttribute?, memberAttribute?]
  cases table.get? member with
  | none => rfl
  | some s =>
    simp only [Option.bind_eq_bind, Option.bind_some]
    rw [List.map_findSome?, List.map_findSome?]
    refine findSome?_eq_of_forall₂ (fun t t' ht ↦ ?_)
      (forall₂_platformBases h table s.containingType)
    have hmember := ht.memberDeprecated?_eq s.name kind hkind
    rw [TypeDeclaration.memberDeprecated?, TypeDeclaration.memberDeprecated?] at hmember
    rw [Function.comp_apply, Function.comp_apply, Option.map_bind, Option.map_bind]
    exact hmember

theorem Candidate.version_attribute?_of_alike (table : SymbolTable) (c : Candidate) :
    (c.attribute? { target with module := m' } table).map Attribute.version =
      (c.attribute? target table).map Attribute.version := by
  rw [attribute?, attribute?]
  cases c.lookup with
  | type => exact version_typeAttribute?_of_alike h table c.symbol
  | member =>
    cases hkind : (table.get? c.symbol).bind fun s ↦ memberKind? s.kind with
    | none => rfl
    | some kind =>
      obtain ⟨s, -, hs⟩ := Option.bind_eq_some_iff.1 hkind
      exact version_memberAttribute?_of_alike h table c.symbol (isLookedUp_of_memberKind? hs)

/-- A candidate turns out to be the same finding, or has the same fault. -/
theorem Candidate.finding?_of_alike (table : SymbolTable) (c : Candidate) :
    c.finding? { target with module := m' } table = c.finding? target table := by
  have hdescendant : isDescendant { target with module := m' } = isDescendant target := rfl
  rw [finding?, finding?, hdescendant, deprecation_eq, deprecation_eq,
    reportableVersion_of_alike (c.version_attribute?_of_alike h table)]

/-- **A survey finds the same with a module that is like the target's.** -/
theorem survey_of_alike : survey { target with module := m' } = survey target := by
  have hscan : scan { target with module := m' } = scan target := by
    funext table tree kind
    rw [scan, scan, funext (Candidate.finding?_of_alike h table)]
  funext table tree
  rw [survey, survey, hscan]

end Survey

/-! ### Runs -/

/-- **Modules that are alike lead to the same runs.** Let a target be resolved in two modules alike,
but for the module itself, and the modules be alike for its type of attributes. Then it has the same
fault in both, or a run for it writes the same to every sink and comes to the same end. -/
theorem run_of_alike {m m' : Module} {names : Names} {version : Option String}
    (hresolve : Target.resolve m' names version =
      (Target.resolve m names version).map ({ · with module := m' }))
    (halike : ∀ t, Target.resolve m names version = .ok t → m.Alike t.attributeType m') :
    (∃ f, Target.resolve m names version = .error f ∧ Target.resolve m' names version = .error f) ∨
    ∃ t t', Target.resolve m names version = .ok t ∧ Target.resolve m' names version = .ok t' ∧
      t' = { t with module := m' } ∧
      ∀ (excluded : String → Bool) (solution : Solution) (sink : Sink),
        Inspection.run { target := t', excluded } solution sink =
          Inspection.run { target := t, excluded } solution sink := by
  cases ht : Target.resolve m names version with
  | error f =>
    rw [ht] at hresolve
    exact Or.inl ⟨f, rfl, hresolve⟩
  | ok t =>
    rw [ht] at hresolve
    refine Or.inr ⟨t, { t with module := m' }, rfl, hresolve, rfl, fun excluded solution sink ↦ ?_⟩
    have hsurvey : survey { t with module := m' } = survey t :=
      survey_of_alike (Target.module_of_resolve ht ▸ halike t ht)
    have hrun : Inspection.run { target := { t with module := m' }, excluded } =
        Inspection.run { target := t, excluded } :=
      Inspection.run_congr rfl rfl hsurvey
    rw [hrun]

end DeprecationLint
