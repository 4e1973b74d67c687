import DeprecationLint.Finding.Survey
import DeprecationLint.Proofs.Availability

/-!
# Scans and surveys in closed form

A scan goes through its candidates and may stop at any of them. What comes of it can be said
without the order of events: the fault of the first candidate that has one, and otherwise the
findings of all (`scan_eq`). A survey is the same over the four kinds of use (`survey_eq`).

For a single candidate both halves are characterised by the declared notions: when it is at fault
(`Candidate.fault?_eq_some_iff`) and when it is a finding (`Candidate.found?_eq_some_iff`).
-/

namespace DeprecationLint

open Platform Snapshot

/-! ### Results that a fault may prevent -/

section UnlessFault

variable {α β : Type}

/-- A result, unless there is a fault. -/
def unlessFault (fault? : Option Fault) (a : α) : Except Fault α :=
  match fault? with
  | none => .ok a
  | some f => .error f

@[simp] theorem unlessFault_none (a : α) : unlessFault none a = .ok a := rfl

@[simp] theorem unlessFault_some (f : Fault) (a : α) : unlessFault (some f) a = .error f := rfl

theorem unlessFault_eq_ok_iff {fault? : Option Fault} {a b : α} :
    unlessFault fault? a = .ok b ↔ fault? = none ∧ a = b := by
  cases fault? <;> simp

theorem unlessFault_eq_error_iff {fault? : Option Fault} {a : α} {f : Fault} :
    unlessFault fault? a = .error f ↔ fault? = some f := by
  cases fault? <;> simp

/-- Of two results in a row, the first fault prevents the second. -/
theorem unlessFault_bind (fault? fault?' : Option Fault) (a : α) (b : α → β) :
    (unlessFault fault? a >>= fun x ↦ unlessFault fault?' (b x)) =
      unlessFault (fault?.or fault?') (b a) := by
  cases fault? <;> rfl

/-- A traversal stops at the first fault. -/
theorem mapM_unlessFault (fault? : α → Option Fault) (g : α → β) (l : List α) :
    (l.mapM fun a ↦ unlessFault (fault? a) (g a)) =
      unlessFault (l.findSome? fault?) (l.map g) := by
  induction l with
  | nil => rfl
  | cons a l ih =>
    rw [List.mapM_cons, ih, List.findSome?_cons]
    cases fault? a with
    | some f => rfl
    | none => cases l.findSome? fault? <;> rfl

end UnlessFault

/-! ### One candidate -/

/-- The version that an attribute carries, if it carries one. -/
def Platform.Attribute.version? (a : Attribute) : Option UInt64 :=
  a.version.toOption

/-- The fault of an attribute, if it is malformed. -/
def Platform.Attribute.fault? (a : Attribute) : Option Fault :=
  match a.version with
  | .ok _ => none
  | .error f => some f

theorem Platform.Attribute.version?_eq_some_iff {a : Attribute} {v : UInt64} :
    a.version? = some v ↔ a.Carries v := by
  rw [← version_eq_ok_iff, version?]
  cases a.version <;> simp [Except.toOption]

theorem Platform.Attribute.fault?_eq_some_iff {a : Attribute} {f : Fault} :
    a.fault? = some f ↔ f = .missingVersion a.typeName ∧ ∀ v, ¬a.Carries v := by
  rw [← version_eq_error_iff, fault?]
  cases a.version <;> simp

theorem reportableVersion_eq (target : Target) (a? : Option Attribute) :
    reportableVersion target a? =
      unlessFault (a?.bind Attribute.fault?)
        ((a?.bind Attribute.version?).filter target.isReportable) := by
  cases a? with
  | none => rfl
  | some a =>
    rw [reportableVersion, Option.bind_some, Option.bind_some, Attribute.fault?,
      Attribute.version?]
    cases a.version with
    | error f => rfl
    | ok v => cases h : target.isReportable v <;> simp [h, Except.toOption, Option.filter]

namespace Candidate

variable {target : Target} {table : SymbolTable} {c : Candidate}

/-- The deprecation attribute of the symbol of a candidate. -/
def attribute? (target : Target) (table : SymbolTable) (c : Candidate) : Option Attribute :=
  match c.lookup with
  | .member =>
    ((table.get? c.symbol).bind fun s ↦ memberKind? s.kind).bind
      (memberAttribute? target table c.symbol)
  | .type => typeAttribute? target table c.symbol

/-- The attribute that decides about a candidate; none does if its owner is no descendant. -/
def decisive? (target : Target) (table : SymbolTable) (c : Candidate) : Option Attribute :=
  if isDescendant target table c.owner then c.attribute? target table else none

/-- The fault of a candidate, if it has one. -/
def fault? (target : Target) (table : SymbolTable) (c : Candidate) : Option Fault :=
  (c.decisive? target table).bind Attribute.fault?

/-- The finding that a candidate without a fault turns out to be, if any. -/
def found? (target : Target) (table : SymbolTable) (c : Candidate) : Option Finding :=
  (((c.decisive? target table).bind Attribute.version?).filter target.isReportable).map fun v ↦
    { node := c.node, symbol := c.symbol, version := v }

theorem deprecation_eq (target : Target) (table : SymbolTable) (c : Candidate) :
    c.deprecation target table = reportableVersion target (c.attribute? target table) := by
  rw [deprecation, attribute?]
  cases c.lookup with
  | type => rfl
  | member =>
    simp only [memberDeprecation]
    cases (table.get? c.symbol).bind fun s ↦ memberKind? s.kind <;> rfl

/-- **A candidate turns out to be a finding or none, unless it is at fault.** -/
theorem finding?_eq (target : Target) (table : SymbolTable) (c : Candidate) :
    c.finding? target table = unlessFault (c.fault? target table) (c.found? target table) := by
  rw [finding?, fault?, found?, decisive?]
  split
  · rw [deprecation_eq, reportableVersion_eq]
    exact (unlessFault_bind _ none _ _).trans (by rw [Option.or_none])
  · rfl

/-- The deprecation attribute of a candidate, as declared: of the member that its symbol is, by the
kind of the symbol, or of the type that its symbol is. -/
def Resolves (target : Target) (table : SymbolTable) (c : Candidate) (a : Attribute) : Prop :=
  match c.lookup with
  | .member => ∃ s kind, table.Binds c.symbol s ∧ memberKind? s.kind = some kind ∧
      MemberAttribute target table s kind a
  | .type => TypeAttribute target table c.symbol a

theorem attribute?_eq_some_iff {a : Attribute} :
    c.attribute? target table = some a ↔ c.Resolves target table a := by
  rw [attribute?, Resolves]
  cases c.lookup with
  | type => exact typeAttribute?_eq_some_iff
  | member =>
    simp only [Option.bind_eq_some_iff, memberAttribute?_eq_some_iff,
      ← SymbolTable.get?_eq_some_iff]
    constructor
    · rintro ⟨kind, ⟨s, hs, hkind⟩, s', hs', ha⟩
      rw [hs] at hs'
      exact ⟨s, kind, hs, hkind, Option.some.inj hs' ▸ ha⟩
    · rintro ⟨s, kind, hs, hkind, ha⟩
      exact ⟨kind, ⟨s, hs, hkind⟩, s, hs, ha⟩

theorem typeName_of_attribute? {a : Attribute} (h : c.attribute? target table = some a) :
    a.typeName = target.attributeType := by
  rw [attribute?] at h
  split at h
  · obtain ⟨kind, -, h⟩ := Option.bind_eq_some_iff.1 h
    obtain ⟨s, -, h⟩ := Option.bind_eq_some_iff.1 h
    obtain ⟨t, -, ht⟩ := List.exists_of_findSome?_eq_some h
    obtain ⟨m, -, hm⟩ := Option.bind_eq_some_iff.1 ht
    exact typeName_of_deprecationAmong? hm
  · obtain ⟨t, -, ht⟩ := List.exists_of_findSome?_eq_some h
    exact typeName_of_deprecationAmong? ht

theorem decisive?_eq_some_iff {a : Attribute} :
    c.decisive? target table = some a ↔
      (∃ owner, c.owner = some owner ∧ DescendsFromRoot target table owner) ∧
        c.Resolves target table a := by
  rw [decisive?, Option.ite_none_right_eq_some, isDescendant_iff, attribute?_eq_some_iff]

/-- A candidate is malformed when its owner descends from the root and the attribute that applies
to its symbol carries no version. -/
def Malformed (target : Target) (table : SymbolTable) (c : Candidate) : Prop :=
  (∃ owner, c.owner = some owner ∧ DescendsFromRoot target table owner) ∧
    ∃ a, c.Resolves target table a ∧ ∀ v, ¬a.Carries v

/-- **A candidate is at fault exactly when it is malformed**, and there is only one fault. -/
theorem fault?_eq_some_iff {f : Fault} :
    c.fault? target table = some f ↔
      f = .missingVersion target.attributeType ∧ c.Malformed target table := by
  rw [fault?, Option.bind_eq_some_iff, Malformed]
  constructor
  · rintro ⟨a, ha, hf⟩
    obtain ⟨hfault, hnone⟩ := Attribute.fault?_eq_some_iff.1 hf
    obtain ⟨howner, hres⟩ := decisive?_eq_some_iff.1 ha
    rw [typeName_of_attribute? (attribute?_eq_some_iff.2 hres)] at hfault
    exact ⟨hfault, howner, a, hres, hnone⟩
  · rintro ⟨rfl, howner, a, hres, hnone⟩
    refine ⟨a, decisive?_eq_some_iff.2 ⟨howner, hres⟩, Attribute.fault?_eq_some_iff.2 ⟨?_, hnone⟩⟩
    rw [typeName_of_attribute? (attribute?_eq_some_iff.2 hres)]

/-- **A candidate is a finding exactly when its owner descends from the root and the attribute that
applies to its symbol carries a version worth a report.** -/
theorem found?_eq_some_iff {f : Finding} :
    c.found? target table = some f ↔
      c.node = f.node ∧ c.symbol = f.symbol ∧
        (∃ owner, c.owner = some owner ∧ DescendsFromRoot target table owner) ∧
          ∃ a, c.Resolves target table a ∧ a.Carries f.version ∧
            0 < f.version ∧ f.version ≤ target.version := by
  simp only [found?, Option.map_eq_some_iff, Option.filter_eq_some_iff, Option.bind_eq_some_iff,
    decisive?_eq_some_iff, Attribute.version?_eq_some_iff, Target.isReportable_iff,
    ← UInt64.pos_iff_ne_zero]
  constructor
  · rintro ⟨v, ⟨⟨a, ⟨howner, hres⟩, hv⟩, hpos, hle⟩, rfl⟩
    exact ⟨rfl, rfl, howner, a, hres, hv, hpos, hle⟩
  · rintro ⟨hnode, hsymbol, howner, a, hres, hv, hpos, hle⟩
    refine ⟨f.version, ⟨⟨a, ⟨howner, hres⟩, hv⟩, hpos, hle⟩, ?_⟩
    rw [hnode, hsymbol]

end Candidate

/-! ### Scans and surveys -/

/-- The fault of a scan: that of the first candidate at fault. -/
def scanFault? (target : Target) (table : SymbolTable) (tree : Tree) (kind : UseKind) :
    Option Fault :=
  (Candidate.ofTree table tree kind).findSome? (Candidate.fault? target table)

/-- The findings of a scan without a fault. -/
def scanned (target : Target) (table : SymbolTable) (tree : Tree) (kind : UseKind) : Findings :=
  (Candidate.ofTree table tree kind).filterMap (Candidate.found? target table)

/-- The fault of a survey: that of the first scan at fault. -/
def surveyFault? (target : Target) (table : SymbolTable) (tree : Tree) : Option Fault :=
  UseKind.all.findSome? (scanFault? target table tree)

/-- The findings of a survey without a fault. -/
def surveyed (target : Target) (table : SymbolTable) (tree : Tree) : Survey where
  typeDeclarations := scanned target table tree .typeDeclaration
  variableDeclarations := scanned target table tree .variableDeclaration
  memberAccesses := scanned target table tree .memberAccess
  identifiers :=
    (scanned target table tree .variableDeclaration).dropCovered tree
      ((scanned target table tree .memberAccess).dropCovered tree
        (scanned target table tree .identifier))

variable {target : Target} {table : SymbolTable} {tree : Tree}

/-- **A scan finds what its candidates are, unless one of them is at fault.** -/
theorem scan_eq (target : Target) (table : SymbolTable) (tree : Tree) (kind : UseKind) :
    scan target table tree kind =
      unlessFault (scanFault? target table tree kind) (scanned target table tree kind) := by
  rw [scan, funext (Candidate.finding?_eq target table), mapM_unlessFault, scanFault?, scanned]
  refine (unlessFault_bind _ none _ _).trans ?_
  rw [Option.or_none, List.filterMap_map, Function.id_comp]

/-- **A survey finds what its scans find, unless one of them is at fault.** -/
theorem survey_eq (target : Target) (table : SymbolTable) (tree : Tree) :
    survey target table tree =
      unlessFault (surveyFault? target table tree) (surveyed target table tree) := by
  simp only [survey, scan_eq, surveyFault?, surveyed, UseKind.all, List.findSome?_cons,
    List.findSome?_nil]
  cases scanFault? target table tree .typeDeclaration with
  | some f => rfl
  | none =>
    cases scanFault? target table tree .variableDeclaration with
    | some f => rfl
    | none =>
      cases scanFault? target table tree .memberAccess with
      | some f => rfl
      | none => cases scanFault? target table tree .identifier <;> rfl

theorem survey_eq_ok_iff {s : Survey} :
    survey target table tree = .ok s ↔
      surveyFault? target table tree = none ∧ surveyed target table tree = s := by
  rw [survey_eq, unlessFault_eq_ok_iff]

theorem survey_eq_error_iff {f : Fault} :
    survey target table tree = .error f ↔ surveyFault? target table tree = some f := by
  rw [survey_eq, unlessFault_eq_error_iff]

theorem exists_survey_eq_ok_iff :
    (∃ s, survey target table tree = .ok s) ↔ surveyFault? target table tree = none := by
  simp only [survey_eq_ok_iff, exists_and_left, exists_eq', and_true]

/-- A survey is at fault exactly when one of its candidates is. -/
theorem surveyFault?_eq_some_iff {f : Fault} :
    surveyFault? target table tree = some f ↔
      f = .missingVersion target.attributeType ∧
        ∃ kind, ∃ c ∈ Candidate.ofTree table tree kind, c.Malformed target table := by
  have hfault : ∀ {kind g}, scanFault? target table tree kind = some g →
      ∃ c ∈ Candidate.ofTree table tree kind,
        g = .missingVersion target.attributeType ∧ c.Malformed target table := by
    intro kind g h
    obtain ⟨c, hc, hg⟩ := List.exists_of_findSome?_eq_some h
    exact ⟨c, hc, Candidate.fault?_eq_some_iff.1 hg⟩
  constructor
  · intro h
    obtain ⟨kind, -, hkind⟩ := List.exists_of_findSome?_eq_some h
    obtain ⟨c, hc, hf, hm⟩ := hfault hkind
    exact ⟨hf, kind, c, hc, hm⟩
  · rintro ⟨rfl, kind, c, hc, hm⟩
    -- some fault comes up, and all faults are the same
    have hscan : (scanFault? target table tree kind).isSome :=
      List.findSome?_isSome_iff.2 ⟨c, hc, by rw [Candidate.fault?_eq_some_iff.2 ⟨rfl, hm⟩]; rfl⟩
    have hall : (surveyFault? target table tree).isSome :=
      List.findSome?_isSome_iff.2 ⟨kind, by cases kind <;> simp [UseKind.all], hscan⟩
    obtain ⟨g, hg⟩ := Option.isSome_iff_exists.1 hall
    obtain ⟨kind', -, hkind'⟩ := List.exists_of_findSome?_eq_some hg
    obtain ⟨-, -, rfl, -⟩ := hfault hkind'
    exact hg

end DeprecationLint
