import DeprecationLint.Proofs.Repetition
import DeprecationLint.Proofs.TargetVersion

/-!
# Identifiers inside member accesses

A survey leaves out an identifier whose direct parent is a member access that it reports. Only the
places are compared, never the symbols: below `lid.open` there are two identifiers, and the access
is bound to `open` alone. So what is reported of an identifier that is left out has two halves.

* Its place is always reported, by the access around it.
* Its symbol is reported with it when the access is bound to the same one, and then in the same
  version, since a version depends on the symbol alone (`IsDeprecatedMember.version_unique`).
  Otherwise it is named exactly when it is used at some other place that the survey reports.

`covered_identifier_named_iff` has both halves, and `lid_goes_unnamed` is the access above: `lid`
is deprecated, and no finding names it.
-/

namespace DeprecationLint

open Platform Snapshot

/-! ### What a symbol and a place determine -/

/-- The version in which a member is deprecated depends on its symbol alone. -/
theorem IsDeprecatedMember.version_unique {target : Target} {table : SymbolTable} {f g : Finding}
    {s s' : Symbol} (hf : IsDeprecatedMember target table f s)
    (hg : IsDeprecatedMember target table g s') (hsymbol : f.symbol = g.symbol) :
    f.version = g.version := by
  obtain ⟨hs, -, kind, a, hkind, ha, hv, -⟩ := hf
  obtain ⟨hs', -, kind', a', hkind', ha', hv', -⟩ := hg
  rw [← hsymbol] at hs'
  obtain rfl : s = s' := IsLast.unique hs hs'
  obtain rfl : kind = kind' := Option.some.inj (hkind.symm.trans hkind')
  obtain rfl : a = a' := Option.some.inj <|
    (memberAttribute?_eq_some_iff.2 ⟨s, hs, ha⟩).symm.trans
      (memberAttribute?_eq_some_iff.2 ⟨s, hs, ha'⟩)
  exact Option.some.inj <|
    (Attribute.version?_eq_some_iff.2 hv).symm.trans (Attribute.version?_eq_some_iff.2 hv')

section Surveys

variable {target : Target} {table : SymbolTable} {tree : Tree} {f g : Finding}

/-- A member access is bound to one symbol. -/
theorem AccessesMember.symbol_unique (hf : AccessesMember target table tree f)
    (hg : AccessesMember target table tree g) (hnode : f.node = g.node) :
    f.symbol = g.symbol := by
  obtain ⟨n, -, hn, -, hsymbol, -⟩ := hf
  obtain ⟨n', -, hn', -, hsymbol', -⟩ := hg
  rw [← hnode] at hn'
  obtain rfl : n = n' := IsLast.unique hn hn'
  exact Option.some.inj (hsymbol.symm.trans hsymbol')

/-- An access and an identifier that name the same symbol are deprecated in the same version. -/
theorem AccessesMember.version_eq_of_namesMember (hg : AccessesMember target table tree g)
    (hf : NamesMember target table tree f) (hsymbol : g.symbol = f.symbol) :
    g.version = f.version := by
  obtain ⟨-, s, -, -, -, -, hdeprecated⟩ := hg
  obtain ⟨-, s', -, -, -, -, hdeprecated'⟩ := hf
  exact hdeprecated.version_unique hdeprecated' hsymbol

/-! ### What is reported -/

/-- A use that a survey reports: an overriding declaration, a declaration of a variable, a member
access, or an identifier whose direct parent is no such access or declaration of a variable. -/
def ReportedUse (target : Target) (table : SymbolTable) (tree : Tree) (f : Finding) : Prop :=
  OverridesMember target table tree f ∨ DeclaresVariable target table tree f ∨
    AccessesMember target table tree f ∨
      NamesMember target table tree f ∧ ¬ParentIsUse target table tree f.node

theorem parentIsUse_iff_covers {node : NodeId} :
    ParentIsUse target table tree node ↔
      (scanned target table tree .memberAccess).covers tree node = true ∨
        (scanned target table tree .variableDeclaration).covers tree node = true := by
  simp only [covers_iff, mem_scanned_memberAccess_iff, mem_scanned_variableDeclaration_iff,
    ParentIsUse, and_or_left, exists_or]

/-- **All findings of a survey, whatever their kind, are the uses that it is to report.** -/
theorem mem_findings_surveyed_iff :
    f ∈ (surveyed target table tree).findings ↔ ReportedUse target table tree f := by
  have hidentifier : f ∈ (surveyed target table tree).identifiers ↔
      NamesMember target table tree f ∧ ¬ParentIsUse target table tree f.node := by
    rw [mem_identifiers_surveyed_iff, mem_scanned_identifier_iff, parentIsUse_iff_covers, not_or,
      Bool.not_eq_true, Bool.not_eq_true]
  simp only [Survey.findings, UseKind.all, List.flatMap_cons, List.flatMap_nil, List.append_nil,
    List.mem_append, Survey.ofKind, hidentifier, ReportedUse]
  simp only [surveyed, mem_scanned_typeDeclaration_iff, mem_scanned_variableDeclaration_iff,
    mem_scanned_memberAccess_iff]

/-- At a reported access nothing but the access is reported. -/
theorem symbol_eq_of_mem_findings_surveyed (hg : AccessesMember target table tree g)
    (hf : f ∈ (surveyed target table tree).findings) (hnode : f.node = g.node) :
    f.symbol = g.symbol := by
  obtain ⟨use, -, hf⟩ := List.mem_flatMap.1 hf
  have hscan := (ofKind_surveyed_sublist target table tree use).subset hf
  have hg' := mem_scanned_memberAccess_iff.2 hg
  by_cases huse : use = .memberAccess
  · subst huse
    exact (mem_scanned_memberAccess_iff.1 hscan).symbol_unique hg hnode
  · exact absurd hnode (node_ne_of_mem_scanned huse hscan hg')

/-! ### Identifiers that are left out -/

/-- **An access speaks for the identifiers in it that are bound to its own symbol.** When an
identifier is left out because of a reported member access at its direct parent, that access is
among the findings. If the access is bound to the symbol of the identifier, then it names this
symbol in the same version. In general the symbol is named by some finding exactly when it is that
of the access, or when it is used at another place that is reported. -/
theorem covered_identifier_named_iff {s : Survey} (h : survey target table tree = .ok s) :
    ∃ raw, scan target table tree .identifier = .ok raw ∧
      ∀ f ∈ raw, s.memberAccesses.covers tree f.node = true →
        f ∉ s.identifiers ∧
        ∃ g ∈ s.memberAccesses, tree.parent? f.node = some g.node ∧
          (g.symbol = f.symbol → g.version = f.version) ∧
          ((∃ e ∈ s.findings, e.symbol = f.symbol) ↔
            g.symbol = f.symbol ∨
              ∃ e, e.symbol = f.symbol ∧ e.node ≠ g.node ∧
                ReportedUse target table tree e) := by
  obtain ⟨hfault, rfl⟩ := survey_eq_ok_iff.1 h
  have hscan : scanFault? target table tree .identifier = none :=
    List.findSome?_eq_none_iff.1 hfault .identifier (by decide)
  refine ⟨scanned target table tree .identifier, by rw [scan_eq, hscan]; rfl, ?_⟩
  intro f hf hcovers
  obtain ⟨parent, hparent, g, hg, rfl⟩ := Findings.exists_parent_of_covers hcovers
  have haccess : AccessesMember target table tree g := mem_scanned_memberAccess_iff.1 hg
  refine ⟨?_, g, hg, hparent, ?_, ?_⟩
  · intro hkept
    obtain ⟨-, hnot, -⟩ := mem_identifiers_surveyed_iff.1 hkept
    exact absurd hcovers (by simp [surveyed, hnot])
  · exact haccess.version_eq_of_namesMember (mem_scanned_identifier_iff.1 hf)
  · constructor
    · rintro ⟨e, he, hsymbol⟩
      -- at the place of the access there is only the access itself
      by_cases hnode : e.node = g.node
      · exact .inl ((symbol_eq_of_mem_findings_surveyed haccess he hnode).symm.trans hsymbol)
      · exact .inr ⟨e, hsymbol, hnode, mem_findings_surveyed_iff.1 he⟩
    · rintro (hsymbol | ⟨e, hsymbol, -, he⟩)
      · exact ⟨g, mem_findings_surveyed_iff.2 (.inr (.inr (.inl haccess))), hsymbol⟩
      · exact ⟨e, mem_findings_surveyed_iff.2 he, hsymbol⟩

end Surveys

/-! ### A lid that is opened

Boxes have a deprecated property `lid` besides their deprecated method `open`. -/

/-- The platform with boxes that have a lid. -/
def lidModule : Module where
  title := boxModule.title
  types := boxModule.types.map fun t ↦
    if t.fullName = "Kit.Box" then
      { t with members := t.members ++
          [{ name := "lid", kind := .property, attributes := [sinceVersion 5] }] }
    else t

/-- The latest version of that platform as a target. -/
def lidTarget : Target :=
  { boxTarget with module := lidModule }

/-- The symbols of a program with a crate, and the lid of boxes. -/
def lidTable : SymbolTable where
  symbols := boxTable.symbols ++ [
    { id := ⟨7⟩, name := "lid", displayName := none, kind := .property
      module := "Kit", containingType := some ⟨2⟩, baseType := none, declaredType := none
      isOverride := false }]

/-- A source file with `lid.open`. -/
def lidTree : Tree where
  path := "src/crate.x"
  text := "lid.open"
  nodes :=
    let node : Node := {
      id := ⟨0⟩, kind := .other, start := 0, length := 8, parent := none, declared := none
      symbol := none, candidates := [] }
    [node,
      { node with id := ⟨1⟩, kind := .memberAccess, parent := some ⟨0⟩, symbol := some ⟨3⟩ },
      { node with
        id := ⟨2⟩, kind := .identifier, length := 3, parent := some ⟨1⟩, symbol := some ⟨7⟩ },
      { node with
        id := ⟨3⟩, kind := .identifier, start := 4, length := 4, parent := some ⟨1⟩
        symbol := some ⟨3⟩ }]

/-- The findings in that file. -/
def lidSurvey : Survey where
  typeDeclarations := []
  variableDeclarations := []
  memberAccesses := [⟨⟨1⟩, ⟨3⟩, 6⟩]
  identifiers := []

theorem survey_lid : survey lidTarget lidTable lidTree = .ok lidSurvey := by
  decide +kernel

theorem scan_lid :
    scan lidTarget lidTable lidTree .identifier = .ok [⟨⟨2⟩, ⟨7⟩, 5⟩, ⟨⟨3⟩, ⟨3⟩, 6⟩] := by
  decide +kernel

theorem covered_identifier_named_iff_lid :
    survey lidTarget lidTable lidTree = .ok lidSurvey ∧
    (lidSurvey.memberAccesses.covers lidTree ⟨2⟩ = true ∧
      ¬∃ e : Finding, e.symbol = ⟨7⟩ ∧ e.node ≠ ⟨1⟩ ∧
        ReportedUse lidTarget lidTable lidTree e) ∧
    (lidSurvey.memberAccesses.covers lidTree ⟨3⟩ = true ∧
      ∃ e ∈ lidSurvey.findings, e.symbol = ⟨3⟩) := by
  obtain ⟨raw, hraw, hall⟩ := covered_identifier_named_iff survey_lid
  obtain rfl := Except.ok.inj (scan_lid.symm.trans hraw)
  have hlid : lidSurvey.memberAccesses.covers lidTree ⟨2⟩ = true := by decide
  have hopen : lidSurvey.memberAccesses.covers lidTree ⟨3⟩ = true := by decide
  refine ⟨survey_lid, ⟨hlid, ?_⟩, hopen, ?_⟩
  · obtain ⟨-, g, hg, -, -, hnamed⟩ := hall ⟨⟨2⟩, ⟨7⟩, 5⟩ (by decide) hlid
    obtain rfl : g = ⟨⟨1⟩, ⟨3⟩, 6⟩ := List.mem_singleton.1 hg
    intro hother
    exact absurd (hnamed.2 (.inr hother)) (by decide)
  · obtain ⟨-, g, hg, -, -, hnamed⟩ := hall ⟨⟨3⟩, ⟨3⟩, 6⟩ (by decide) hopen
    obtain rfl : g = ⟨⟨1⟩, ⟨3⟩, 6⟩ := List.mem_singleton.1 hg
    exact hnamed.2 (.inl rfl)

/-- The lid is a deprecated symbol that an identifier names. The identifier is left out because of
the access around it, and no finding names the lid. -/
theorem lid_goes_unnamed :
    Target.resolve lidModule boxNames none = .ok lidTarget ∧
    survey lidTarget lidTable lidTree = .ok lidSurvey ∧
    ∃ raw, scan lidTarget lidTable lidTree .identifier = .ok raw ∧
      ∃ f ∈ raw, lidSurvey.memberAccesses.covers lidTree f.node = true ∧
        ¬∃ e ∈ lidSurvey.findings, e.symbol = f.symbol := by
  have hresolve : Target.resolve lidModule boxNames none = .ok lidTarget := by rfl
  exact ⟨hresolve, survey_lid, _, scan_lid, ⟨⟨2⟩, ⟨7⟩, 5⟩, by decide, by decide, by decide⟩

end DeprecationLint
