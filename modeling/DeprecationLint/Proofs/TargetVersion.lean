import DeprecationLint.Proofs.Target
import DeprecationLint.Proofs.Uses

/-!
# Surveys for two versions

The version of a target is looked at last: it neither decides what is at fault nor which attribute
applies. So for two targets that differ in nothing else, the scans for the lower version are those
for the higher one cut off at the lower (`scan_eq_map_upTo`), and the surveys fail together.

Identifiers are where it is **not** simply a cut. A higher version brings more member accesses and
variable declarations, and these cover identifiers that the lower version reports. What is true is
`surveyed_narrowedTo`: an identifier that goes missing has its parent reported instead, and none
comes up that was not there.
-/

namespace DeprecationLint

open Platform Snapshot

/-- The findings up to a version. -/
def Findings.upTo (fs : Findings) (v : UInt64) : Findings :=
  fs.filter (·.version ≤ v)

theorem Findings.mem_upTo {fs : Findings} {v : UInt64} {f : Finding} :
    f ∈ fs.upTo v ↔ f ∈ fs ∧ f.version ≤ v := by
  simp [upTo]

/-- Fewer findings cover less. -/
theorem Findings.covers_of_covers_upTo {fs : Findings} {v : UInt64} {tree : Tree} {node : NodeId}
    (h : (fs.upTo v).covers tree node = true) : fs.covers tree node = true := by
  obtain ⟨n, g, hn, hng, hg⟩ := covers_iff.1 h
  exact covers_iff.2 ⟨n, g, hn, hng, (mem_upTo.1 hg).1⟩

/-- What covers a node lies at its direct parent. -/
theorem Findings.exists_parent_of_covers {base : Findings} {tree : Tree} {node : NodeId}
    (h : base.covers tree node = true) :
    ∃ parent, tree.parent? node = some parent ∧ ∃ g ∈ base, g.node = parent := by
  obtain ⟨n, g, hn, hng, hg⟩ := covers_iff.1 h
  refine ⟨g.node, ?_, g, hg, rfl⟩
  rw [Tree.parent?, Tree.node?_eq_some_iff.2 hn]
  exact hng

/-- A survey is another one narrowed to the findings up to a version. -/
structure Survey.NarrowedTo (v : UInt64) (tree : Tree) (s u : Survey) : Prop where
  /-- Overriding declarations are cut off at the version. -/
  typeDeclarations : s.typeDeclarations = u.typeDeclarations.upTo v
  /-- Variable declarations are cut off at the version. -/
  variableDeclarations : s.variableDeclarations = u.variableDeclarations.upTo v
  /-- Member accesses are cut off at the version. -/
  memberAccesses : s.memberAccesses = u.memberAccesses.upTo v
  /-- An identifier is among the others, or its direct parent is. -/
  kept_or_parent : ∀ f ∈ s.identifiers, f ∈ u.identifiers ∨
    ∃ parent, tree.parent? f.node = some parent ∧
      ∃ g, (g ∈ u.memberAccesses ∨ g ∈ u.variableDeclarations) ∧ g.node = parent
  /-- An identifier among the others is kept up to the version. -/
  kept : ∀ f ∈ u.identifiers, f.version ≤ v → f ∈ s.identifiers

/-- Narrowing a survey without findings leaves none. -/
theorem Survey.NarrowedTo.findings_eq_nil {v : UInt64} {tree : Tree} {s u : Survey}
    (h : s.NarrowedTo v tree u) (hnil : u.findings = []) : s.findings = [] := by
  simp only [findings, UseKind.all, List.flatMap_cons, List.flatMap_nil, List.append_eq_nil_iff,
    ofKind, and_true] at hnil ⊢
  obtain ⟨htype, hvariable, haccess, hidentifier⟩ := hnil
  refine ⟨?_, ?_, ?_, List.eq_nil_iff_forall_not_mem.2 fun f hf ↦ ?_⟩
  · rw [h.typeDeclarations, htype]
    rfl
  · rw [h.variableDeclarations, hvariable]
    rfl
  · rw [h.memberAccesses, haccess]
    rfl
  · rcases h.kept_or_parent f hf with hkept | ⟨parent, -, g, hg | hg, -⟩
    · exact List.not_mem_nil (hidentifier ▸ hkept)
    · exact List.not_mem_nil (haccess ▸ hg)
    · exact List.not_mem_nil (hvariable ▸ hg)

section Versions

variable {t u : Target} {table : SymbolTable} {tree : Tree}

/-- The attribute that decides about a candidate does not depend on the version. -/
theorem Candidate.decisive?_of_agree (h : t.AgreeButVersion u) (c : Candidate) :
    c.decisive? t table = c.decisive? u table := by
  rw [h]
  rfl

theorem Candidate.fault?_of_agree (h : t.AgreeButVersion u) (c : Candidate) :
    c.fault? t table = c.fault? u table := by
  rw [fault?, fault?, decisive?_of_agree h]

/-- What is reportable for the lower version is what is reportable for the higher one, cut off. -/
theorem isReportable_iff_of_le (hle : t.version ≤ u.version) {v : UInt64} :
    t.isReportable v = true ↔ u.isReportable v = true ∧ v ≤ t.version := by
  rw [Target.isReportable_iff, Target.isReportable_iff]
  constructor
  · rintro ⟨hv, hvt⟩
    exact ⟨⟨hv, UInt64.le_trans hvt hle⟩, hvt⟩
  · rintro ⟨⟨hv, -⟩, hvt⟩
    exact ⟨hv, hvt⟩

theorem Candidate.found?_of_agree (h : t.AgreeButVersion u) (hle : t.version ≤ u.version)
    (c : Candidate) :
    c.found? t table = (c.found? u table).filter (·.version ≤ t.version) := by
  rw [found?, found?, decisive?_of_agree h]
  cases (c.decisive? u table).bind Attribute.version? with
  | none => rfl
  | some v =>
    have hreport := isReportable_iff_of_le hle (v := v)
    by_cases hu : u.isReportable v = true
    · by_cases hv : v ≤ t.version
      · simp [Option.filter, hu, hv, hreport.2 ⟨hu, hv⟩]
      · simp [Option.filter, hu, hv, mt hreport.1 fun h ↦ hv h.2]
    · simp [Option.filter, hu, mt hreport.1 fun h ↦ hu h.1]

theorem scanFault?_of_agree (h : t.AgreeButVersion u) (kind : UseKind) :
    scanFault? t table tree kind = scanFault? u table tree kind := by
  rw [scanFault?, scanFault?, funext (Candidate.fault?_of_agree h)]

theorem surveyFault?_of_agree (h : t.AgreeButVersion u) :
    surveyFault? t table tree = surveyFault? u table tree := by
  rw [surveyFault?, surveyFault?, funext (scanFault?_of_agree h)]

theorem scanned_of_agree (h : t.AgreeButVersion u) (hle : t.version ≤ u.version)
    (kind : UseKind) :
    scanned t table tree kind = (scanned u table tree kind).upTo t.version := by
  rw [scanned, scanned, Findings.upTo, List.filter_filterMap]
  exact congrArg (List.filterMap · _) (funext (Candidate.found?_of_agree h hle))

/-- **A scan for a lower version is the scan for a higher one, cut off.** -/
theorem scan_eq_map_upTo (h : t.AgreeButVersion u) (hle : t.version ≤ u.version)
    (kind : UseKind) :
    scan t table tree kind = (scan u table tree kind).map (·.upTo t.version) := by
  rw [scan_eq, scan_eq, scanFault?_of_agree h, scanned_of_agree h hle]
  cases scanFault? u table tree kind <;> rfl

theorem mem_identifiers_surveyed_iff {f : Finding} :
    f ∈ (surveyed t table tree).identifiers ↔
      f ∈ scanned t table tree .identifier ∧
        (scanned t table tree .memberAccess).covers tree f.node = false ∧
        (scanned t table tree .variableDeclaration).covers tree f.node = false := by
  simp only [surveyed, Findings.mem_dropCovered, and_assoc]

/-- **A survey for a lower version is the survey for a higher one, narrowed.** -/
theorem surveyed_narrowedTo (h : t.AgreeButVersion u) (hle : t.version ≤ u.version) :
    (surveyed t table tree).NarrowedTo t.version tree (surveyed u table tree) := by
  have hscan : ∀ kind, scanned t table tree kind = (scanned u table tree kind).upTo t.version :=
    scanned_of_agree h hle
  refine ⟨hscan _, hscan _, hscan _, fun f hf ↦ ?_, fun f hf hv ↦ ?_⟩
  · obtain ⟨hraw, -⟩ := mem_identifiers_surveyed_iff.1 hf
    rw [hscan, Findings.mem_upTo] at hraw
    -- the identifier was found for the higher version too, and there it may be covered
    by_cases haccess : (scanned u table tree .memberAccess).covers tree f.node = true
    · obtain ⟨parent, hparent, g, hg, hnode⟩ := Findings.exists_parent_of_covers haccess
      exact Or.inr ⟨parent, hparent, g, Or.inl hg, hnode⟩
    by_cases hvariable : (scanned u table tree .variableDeclaration).covers tree f.node = true
    · obtain ⟨parent, hparent, g, hg, hnode⟩ := Findings.exists_parent_of_covers hvariable
      exact Or.inr ⟨parent, hparent, g, Or.inr hg, hnode⟩
    exact Or.inl (mem_identifiers_surveyed_iff.2
      ⟨hraw.1, Bool.not_eq_true _ ▸ haccess, Bool.not_eq_true _ ▸ hvariable⟩)
  · obtain ⟨hraw, haccess, hvariable⟩ := mem_identifiers_surveyed_iff.1 hf
    have hless : ∀ {kind}, (scanned u table tree kind).covers tree f.node = false →
        (scanned t table tree kind).covers tree f.node = false := by
      intro kind hkind
      rw [← Bool.not_eq_true] at hkind ⊢
      rw [hscan]
      exact mt Findings.covers_of_covers_upTo hkind
    exact mem_identifiers_surveyed_iff.2
      ⟨hscan _ ▸ Findings.mem_upTo.2 ⟨hraw, hv⟩, hless haccess, hless hvariable⟩

/-- Two surveys that differ in the version fail together, or narrow together. -/
theorem survey_together (h : t.AgreeButVersion u) (hle : t.version ≤ u.version)
    (table : SymbolTable) (tree : Tree) :
    (∃ f, survey t table tree = .error f ∧ survey u table tree = .error f) ∨
    ∃ s w, survey t table tree = .ok s ∧ survey u table tree = .ok w ∧
      s.NarrowedTo t.version tree w := by
  rw [survey_eq, survey_eq, surveyFault?_of_agree h]
  cases surveyFault? u table tree with
  | some f => exact Or.inl ⟨f, rfl, rfl⟩
  | none => exact Or.inr ⟨_, _, rfl, rfl, surveyed_narrowedTo h hle⟩

end Versions

/-- **Surveys are monotone in the version of the target.** For two targets that differ in the
version only, both surveys fail, and with the same fault, or both succeed and the one for the lower
version is the other one narrowed; in particular it is empty if the other one is. Each single scan
for the lower version is the other one cut off, faults included.

And where a version was given for a target, the target without one resolves too, for a version at
least as great: if its survey is clean, so is the survey for the given version. -/
theorem survey_monotone :
    (∀ t u : Target, t.AgreeButVersion u → t.version ≤ u.version →
      ∀ (table : SymbolTable) (tree : Tree),
        ((∃ f, survey t table tree = .error f ∧ survey u table tree = .error f) ∨
          ∃ s w, survey t table tree = .ok s ∧ survey u table tree = .ok w ∧
            s.NarrowedTo t.version tree w ∧ (w.findings = [] → s.findings = [])) ∧
        ∀ kind, scan t table tree kind = (scan u table tree kind).map (·.upTo t.version)) ∧
    ∀ (m : Module) (names : Names) (text : String) (t : Target),
      Target.resolve m names (some text) = .ok t →
      ∃ u, Target.resolve m names none = .ok u ∧ t.AgreeButVersion u ∧ t.version ≤ u.version ∧
        ∀ (table : SymbolTable) (tree : Tree) (w : Survey), survey u table tree = .ok w →
          w.findings = [] → ∃ s, survey t table tree = .ok s ∧ s.findings = [] := by
  constructor
  · intro t u h hle table tree
    refine ⟨?_, scan_eq_map_upTo h hle⟩
    rcases survey_together h hle table tree with hfail | ⟨s, w, hs, hw, hnarrow⟩
    · exact Or.inl hfail
    · exact Or.inr ⟨s, w, hs, hw, hnarrow, hnarrow.findings_eq_nil⟩
  · intro m names text t ht
    obtain ⟨u, hu, h, hle⟩ := Target.exists_resolve_none ht
    refine ⟨u, hu, h, hle, fun table tree w hw hnil ↦ ?_⟩
    rcases survey_together h hle table tree with ⟨f, -, hf⟩ | ⟨s, w', hs, hw', hnarrow⟩
    · rw [hf] at hw
      exact absurd hw (by simp)
    · rw [hw'] at hw
      obtain rfl := Except.ok.inj hw
      exact ⟨s, hs, hnarrow.findings_eq_nil hnil⟩

/-- The platform with a box, for version 5. -/
def boxTargetFive : Target :=
  { boxTarget with version := 5, defaulted := false }

/-- The names of the types of that platform. -/
def boxNames : Names where
  rootType := "kit.root"
  attributeType := "Kit.Since"
  platformType := "Kit.Version"
  versionMarker := "v"

theorem survey_monotone_box :
    boxTargetFive.AgreeButVersion boxTarget ∧ boxTargetFive.version ≤ boxTarget.version ∧
    Target.resolve boxModule boxNames (some "5") = .ok boxTargetFive ∧
    ((∃ f, survey boxTargetFive boxTable boxTree = .error f ∧
        survey boxTarget boxTable boxTree = .error f) ∨
      ∃ s w, survey boxTargetFive boxTable boxTree = .ok s ∧
        survey boxTarget boxTable boxTree = .ok w ∧ s.NarrowedTo 5 boxTree w ∧
        (w.findings = [] → s.findings = [])) ∧
    ∃ u, Target.resolve boxModule boxNames none = .ok u ∧ boxTargetFive.version ≤ u.version := by
  have hresolve : Target.resolve boxModule boxNames (some "5") = .ok boxTargetFive := by rfl
  have hagree : boxTargetFive.AgreeButVersion boxTarget := rfl
  have hle : boxTargetFive.version ≤ boxTarget.version := by decide
  obtain ⟨u, hu, -, hversion, -⟩ := survey_monotone.2 _ _ _ _ hresolve
  exact ⟨hagree, hle, hresolve, (survey_monotone.1 _ _ hagree hle boxTable boxTree).1, u, hu,
    hversion⟩

end DeprecationLint
