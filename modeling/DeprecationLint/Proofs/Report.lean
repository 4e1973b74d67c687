import DeprecationLint.Proofs.Run
import Mathlib.Algebra.Ring.Nat

/-!
# The report of a run

What a run says can be listed line by line, from the surveys of its source files and without the
run: for each project the line that names it, and then the warnings about each file that is not
left out, in the order of `Survey.warnings`. `run_eq_ok_iff` is that **a run succeeds exactly when
every such file has a survey, and has then written this list and counted it**. The counts come
about beside the lines, in the same two loops, and each of them adds up over files and projects
(`Inspection.additive_counts`).

A sink may take less than the whole report. `run_on_limited_sink` is that nothing but the first
bytes of the report is then written, and that the sink alone decides whether the run gets to its
own end: a fault of the analysis is only reached if all that comes before it fits.
-/

namespace DeprecationLint

open Platform Snapshot

/-! ### Lines -/

/-- A line of a report. -/
inductive ReportLine where
  /-- The line that names a project. -/
  | project (name : String)
  /-- A warning. -/
  | warning (text : String)
  deriving DecidableEq, Repr

namespace ReportLine

/-- The text of a line. -/
def text : ReportLine → String
  | .project name => "Analyzing project " ++ name
  | .warning text => text

/-- The bytes of a line, with its end. -/
def bytes (l : ReportLine) : List UInt8 :=
  Emit.lineBytes l.text

/-- Is a line a warning? -/
def isWarning : ReportLine → Bool
  | .project _ => false
  | .warning _ => true

end ReportLine

/-- The warnings about a source file with a survey: overriding declarations, then variable
declarations, member accesses and identifiers. -/
def Survey.warnings (s : Survey) (target : Target) (table : SymbolTable) (tree : Tree) :
    List ReportLine :=
  (s.typeDeclarations ++ s.variableDeclarations ++ s.memberAccesses ++ s.identifiers).map fun f ↦
    .warning (f.warning target table tree)

theorem Survey.findings_eq (s : Survey) :
    s.findings =
      s.typeDeclarations ++ s.variableDeclarations ++ s.memberAccesses ++ s.identifiers := by
  simp [findings, UseKind.all, ofKind]

theorem Survey.length_warnings (s : Survey) (target : Target) (table : SymbolTable)
    (tree : Tree) : (s.warnings target table tree).length = s.size := by
  rw [warnings, List.length_map, ← findings_eq, size_eq]

/-- All the lines of a survey are warnings. -/
theorem Survey.countP_isWarning_warnings (s : Survey) (target : Target) (table : SymbolTable)
    (tree : Tree) : (s.warnings target table tree).countP (·.isWarning) = s.size := by
  rw [← s.length_warnings target table tree, List.countP_eq_length]
  intro l hl
  obtain ⟨f, -, rfl⟩ := List.mem_map.1 hl
  rfl

namespace Inspection

/-- The lines about a source file, given what its survey found. One that is left out has none. -/
def treeLines (i : Inspection) (found : SymbolTable → Tree → Survey) (table : SymbolTable)
    (tree : Tree) : List ReportLine :=
  if i.excludes tree then [] else (found table tree).warnings i.target table tree

/-- The lines about a project: the one that names it, and those about its source files. -/
def projectLines (i : Inspection) (found : SymbolTable → Tree → Survey) (p : Project) :
    List ReportLine :=
  .project p.name :: p.trees.flatMap (i.treeLines found p.symbols)

/-- The lines of a report, given what the surveys of the source files found. -/
def reportLines (i : Inspection) (found : SymbolTable → Tree → Survey) (solution : Solution) :
    List ReportLine :=
  solution.projects.flatMap (i.projectLines found)

/-- Each source file that is not left out has the survey that is given for it. -/
def Finds (i : Inspection) (found : SymbolTable → Tree → Survey) (solution : Solution) : Prop :=
  ∀ p ∈ solution.projects, ∀ tree ∈ p.trees, i.excludes tree = false →
    survey i.target p.symbols tree = .ok (found p.symbols tree)

variable {i : Inspection} {found : SymbolTable → Tree → Survey} {solution : Solution}

/-! ### What is written -/

theorem fault?_eq_none_iff :
    i.fault? solution = none ↔ ∀ p ∈ solution.projects, ∀ t ∈ p.trees, i.Passes p.symbols t := by
  rw [fault?, List.findSome?_eq_none_iff]
  exact forall₂_congr fun _ _ ↦ projectFault?_eq_none_iff

/-- A run without a fault has surveys, and they are what was found. -/
theorem finds_surveyed (h : i.fault? solution = none) : i.Finds (surveyed i.target) solution := by
  intro p hp tree htree hincluded
  obtain ⟨s, hs⟩ := fault?_eq_none_iff.1 h p hp tree htree hincluded
  rw [hs, (survey_eq_ok_iff.1 hs).2]

theorem Finds.fault?_eq_none (h : i.Finds found solution) : i.fault? solution = none :=
  fault?_eq_none_iff.2 fun p hp tree htree hincluded ↦ ⟨_, h p hp tree htree hincluded⟩

/-- There is only one way to find something in the files that are not left out. -/
theorem Finds.reportLines_eq (h : i.Finds found solution) :
    i.reportLines found solution = i.reportLines (surveyed i.target) solution := by
  refine List.flatMap_congr fun p hp ↦ ?_
  refine congrArg (ReportLine.project p.name :: ·) (List.flatMap_congr fun tree htree ↦ ?_)
  rw [treeLines, treeLines]
  cases hexcluded : i.excludes tree with
  | true => rfl
  | false => rw [(survey_eq_ok_iff.1 (h p hp tree htree hexcluded)).2]

theorem treeReport_of_passes {table : SymbolTable} {tree : Tree} (h : i.Passes table tree) :
    i.treeReport table tree =
      (i.treeLines (surveyed i.target) table tree).flatMap ReportLine.bytes := by
  rw [treeReport, treeLines]
  cases hexcluded : i.excludes tree with
  | true => rfl
  | false =>
    obtain ⟨s, hs⟩ := h hexcluded
    obtain ⟨-, rfl⟩ := survey_eq_ok_iff.1 hs
    simp only [Bool.false_eq_true, if_false, hs, warningLines, Survey.warnings,
      ← Survey.findings_eq, List.flatMap_map]
    rfl

/-- **A run without a fault writes its report, line by line.** -/
theorem written_of_fault?_eq_none (h : i.fault? solution = none) :
    i.written solution =
      (i.reportLines (surveyed i.target) solution).flatMap ReportLine.bytes := by
  have hpasses := fault?_eq_none_iff.1 h
  have hproject : ∀ p ∈ solution.projects,
      i.projectWritten p = (i.projectLines (surveyed i.target) p).flatMap ReportLine.bytes := by
    intro p hp
    rw [projectWritten_of_none (projectFault?_eq_none_iff.2 (hpasses p hp)), projectReport,
      projectLines, List.flatMap_cons, List.flatMap_assoc,
      List.flatMap_congr fun tree htree ↦ treeReport_of_passes (hpasses p hp tree htree)]
    rfl
  rw [written, writtenUntilFault_of_none (List.findSome?_eq_none_iff.1 h), reportLines,
    List.flatMap_assoc, List.flatMap_congr hproject]

/-! ### What is counted -/

/-- A quantity that grows with each step by what the step adds. -/
theorem foldl_of_additive {α σ : Type} {step : σ → α → σ} {g : σ → Nat} {c : α → Nat}
    (h : ∀ s a, g (step s a) = g s + c a) (l : List α) (s : σ) :
    g (l.foldl step s) = g s + (l.map c).sum := by
  induction l generalizing s with
  | nil => rfl
  | cons a l ih =>
    rw [List.foldl_cons, ih, h, List.map_cons, List.sum_cons]
    omega

/-- **Counts add up over source files and projects.** -/
theorem additive_counts {g : Summary → Nat} {c : SymbolTable → Tree → Nat} {d : Nat}
    (hnone : g {} = 0)
    (hproject : ∀ done : Summary, g { done with projects := done.projects + 1 } = g done + d)
    (htree : ∀ table done tree, g (i.countTree table done tree) = g done + c table tree)
    (solution : Solution) :
    g (i.counts solution) =
      (solution.projects.map fun p ↦ d + (p.trees.map (c p.symbols)).sum).sum := by
  have hstep : ∀ done p,
      g (i.countProject done p) = g done + (d + (p.trees.map (c p.symbols)).sum) := by
    intro done p
    rw [countProject, foldl_of_additive (htree p.symbols), hproject, Nat.add_assoc]
  rw [counts, foldl_of_additive hstep, hnone, Nat.zero_add]

theorem projects_counts (i : Inspection) (solution : Solution) :
    (i.counts solution).projects = solution.projects.length := by
  rw [additive_counts (g := Summary.projects) (c := fun _ _ ↦ 0) (d := 1) rfl (fun _ ↦ rfl)]
  · simp
  · intro table done tree
    rw [countTree]
    split <;> rfl

theorem treesSkipped_counts (i : Inspection) (solution : Solution) :
    (i.counts solution).treesSkipped = (solution.projects.flatMap (·.trees)).countP i.excludes := by
  have hfiles : ∀ trees : List Tree,
      (trees.map fun tree ↦ [tree].countP i.excludes).sum = trees.countP i.excludes := by
    intro trees
    rw [← List.flatMap_singleton' trees, List.countP_flatMap, List.flatMap_singleton']
    rfl
  rw [additive_counts (g := Summary.treesSkipped) (c := fun _ tree ↦ [tree].countP i.excludes)
    (d := 0) rfl (fun _ ↦ rfl), List.countP_flatMap]
  · simp only [Nat.zero_add, hfiles]
    rfl
  · intro table done tree
    rw [countTree]
    cases h : i.excludes tree <;> simp [h]

/-- Every source file is surveyed or left out. -/
theorem treesScanned_add_treesSkipped_counts (i : Inspection) (solution : Solution) :
    (i.counts solution).treesScanned + (i.counts solution).treesSkipped = solution.treeCount := by
  have hall : solution.treeCount = (solution.projects.map (·.trees.length)).sum :=
    (foldl_of_additive (g := id) (fun _ _ ↦ rfl) solution.projects 0).trans (Nat.zero_add _)
  rw [additive_counts (g := fun s ↦ s.treesScanned + s.treesSkipped) (c := fun _ _ ↦ 1) (d := 0)
    rfl (fun _ ↦ rfl), hall]
  · simp
  · intro table done tree
    rw [countTree]
    split <;> simp only <;> omega

/-- **As many findings are counted as there are warnings in the report.** -/
theorem findings_counts (i : Inspection) (solution : Solution) :
    (i.counts solution).findings =
      (i.reportLines (surveyed i.target) solution).countP (·.isWarning) := by
  rw [additive_counts (g := Summary.findings)
    (c := fun table tree ↦ (i.treeLines (surveyed i.target) table tree).countP (·.isWarning))
    (d := 0) rfl (fun _ ↦ rfl), reportLines, List.countP_flatMap]
  · refine congrArg List.sum (List.map_congr_left fun p _ ↦ ?_)
    rw [Function.comp_apply, projectLines, List.countP_cons_of_neg (by simp [ReportLine.isWarning]),
      List.countP_flatMap, Nat.zero_add]
    rfl
  · intro table done tree
    rw [countTree, treeLines]
    split
    · rfl
    · rw [Survey.countP_isWarning_warnings]

end Inspection

/-- **A run that succeeds writes its report and counts it.** On a sink that takes everything, a run
succeeds exactly when every source file that is not left out has a survey. What is written is then,
for each project in order, the line that names it and the warnings about its files in order; and
the counts are the number of projects, the number of files that are left out, the number of all
other files, and the number of warnings. -/
theorem run_eq_ok_iff (i : Inspection) (solution : Solution) (w : List UInt8) (summary : Summary)
    (sink : Sink) :
    i.run solution { written := w } = .ok summary sink ↔
      ∃ found : SymbolTable → Tree → Survey,
        (∀ p ∈ solution.projects, ∀ tree ∈ p.trees, i.excludes tree = false →
          survey i.target p.symbols tree = .ok (found p.symbols tree)) ∧
        sink = { written := w ++ (i.reportLines found solution).flatMap ReportLine.bytes } ∧
        summary.findings = (i.reportLines found solution).countP (·.isWarning) ∧
        summary.projects = solution.projects.length ∧
        summary.treesSkipped = (solution.projects.flatMap (·.trees)).countP i.excludes ∧
        summary.treesScanned + summary.treesSkipped = solution.treeCount := by
  rw [Inspection.run_unlimited]
  constructor
  · intro h
    cases hfault : i.fault? solution with
    | some f =>
      rw [hfault] at h
      exact absurd h (by simp [Sink.ending])
    | none =>
      rw [hfault, unlessFault_none, Sink.ending] at h
      obtain ⟨rfl, rfl⟩ := EStateM.Result.ok.inj h
      refine ⟨surveyed i.target, Inspection.finds_surveyed hfault, ?_, i.findings_counts solution,
        i.projects_counts solution, i.treesSkipped_counts solution,
        i.treesScanned_add_treesSkipped_counts solution⟩
      rw [Inspection.written_of_fault?_eq_none hfault]
  · rintro ⟨found, hfound, rfl, hfindings, hprojects, hskipped, htotal⟩
    have hfinds : i.Finds found solution := hfound
    have hfault := hfinds.fault?_eq_none
    rw [hfinds.reportLines_eq] at hfindings ⊢
    have hsummary : summary = i.counts solution := by
      have hskipped' := hskipped.trans (i.treesSkipped_counts solution).symm
      have htotal' := htotal.trans (i.treesScanned_add_treesSkipped_counts solution).symm
      exact Summary.ext (hprojects.trans (i.projects_counts solution).symm) (by omega) hskipped'
        (hfindings.trans (i.findings_counts solution).symm)
    rw [hfault, unlessFault_none, Sink.ending, hsummary,
      Inspection.written_of_fault?_eq_none hfault]

/-- The report on a program with one use of each kind. -/
example :
    (Inspection.reportLines { target := boxTarget } (surveyed boxTarget)
      ⟨[{ name := "Crates", symbols := boxTable, trees := [boxTree] }]⟩).map (·.text) =
      ["Analyzing project Crates",
        "\x7bcrate.x, 0\x7d WARNING: open has been deprecated in 6",
        "\x7bcrate.x, 0\x7d WARNING: Crate has been deprecated in 5",
        "\x7bcrate.x, 0\x7d WARNING: open has been deprecated in 6",
        "\x7bcrate.x, 0\x7d WARNING: open has been deprecated in 6"] := by
  decide +kernel

/-! ### Sinks that take less -/

/-- **A sink that takes less gets the start of the report.** Let a run write a text and come to a
result on a sink that takes everything. If a sink takes fewer bytes than the text has, it gets as
many as it takes and the run fails for that reason; if it takes at least as many, it gets the text
and the run comes to the same result. -/
theorem run_on_limited_sink (i : Inspection) (solution : Solution) :
    ∃ (out : List UInt8) (result : Except Fault Summary),
      i.run solution {} = Sink.ending { written := out } result ∧
      ∀ limit : SinkLimit,
        i.run solution { limit := some limit } =
          if limit.capacity < out.length then
            .error (.unwritable limit.reason)
              { written := out.take limit.capacity, limit := some limit }
          else Sink.ending { written := out, limit := some limit } result := by
  refine ⟨i.written solution, unlessFault (i.fault? solution) (i.counts solution),
    i.run_unlimited solution [], fun limit ↦ ?_⟩
  have hroom : Sink.HasRoom { limit := some limit } := fun _ _ ↦ Nat.zero_le _
  rw [i.writes_run solution _ hroom]
  simp only [Sink.after, List.nil_append]
  by_cases hfits : (i.written solution).length ≤ limit.capacity
  · rw [if_pos hfits, if_neg (Nat.not_lt.2 hfits)]
  · rw [if_neg hfits, if_pos (Nat.lt_of_not_le hfits)]

end DeprecationLint
