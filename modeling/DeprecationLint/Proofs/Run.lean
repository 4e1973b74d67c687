import DeprecationLint.Proofs.Emission
import DeprecationLint.Proofs.Uses
import DeprecationLint.Report.Run

/-!
# What a run writes, and where it fails

A run is two nested folds, over projects and over their source files. `Inspection.writes_run` gives
it in closed form: the text of the projects up to the first fault, the fault if there is one, and
otherwise the counts.

From this, `failure_iff_malformed` says when a survey and a run fail and what is left behind. A
survey fails for **one reason only**, a malformed attribute that applies to a use; and a run that
fails has written everything before the source file at fault, the line of its project included,
and nothing about the file itself.
-/

namespace DeprecationLint

open Platform Snapshot

namespace Inspection

/-! ### Source files -/

/-- The lines of the warnings about findings. -/
def warningLines (target : Target) (table : SymbolTable) (tree : Tree) (fs : Findings) :
    List UInt8 :=
  fs.flatMap fun f ↦ Emit.lineBytes (f.warning target table tree)

/-- The lines about a source file. One that is left out, or that cannot be surveyed, has none. -/
def treeReport (i : Inspection) (table : SymbolTable) (tree : Tree) : List UInt8 :=
  if i.excludes tree then []
  else match survey i.target table tree with
    | .ok s => warningLines i.target table tree s.findings
    | .error _ => []

/-- The fault of a source file, if it has one and is not left out. -/
def treeFault? (i : Inspection) (table : SymbolTable) (tree : Tree) : Option Fault :=
  if i.excludes tree then none else surveyFault? i.target table tree

/-- The counts after a source file without a fault. -/
def countTree (i : Inspection) (table : SymbolTable) (done : Summary) (tree : Tree) : Summary :=
  if i.excludes tree then { done with treesSkipped := done.treesSkipped + 1 }
  else { done with
    treesScanned := done.treesScanned + 1
    findings := done.findings + (surveyed i.target table tree).size }

/-- A source file does not stop a run: it is left out, or it can be surveyed. -/
def Passes (i : Inspection) (table : SymbolTable) (tree : Tree) : Prop :=
  i.excludes tree = false → ∃ s, survey i.target table tree = .ok s

/-- A source file stops a run with a fault: it is not left out and cannot be surveyed. -/
def Stops (i : Inspection) (table : SymbolTable) (tree : Tree) (f : Fault) : Prop :=
  i.excludes tree = false ∧ survey i.target table tree = .error f

variable {i : Inspection} {table : SymbolTable} {tree : Tree}

theorem treeFault?_eq_some_iff {f : Fault} :
    i.treeFault? table tree = some f ↔ i.Stops table tree f := by
  rw [treeFault?, Stops, Option.ite_none_left_eq_some, survey_eq_error_iff, Bool.not_eq_true]

theorem treeFault?_eq_none_iff :
    i.treeFault? table tree = none ↔ i.Passes table tree := by
  rw [treeFault?, Passes, exists_survey_eq_ok_iff]
  cases i.excludes tree <;> simp

theorem writes_writeWarnings (target : Target) (table : SymbolTable) (tree : Tree)
    (fs : Findings) :
    Emit.Writes (writeWarnings target table tree fs) (warningLines target table tree fs)
      (.ok ()) := by
  rw [writeWarnings, warningLines]
  exact Emit.writes_forM (fun f ↦ Emit.writes_putLine _) fs

/-- **A source file is surveyed before any line about it is written.** -/
theorem writes_runTree (i : Inspection) (table : SymbolTable) (tree : Tree) :
    Emit.Writes (i.runTree table tree)
      (match survey i.target table tree with
        | .ok s => warningLines i.target table tree s.findings
        | .error _ => [])
      (unlessFault (surveyFault? i.target table tree) (surveyed i.target table tree).size) := by
  rw [runTree, survey_eq]
  cases surveyFault? i.target table tree with
  | some f => exact (Emit.writes_ofExcept (.error f)).bind_error
  | none =>
    have hlines : Emit.Writes _ _ (unlessFault none ()) :=
      writes_writeWarnings i.target table tree (surveyed i.target table tree).findings
    exact (Emit.writes_ofExcept (.ok (surveyed i.target table tree))).bind
      (hlines.bind_pure fun _ ↦ (surveyed i.target table tree).size)

theorem writes_stepTree (i : Inspection) (table : SymbolTable) (done : Summary) (tree : Tree) :
    Emit.Writes (i.stepTree table done tree) (i.treeReport table tree)
      (unlessFault (i.treeFault? table tree) (i.countTree table done tree)) := by
  rw [stepTree, treeReport, treeFault?, countTree]
  cases i.excludes tree with
  | true => exact Emit.writes_pure _
  | false =>
    exact (i.writes_runTree table tree).bind_pure fun found ↦ { done with
      treesScanned := done.treesScanned + 1
      findings := done.findings + found }

/-! ### Projects -/

/-- The line that names a project. -/
def header (p : Project) : List UInt8 :=
  Emit.lineBytes ("Analyzing project " ++ p.name)

/-- All the lines about a project. -/
def projectReport (i : Inspection) (p : Project) : List UInt8 :=
  header p ++ p.trees.flatMap (i.treeReport p.symbols)

/-- The lines about a project that are written, up to the first source file at fault. -/
def projectWritten (i : Inspection) (p : Project) : List UInt8 :=
  header p ++ writtenUntilFault (i.treeFault? p.symbols) (i.treeReport p.symbols) p.trees

/-- The fault of a project: that of its first source file at fault. -/
def projectFault? (i : Inspection) (p : Project) : Option Fault :=
  p.trees.findSome? (i.treeFault? p.symbols)

/-- The counts after a project without a fault. -/
def countProject (i : Inspection) (done : Summary) (p : Project) : Summary :=
  p.trees.foldl (i.countTree p.symbols) { done with projects := done.projects + 1 }

theorem writes_stepProject (i : Inspection) (done : Summary) (p : Project) :
    Emit.Writes (i.stepProject done p) (i.projectWritten p)
      (unlessFault (i.projectFault? p) (i.countProject done p)) :=
  (Emit.writes_putLine _).bind
    (Emit.writes_foldlM (i.writes_stepTree p.symbols) p.trees _)

/-- A project without a fault is written in full. -/
theorem projectWritten_of_none {p : Project} (h : i.projectFault? p = none) :
    i.projectWritten p = i.projectReport p := by
  rw [projectWritten, projectReport, writtenUntilFault_of_none (List.findSome?_eq_none_iff.1 h)]

/-! ### Solutions -/

/-- What a run writes, up to the first source file at fault. -/
def written (i : Inspection) (solution : Solution) : List UInt8 :=
  writtenUntilFault i.projectFault? i.projectWritten solution.projects

/-- The fault of a run: that of its first project at fault. -/
def fault? (i : Inspection) (solution : Solution) : Option Fault :=
  solution.projects.findSome? i.projectFault?

/-- The counts of a run without a fault. -/
def counts (i : Inspection) (solution : Solution) : Summary :=
  solution.projects.foldl i.countProject {}

/-- **A run writes the lines about its projects up to the first fault**, and comes to the counts
unless there is one. -/
theorem writes_run (i : Inspection) (solution : Solution) :
    Emit.Writes (i.run solution) (i.written solution)
      (unlessFault (i.fault? solution) (i.counts solution)) :=
  Emit.writes_foldlM i.writes_stepProject solution.projects {}

/-- A run on a sink without a limit. -/
theorem run_unlimited (i : Inspection) (solution : Solution) (w : List UInt8) :
    i.run solution { written := w } =
      Sink.ending { written := w ++ i.written solution }
        (unlessFault (i.fault? solution) (i.counts solution)) :=
  i.writes_run solution _ fun _ h ↦ absurd h (by simp)

/-- **A run sees its target through surveys and the texts of versions only.** -/
theorem run_congr {i j : Inspection} (hexcluded : j.excluded = i.excluded)
    (hversions : j.target.versions = i.target.versions)
    (hsurvey : survey j.target = survey i.target) : j.run = i.run := by
  have hwarning : ∀ f : Finding, f.warning j.target = f.warning i.target := fun f ↦ by
    funext table tree
    rw [Finding.warning, Finding.warning, hversions]
  have htree : j.runTree = i.runTree := by
    funext table tree
    simp only [runTree, writeWarnings, hsurvey, hwarning]
  have hstep : j.stepTree = i.stepTree := by
    funext table done tree
    rw [stepTree, stepTree, excludes, excludes, hexcluded, htree]
  have hproject : j.stepProject = i.stepProject := by
    funext done p
    rw [stepProject, stepProject, hstep]
  funext solution
  rw [run, run, hproject]

/-! ### Failure -/

/-- A source file that stops a run has no lines. -/
theorem treeReport_of_stops {f : Fault} (h : i.Stops table tree f) :
    i.treeReport table tree = [] := by
  simp [treeReport, h.1, h.2]

theorem projectFault?_eq_none_iff {p : Project} :
    i.projectFault? p = none ↔ ∀ tree ∈ p.trees, i.Passes p.symbols tree := by
  rw [projectFault?, List.findSome?_eq_none_iff]
  exact forall₂_congr fun _ _ ↦ treeFault?_eq_none_iff

/-- A project is at fault exactly when one of its source files stops the run and none before it
does, and what is written about the project ends there. -/
theorem projectFault?_and_written_iff {p : Project} {f : Fault} {w : List UInt8} :
    i.projectFault? p = some f ∧ i.projectWritten p = w ↔
      ∃ earlier tree later, p.trees = earlier ++ tree :: later ∧
        (∀ t ∈ earlier, i.Passes p.symbols t) ∧ i.Stops p.symbols tree f ∧
        w = header p ++ earlier.flatMap (i.treeReport p.symbols) := by
  have hfirst := @findSome?_and_written_iff _ (i.treeFault? p.symbols) (i.treeReport p.symbols)
    p.trees f
  constructor
  · rintro ⟨hfault, rfl⟩
    obtain ⟨earlier, tree, later, htrees, hearlier, htree, hw⟩ := hfirst.1 ⟨hfault, rfl⟩
    have hstops : i.Stops p.symbols tree f := treeFault?_eq_some_iff.1 htree
    -- the file at fault is the last step, but it adds no line of its own
    rw [treeReport_of_stops hstops, List.append_nil] at hw
    exact ⟨earlier, tree, later, htrees, fun t ht ↦ treeFault?_eq_none_iff.1 (hearlier t ht),
      hstops, congrArg (header p ++ ·) hw⟩
  · rintro ⟨earlier, tree, later, htrees, hearlier, hstops, rfl⟩
    obtain ⟨hfault, hw⟩ := hfirst.2 ⟨earlier, tree, later, htrees,
      fun t ht ↦ treeFault?_eq_none_iff.2 (hearlier t ht), treeFault?_eq_some_iff.2 hstops, rfl⟩
    rw [treeReport_of_stops hstops, List.append_nil] at hw
    exact ⟨hfault, congrArg (header p ++ ·) hw⟩

/-- A run is at fault exactly when one of its projects is and none before it is, and what is
written ends with that project. -/
theorem fault?_and_written_iff {solution : Solution} {f : Fault} {w : List UInt8} :
    i.fault? solution = some f ∧ i.written solution = w ↔
      ∃ before p after, solution.projects = before ++ p :: after ∧
        (∀ q ∈ before, ∀ t ∈ q.trees, i.Passes q.symbols t) ∧
        i.projectFault? p = some f ∧ w = before.flatMap i.projectReport ++ i.projectWritten p := by
  -- a project without a fault is written in full, so nothing is lost before the last one
  have hfull : ∀ {before : List Project}, (∀ q ∈ before, i.projectFault? q = none) →
      before.flatMap i.projectWritten = before.flatMap i.projectReport :=
    fun h ↦ List.flatMap_congr fun q hq ↦ projectWritten_of_none (h q hq)
  rw [fault?, written, findSome?_and_written_iff]
  constructor
  · rintro ⟨before, p, after, hprojects, hbefore, hp, rfl⟩
    exact ⟨before, p, after, hprojects, fun q hq ↦ projectFault?_eq_none_iff.1 (hbefore q hq), hp,
      by rw [hfull hbefore]⟩
  · rintro ⟨before, p, after, hprojects, hbefore, hp, rfl⟩
    have hbefore' : ∀ q ∈ before, i.projectFault? q = none :=
      fun q hq ↦ projectFault?_eq_none_iff.2 (hbefore q hq)
    exact ⟨before, p, after, hprojects, hbefore', hp, by rw [hfull hbefore']⟩

/-- **A run that fails keeps what came before.** -/
theorem run_eq_error_iff {solution : Solution} {w : List UInt8} {f : Fault} {sink : Sink} :
    i.run solution { written := w } = .error f sink ↔
      ∃ before p after earlier tree later,
        solution.projects = before ++ p :: after ∧ p.trees = earlier ++ tree :: later ∧
        (∀ q ∈ before, ∀ t ∈ q.trees, i.Passes q.symbols t) ∧
        (∀ t ∈ earlier, i.Passes p.symbols t) ∧ i.Stops p.symbols tree f ∧
        sink = { written := w ++ before.flatMap i.projectReport ++ header p ++
          earlier.flatMap (i.treeReport p.symbols) } := by
  have hfault : i.run solution { written := w } = .error f sink ↔
      i.fault? solution = some f ∧ sink = { written := w ++ i.written solution } := by
    rw [run_unlimited]
    cases i.fault? solution <;> simp [unlessFault, Sink.ending, eq_comm]
  rw [hfault]
  constructor
  · rintro ⟨hsome, rfl⟩
    obtain ⟨before, p, after, hprojects, hbefore, hp, hw⟩ := fault?_and_written_iff.1 ⟨hsome, rfl⟩
    obtain ⟨earlier, tree, later, htrees, hearlier, hstops, hw'⟩ :=
      projectFault?_and_written_iff.1 ⟨hp, rfl⟩
    refine ⟨before, p, after, earlier, tree, later, hprojects, htrees, hbefore, hearlier, hstops,
      ?_⟩
    rw [hw, hw']
    simp only [List.append_assoc]
  · rintro ⟨before, p, after, earlier, tree, later, hprojects, htrees, hbefore, hearlier, hstops,
      rfl⟩
    obtain ⟨hp, hw'⟩ := projectFault?_and_written_iff.2
      ⟨earlier, tree, later, htrees, hearlier, hstops, rfl⟩
    obtain ⟨hsome, hw⟩ := fault?_and_written_iff.2 ⟨before, p, after, hprojects, hbefore, hp, rfl⟩
    refine ⟨hsome, ?_⟩
    rw [hw, hw']
    simp only [List.append_assoc]

end Inspection

/-- **Surveys fail for malformed attributes only, and a run that fails keeps what came before.**

A survey fails exactly when some candidate, of any kind, has an owner that descends from the root
and an attribute that applies to it without a version. The fault is always the same one and names
the type of the attributes; the version of the target has no part in it. Whatever else is wrong
with a source file, it has a survey.

A run on a sink that takes everything fails exactly when there is a source file that stops it,
while all before it pass. It has then written all the lines about the projects before, the line
that names the project of that file, and the lines about the files before it in the project. -/
theorem failure_iff_malformed :
    (∀ (target : Target) (table : SymbolTable) (tree : Tree) (v : UInt64) (d : Bool) (f : Fault),
      survey { target with version := v, defaulted := d } table tree = .error f ↔
        f = .missingVersion target.attributeType ∧
          ∃ kind, ∃ c ∈ Candidate.ofTree table tree kind, c.Malformed target table) ∧
    (∀ (target : Target) (table : SymbolTable) (tree : Tree),
      (∃ s, survey target table tree = .ok s) ↔
        ∀ kind, ∀ c ∈ Candidate.ofTree table tree kind, ¬c.Malformed target table) ∧
    ∀ (i : Inspection) (solution : Solution) (w : List UInt8) (f : Fault) (sink : Sink),
      i.run solution { written := w } = .error f sink ↔
        ∃ before p after earlier tree later,
          solution.projects = before ++ p :: after ∧ p.trees = earlier ++ tree :: later ∧
          (∀ q ∈ before, ∀ t ∈ q.trees, i.Passes q.symbols t) ∧
          (∀ t ∈ earlier, i.Passes p.symbols t) ∧ i.Stops p.symbols tree f ∧
          sink = { written := w ++ before.flatMap i.projectReport ++ Inspection.header p ++
            earlier.flatMap (i.treeReport p.symbols) } := by
  refine ⟨fun target table tree v d f ↦ ?_, fun target table tree ↦ ?_, ?_⟩
  · exact survey_eq_error_iff.trans surveyFault?_eq_some_iff
  · rw [exists_survey_eq_ok_iff, Option.eq_none_iff_forall_ne_some]
    simp only [ne_eq, surveyFault?_eq_some_iff, not_and, forall_eq, not_exists]
  · exact fun i solution w f sink ↦ Inspection.run_eq_error_iff

/-- A box whose attribute says nothing about versions. -/
example :
    let bare := boxModule.types.map fun t ↦
      { t with attributes := t.attributes.map fun a ↦ { a with entries := [] } }
    survey { boxTarget with module := { boxModule with types := bare } } boxTable boxTree =
      .error (.missingVersion "Kit.Since") := by
  decide +kernel

end DeprecationLint
