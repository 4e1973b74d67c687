import DeprecationLint.Proofs.Readiness
import Mathlib.Data.List.Forall2

/-!
# Runs over joined solutions

Nothing but counts goes from one project to the next, and counts are only ever added up. So it does
not matter where one run ends and the next begins: what two runs count and write, one after the
other, is what a single run counts and writes over the projects of both
(`Inspection.counts_append`, `Inspection.written_append`), and the first fault of the two is the
fault of that run (`Inspection.fault?_append`).

A session goes through the snapshot files of its solution in the same way. `run_of_joined` puts the
two together: **a solution may be cut into files between any two of its projects**, and all that
the session says about it stays the same, down to the exit code.
-/

namespace DeprecationLint

open Platform Snapshot

/-! ### Counts -/

namespace Summary

@[simp] theorem merge_zero (a : Summary) : a.merge {} = a := rfl

theorem zero_merge (a : Summary) : merge {} a = a := by
  simp only [merge, Nat.zero_add]

theorem merge_assoc (a b c : Summary) : (a.merge b).merge c = a.merge (b.merge c) := by
  simp only [merge, Nat.add_assoc]

/-- What was counted before stays beside what a fold counts, if it does so in each step. -/
theorem foldl_merge {α : Type} {step : Summary → α → Summary}
    (h : ∀ (a b : Summary) (x : α), step (a.merge b) x = a.merge (step b x)) (l : List α)
    (a b : Summary) : l.foldl step (a.merge b) = a.merge (l.foldl step b) := by
  induction l generalizing b with
  | nil => rfl
  | cons x l ih => rw [List.foldl_cons, List.foldl_cons, h, ih]

end Summary

namespace Inspection

theorem countTree_merge (i : Inspection) (table : SymbolTable) (a b : Summary) (tree : Tree) :
    i.countTree table (a.merge b) tree = a.merge (i.countTree table b tree) := by
  rw [countTree, countTree]
  split <;> simp only [Summary.merge, Nat.add_assoc]

theorem countProject_merge (i : Inspection) (a b : Summary) (p : Project) :
    i.countProject (a.merge b) p = a.merge (i.countProject b p) := by
  rw [countProject, countProject, ← Summary.foldl_merge (i.countTree_merge p.symbols)]
  rfl

end Inspection

/-! ### Joined solutions -/

namespace Snapshot.Solution

/-- Two solutions as one: the projects of the first, and then those of the second. -/
instance : Append Solution :=
  ⟨fun a b ↦ ⟨a.projects ++ b.projects⟩⟩

/-- Several solutions as one, with all their projects in order. -/
def join (solutions : List Solution) : Solution :=
  ⟨solutions.flatMap (·.projects)⟩

theorem join_cons (a : Solution) (solutions : List Solution) :
    join (a :: solutions) = a ++ join solutions :=
  congrArg Solution.mk List.flatMap_cons

theorem join_singleton (a : Solution) : join [a] = a := by
  rw [join, List.flatMap_singleton]

end Snapshot.Solution

namespace Inspection

variable (i : Inspection) (a b : Solution)

theorem counts_append : i.counts (a ++ b) = (i.counts a).merge (i.counts b) := by
  have hall : i.counts (a ++ b) = b.projects.foldl i.countProject (i.counts a) :=
    List.foldl_append
  rw [hall, counts.eq_def i b, ← Summary.foldl_merge i.countProject_merge, Summary.merge_zero]

theorem fault?_append : i.fault? (a ++ b) = (i.fault? a).or (i.fault? b) :=
  List.findSome?_append

theorem written_append :
    i.written (a ++ b) =
      i.written a ++ if (i.fault? a).isSome then [] else i.written b :=
  writtenUntilFault_append _ _ a.projects b.projects

/-- **Two runs, one after the other, are a run over both solutions.** The second is reached only if
the first succeeds. -/
theorem run_append :
    i.run (a ++ b) {} =
      match i.run a {}, i.run b {} with
      | .ok x s, .ok y t => .ok (x.merge y) { written := s.written ++ t.written }
      | .ok _ s, .error f t => .error f { written := s.written ++ t.written }
      | .error f s, _ => .error f s := by
  rw [run_unlimited, run_unlimited, run_unlimited, fault?_append, written_append, counts_append]
  cases i.fault? a with
  | none => cases i.fault? b <;> rfl
  | some f =>
    -- neither the text nor a fault of the second solution is reached
    simp [Sink.ending]

end Inspection

/-! ### Snapshot files -/

namespace Session

variable {readers : Readers} {files : FileAccess Id} {i : Inspection}

theorem yields_loadSolution {path : String} {solution : Solution}
    (h : ReadsAs files readers.solution? path solution) :
    Yields (loadSolution readers files path) [] (.ok solution) := by
  obtain ⟨text, hread, hparse⟩ := h
  have hask : Yields (ask (files.readText path)) [] (.ok (.ok text)) := hread ▸ yields_ask _
  refine hask.bind ?_
  simp only [hparse]
  exact (yields_log _).bind (yields_pure _)

theorem yields_forM_log {α : Type} (e : α → LogEvent) (l : List α) :
    Yields (l.forM fun x ↦ log (e x)) [] (.ok ()) := by
  induction l with
  | nil => exact yields_pure ()
  | cons x l ih => exact (yields_log (e x)).bind ih

/-- **A snapshot file is a run over its solution**; its counts are added to the others. -/
theorem yields_stepFile {path : String} {solution : Solution}
    (h : ReadsAs files readers.solution? path solution) (done : Summary) :
    Yields (stepFile readers files i done path) (i.written solution)
      (orStop (unlessFault (i.fault? solution) (done.merge (i.counts solution)))) := by
  have hrun := yields_emit (i.writes_run solution)
  exact (yields_loadSolution h).bind ((yields_forM_log _ _).bind
    (hrun.bind_silent ((yields_log _).bind (yields_pure _))))

/-- **Snapshot files in order are one run over their solutions joined.** -/
theorem yields_stepFiles {paths : List String} {solutions : List Solution}
    (h : List.Forall₂ (ReadsAs files readers.solution?) paths solutions) (done : Summary) :
    Yields (paths.foldlM (stepFile readers files i) done) (i.written (.join solutions))
      (orStop (unlessFault (i.fault? (.join solutions))
        (done.merge (i.counts (.join solutions))))) := by
  -- the counts of the files so far are in front of all others, and have to be arbitrary
  induction h generalizing done with
  | nil => exact yields_pure done
  | cons hpath _ ih =>
    rw [List.foldlM_cons, Solution.join_cons, i.written_append, i.fault?_append, i.counts_append,
      ← Summary.merge_assoc]
    exact (yields_stepFile hpath done).bind_unlessFault (ih _)

/-- **Findings make the difference** for a session whose files all load. -/
theorem yields_inspectFiles {p : Preparation} {excluded : String → Bool} {paths : List String}
    {solutions : List Solution}
    (hexcluded : p.settings.exclusions readers.patterns = .ok excluded)
    (h : List.Forall₂ (ReadsAs files readers.solution?) paths solutions) :
    let i : Inspection := { target := p.target, excluded }
    Yields (inspectFiles readers files p paths) (i.written (.join solutions))
      (orStop (unlessFault (i.fault? (.join solutions))
        (if (i.counts (.join solutions)).findings = 0 then .clean else .found))) := by
  intro i
  have hruns := yields_stepFiles (i := i) h {}
  rw [Summary.zero_merge] at hruns
  rw [inspectFiles, hexcluded]
  exact hruns.bind_silent (yields_pure _)

/-- **What is said after the banner depends on the solution alone**, however it is cut into
files. -/
theorem exists_yields_inspectFiles (readers : Readers) (p : Preparation) (solution : Solution) :
    ∃ out r, ∀ {files : FileAccess Id} {paths : List String} {solutions : List Solution},
      List.Forall₂ (ReadsAs files readers.solution?) paths solutions →
      .join solutions = solution → Yields (inspectFiles readers files p paths) out r := by
  cases hexclusions : p.settings.exclusions readers.patterns with
  | error wording =>
    -- a malformed pattern ends the session before the first file is read
    refine ⟨[], .error (.failed (.pattern wording)), ?_⟩
    intro files paths solutions _ _
    rw [inspectFiles, hexclusions]
    exact yields_throw _
  | ok excluded =>
    let i : Inspection := { target := p.target, excluded }
    refine ⟨i.written solution, orStop (unlessFault (i.fault? solution)
      (if (i.counts solution).findings = 0 then .clean else .found)), ?_⟩
    intro files paths solutions hload hjoin
    rw [← hjoin]
    exact yields_inspectFiles hexclusions hload

/-- The analysis of a solution that has files says what it works with, and then goes through the
files. -/
theorem yields_analyse {p : Preparation} {path : String} {paths : List String} {out : List UInt8}
    {r : Except Stop Verdict} (hpaths : files.snapshots path = .ok paths) (hsome : paths ≠ [])
    (h : Yields (inspectFiles readers files p paths) out r) :
    Yields (analyse readers files p path)
      (Text.bytes (banner p.target p.modulePath path) ++ out) r := by
  have hask : Yields (ask (files.snapshots path)) [] (.ok (.ok paths)) := hpaths ▸ yields_ask _
  have hcollect : Yields (collect files path) [] (.ok paths) := hask.bind (yields_pure paths)
  have hbanner :=
    yields_emit (Emit.writes_putBytes (Text.bytes (banner p.target p.modulePath path)))
  refine hcollect.bind (hbanner.bind ?_)
  rw [if_neg (by simpa using hsome)]
  exact h

/-- A session is what comes before the solution, and then the analysis of the solution. -/
theorem steps_eq (readers : Readers) (files : FileAccess Id) (command : Command) (path : String) :
    steps readers files { command with solution := some path } =
      (loadSettings readers files command >>= prepare readers files command) >>= fun p ↦
        analyse readers files p path :=
  (bind_assoc ..).symm

theorem exists_run_eq_report {command : Command} {out : List UInt8} {r : Except Stop Verdict}
    (h : Yields (steps readers files command) out r) :
    ∃ l, run readers files command = report r { out := { written := out }, log := l } := by
  obtain ⟨l, hl⟩ := h [] []
  refine ⟨l, ?_⟩
  show report ((steps readers files command).run.run {}).1
    ((steps readers files command).run.run {}).2 = _
  rw [hl]
  rfl

theorem stdout_report (r : Except Stop Verdict) (c : Channels) :
    (report r c).stdout = c.out.written := by
  rcases r with (_ | _) | _ <;> rfl

/-- How a session ends has nothing to do with what it wrote. -/
theorem report_congr (r : Except Stop Verdict) (c c' : Channels) :
    (report r c).outcome = (report r c').outcome ∧ (report r c).stderr = (report r c').stderr := by
  rcases r with (_ | _) | _ <;> exact ⟨rfl, rfl⟩

/-- Two texts are the same up to the path of the solution that the banner names, if there is a
banner. -/
def SameUpToBanner (path path' : String) (out out' : List UInt8) : Prop :=
  out = out' ∨ ∃ notices target modulePath rest,
    out = notices ++ Text.bytes (banner target modulePath path) ++ rest ∧
    out' = notices ++ Text.bytes (banner target modulePath path') ++ rest

/-- **How a session goes depends on the solution alone**, but for the path in the banner, however
the solution is cut into files. -/
theorem exists_yields_steps (readers : Readers) (files : FileAccess Id) (command : Command)
    (solution : Solution) :
    ∃ (out : String → List UInt8) (r : Except Stop Verdict),
      (∀ path path', SameUpToBanner path path' (out path) (out path')) ∧
      ∀ {path : String} {paths : List String} {solutions : List Solution},
        files.snapshots path = .ok paths → paths ≠ [] →
        List.Forall₂ (ReadsAs files readers.solution?) paths solutions →
        .join solutions = solution →
        Yields (steps readers files { command with solution := some path }) (out path) r := by
  have hstart : Steady (loadSettings readers files command >>= prepare readers files command) :=
    (steady_loadSettings readers files command).bind (steady_prepare readers files command)
  obtain ⟨notices, start, hstart⟩ := hstart
  cases start with
  | error s =>
    -- the session is over before it looks at the solution
    refine ⟨fun _ ↦ notices, .error s, fun _ _ ↦ .inl rfl, fun _ _ _ _ ↦ ?_⟩
    rw [steps_eq]
    exact hstart.bind_error
  | ok p =>
    obtain ⟨rest, r, hrest⟩ := exists_yields_inspectFiles readers p solution
    refine ⟨fun path ↦ notices ++ (Text.bytes (banner p.target p.modulePath path) ++ rest), r,
      fun _ _ ↦ .inr ⟨notices, p.target, p.modulePath, rest, ?_⟩, ?_⟩
    -- what was settled in the preparation does not depend on the path, so neither does the rest
    · simp only [List.append_assoc, and_self]
    · intro path paths solutions hpaths hsome hload hjoin
      rw [steps_eq]
      exact hstart.bind (yields_analyse hpaths hsome (hrest hload hjoin))

end Session

/-- **A solution may be cut between any two of its projects.**

Let two solutions be joined, on a sink that takes everything. If both runs succeed, so does the run
over the joined solution; it writes what they write, one after the other, and its counts are theirs
added up. If the first run fails, the run over the joined solution fails in the same way. If only
the second fails, the run fails for the same reason after the text of both.

So when snapshot files are gone through in order, the texts, the counts and a fault that ends the
loop are those of a single file with all their projects; and a session over such files ends as a
session over the single file does, with the same exit code and the same output but for the path of
the solution in the banner. -/
theorem run_of_joined :
    (∀ (i : Inspection) (a b : Solution),
      (∀ (x y : Summary) (s t : Sink), i.run a {} = .ok x s → i.run b {} = .ok y t →
        i.run (a ++ b) {} = .ok (x.merge y) { written := s.written ++ t.written }) ∧
      (∀ (f : Fault) (s : Sink), i.run a {} = .error f s → i.run (a ++ b) {} = .error f s) ∧
      ∀ (x : Summary) (f : Fault) (s t : Sink), i.run a {} = .ok x s → i.run b {} = .error f t →
        i.run (a ++ b) {} = .error f { written := s.written ++ t.written }) ∧
    (∀ (i : Inspection) (readers : Readers) (files files' : FileAccess Id) (paths : List String)
        (solutions : List Solution) (path' : String),
      List.Forall₂ (Session.ReadsAs files readers.solution?) paths solutions →
      Session.ReadsAs files' readers.solution? path' (.join solutions) →
      ∀ (done : Summary) (w : List UInt8) (l l' : List LogEvent),
        let many := (paths.foldlM (Session.stepFile readers files i) done).run.run
          { out := { written := w }, log := l }
        let one := ([path'].foldlM (Session.stepFile readers files' i) done).run.run
          { out := { written := w }, log := l' }
        one.1 = many.1 ∧ one.2.out = many.2.out) ∧
    ∀ (readers : Readers) (files : FileAccess Id) (command : Command)
        (path path' file' : String) (paths : List String) (solutions : List Solution),
      files.snapshots path = .ok paths → paths ≠ [] →
      List.Forall₂ (Session.ReadsAs files readers.solution?) paths solutions →
      files.snapshots path' = .ok [file'] →
      Session.ReadsAs files readers.solution? file' (.join solutions) →
      let many := Session.run readers files { command with solution := some path }
      let one := Session.run readers files { command with solution := some path' }
      one.exitCode = many.exitCode ∧ one.outcome = many.outcome ∧
        one.programStderr = many.programStderr ∧
        Session.SameUpToBanner path path' many.stdout one.stdout := by
  refine ⟨fun i a b ↦ ⟨?_, ?_, ?_⟩, ?_, ?_⟩
  · intro x y s t ha hb
    rw [i.run_append, ha, hb]
  · intro f s ha
    rw [i.run_append, ha]
  · intro x f s t ha hb
    rw [i.run_append, ha, hb]
  · intro i readers files files' paths solutions path' hload hload' done w l l'
    obtain ⟨m, hmany⟩ := Session.yields_stepFiles (i := i) hload done w l
    obtain ⟨m', hone⟩ := Session.yields_stepFiles (i := i) (.cons hload' .nil) done w l'
    rw [Solution.join_singleton] at hone
    simp only [hmany, hone, and_self]
  · intro readers files command path path' file' paths solutions hpaths hsome hload hpath' hload'
    obtain ⟨out, r, hout, hsteps⟩ :=
      Session.exists_yields_steps readers files command (.join solutions)
    obtain ⟨m, hmany⟩ := Session.exists_run_eq_report (hsteps hpaths hsome hload rfl)
    obtain ⟨m', hone⟩ := Session.exists_run_eq_report
      (hsteps hpath' (List.cons_ne_nil _ _) (.cons hload' .nil) (Solution.join_singleton _))
    obtain ⟨houtcome, hstderr⟩ := Session.report_congr r
      { out := { written := out path' }, log := m' } { out := { written := out path }, log := m }
    simp only [hmany, hone, SessionReport.exitCode, SessionReport.programStderr, houtcome, hstderr,
      Session.stdout_report, true_and]
    exact hout path path'

/-! ### Crates and a shop in one file and in two -/

/-- An inspection against boxes whose attributes name no version. -/
def bareInspection : Inspection where
  target := { boxTarget with
    module := { boxModule with
      types := boxModule.types.map fun t ↦
        { t with attributes := t.attributes.map fun a ↦ { a with entries := [] } } } }

theorem forall₂_readsAs_parts :
    List.Forall₂ (Session.ReadsAs crateFiles Readers.standard.solution?) ["crates", "shop"]
      [crateSolution, emptySolution "Shop"] :=
  .cons readsAs_crates (.cons readsAs_shop .nil)

set_option maxRecDepth 8000 in
theorem readsAs_both :
    Session.ReadsAs crateFiles Readers.standard.solution? "both"
      (.join [crateSolution, emptySolution "Shop"]) := by
  refine ⟨"[[" ++ crateText ++ ",[\"Shop\"]]]", rfl, ?_⟩
  have htext : crateText.toList = _ := String.toList_ofList
  rw [Readers.standard_solution?, Solution.parse?, Json.parse?, String.toList_append,
    String.toList_append, htext]
  decide +kernel

/-- Both files load and can be gone through, and there are findings. -/
theorem exitCode_parts :
    (Session.run .standard crateFiles (crateCommand "kit.yaml" "parts")).exitCode = 1 := by
  have hready := ready_crates readsAs_names (rfl : crateFiles.snapshots "parts" = _)
  have hfault : Inspection.fault? { target := boxTarget }
      (.join [crateSolution, emptySolution "Shop"]) = none := by decide +kernel
  have hcounts : Inspection.counts { target := boxTarget }
      (.join [crateSolution, emptySolution "Shop"]) =
        { projects := 2, treesScanned := 1, findings := 4 } := by decide +kernel
  have hfiles := Session.yields_inspectFiles
    (p := { settings := { names := boxNames }, modulePath := "kit.json", target := boxTarget })
    rfl forall₂_readsAs_parts
  simp only [hfault, hcounts] at hfiles
  obtain ⟨l, hl⟩ := Session.exists_run_eq_report
    (hready.yields_steps (Session.yields_analyse rfl (List.cons_ne_nil _ _) hfiles))
  rw [hl]
  rfl

theorem run_of_joined_shop :
    let line := fun (name : String) ↦ Emit.lineBytes ("Analyzing project " ++ name)
    let inspection : Inspection := { target := boxTarget }
    let many := Session.run .standard crateFiles (crateCommand "kit.yaml" "parts")
    let one := Session.run .standard crateFiles (crateCommand "kit.yaml" "both")
    inspection.run (crateSolution ++ crateSolution) {} =
      .ok { projects := 2, treesScanned := 2, findings := 8 }
        { written := Session.lines crateLines ++ Session.lines crateLines } ∧
    bareInspection.run (crateSolution ++ emptySolution "Shop") {} =
      .error (.missingVersion "Kit.Since") { written := line "Crates" } ∧
    bareInspection.run (emptySolution "Shop" ++ crateSolution) {} =
      .error (.missingVersion "Kit.Since") { written := line "Shop" ++ line "Crates" } ∧
    ((["both"].foldlM (Session.stepFile .standard crateFiles inspection) {}).run.run {}).1 =
      ((["crates", "shop"].foldlM (Session.stepFile .standard crateFiles inspection) {}).run.run
        {}).1 ∧
    many.exitCode = 1 ∧ one.exitCode = 1 ∧
      Session.SameUpToBanner "parts" "both" many.stdout one.stdout := by
  intro line inspection many one
  have hempty : bareInspection.run (emptySolution "Shop") {} =
      .ok { projects := 1 } { written := line "Shop" } := rfl
  have hbox : bareInspection.run crateSolution {} =
      .error (.missingVersion "Kit.Since") { written := line "Crates" } := by
    have hfault : bareInspection.fault? crateSolution = some (.missingVersion "Kit.Since") := by
      decide +kernel
    have hwritten : bareInspection.written crateSolution = line "Crates" := by decide +kernel
    rw [Inspection.run_unlimited, hfault, hwritten]
    rfl
  obtain ⟨hruns, hloop, hsession⟩ := run_of_joined
  obtain ⟨hexit, -, -, hstdout⟩ :=
    hsession .standard crateFiles (crateCommand "kit.yaml" "parts") "parts" "both" "both" _ _ rfl
      (by decide) forall₂_readsAs_parts rfl readsAs_both
  exact ⟨(hruns _ _ _).1 _ _ _ _ run_crateSolution run_crateSolution, (hruns _ _ _).2.1 _ _ hbox,
    (hruns _ _ _).2.2 _ _ _ _ hempty hbox,
    (hloop _ _ _ _ _ _ _ forall₂_readsAs_parts readsAs_both {} [] [] []).1,
    exitCode_parts, hexit.trans exitCode_parts, hstdout⟩

end DeprecationLint
