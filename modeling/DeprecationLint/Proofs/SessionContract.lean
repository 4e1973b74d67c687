import DeprecationLint.Proofs.Composition
import DeprecationLint.Proofs.Readiness

/-!
# How sessions end

A session that lacks something is refused, and one that is ready goes through its snapshot files.
`GoesThrough` describes this by runs over one solution each, up to the first file that does not load
or that stops its run; the loop of the session does the same (`GoesThrough.exists_yields`).

`session_exitCode_stdout` is what comes of it: **the exit code and the whole standard output of
every session**.
-/

namespace DeprecationLint

open Platform Snapshot

theorem Sink.ending_inj {α : Type} {s s' : Sink} {r r' : Except Fault α} :
    s.ending r = s'.ending r' ↔ s = s' ∧ r = r' := by
  cases r <;> cases r' <;> simp [ending, and_comm]

namespace Session

variable {readers : Readers} {files : FileAccess Id} {command : Command}

/-! ### Snapshot files -/

/-- Going through snapshot files in order, by a run over the solution of each, writes a text and
comes to a number of findings, or to none if it is ended before. -/
inductive GoesThrough (readers : Readers) (files : FileAccess Id) (i : Inspection) :
    List String → List UInt8 → Option Nat → Prop
  /-- There are no more files. -/
  | done : GoesThrough readers files i [] [] (some 0)
  /-- A file that does not load is the last one. -/
  | notLoaded {path rest} (hload : ∀ solution, ¬ReadsAs files readers.solution? path solution) :
    GoesThrough readers files i (path :: rest) [] none
  /-- A file whose run fails is the last one; what the run has written stays written. -/
  | failed {path rest solution fault sink} (hload : ReadsAs files readers.solution? path solution)
      (hrun : i.run solution {} = .error fault sink) :
    GoesThrough readers files i (path :: rest) sink.written none
  /-- After a run that succeeds, the next file follows, and the findings are added up. -/
  | ran {path rest solution summary sink out found}
      (hload : ReadsAs files readers.solution? path solution)
      (hrun : i.run solution {} = .ok summary sink)
      (hrest : GoesThrough readers files i rest out found) :
    GoesThrough readers files i (path :: rest) (sink.written ++ out)
      (found.map (summary.findings + ·))

theorem exists_goesThrough (readers : Readers) (files : FileAccess Id) (i : Inspection)
    (paths : List String) :
    ∃ out found, GoesThrough readers files i paths out found := by
  induction paths with
  | nil => exact ⟨_, _, .done⟩
  | cons path rest ih =>
    obtain ⟨out, found, hrest⟩ := ih
    by_cases hload : ∃ solution, ReadsAs files readers.solution? path solution
    · obtain ⟨solution, hload⟩ := hload
      cases hrun : i.run solution {} with
      | ok summary sink => exact ⟨_, _, .ran hload hrun hrest⟩
      | error fault sink => exact ⟨_, _, .failed hload hrun⟩
    · exact ⟨_, _, .notLoaded fun solution h ↦ hload ⟨solution, h⟩⟩

/-- A file that does not load ends the session. -/
theorem exists_yields_loadSolution {path : String}
    (h : ∀ solution, ¬ReadsAs files readers.solution? path solution) :
    ∃ f, Yields (loadSolution readers files path) [] (.error (.failed f)) := by
  cases hread : files.readText path with
  | error reason =>
    have hask : Yields (ask (files.readText path)) [] (.ok (.error reason)) := hread ▸ yields_ask _
    exact ⟨_, hask.bind (yields_throw _)⟩
  | ok text =>
    have hask : Yields (ask (files.readText path)) [] (.ok (.ok text)) := hread ▸ yields_ask _
    have hparse : readers.solution? text = none :=
      Option.eq_none_iff_forall_ne_some.2 fun solution hs ↦ h solution ⟨text, hread, hs⟩
    refine ⟨.fault (.malformed path), hask.bind ?_⟩
    simp only [hparse]
    exact yields_throw _

/-- A file that loads adds what a run over its solution writes, and the counts of that run. -/
theorem yields_stepFile_of_run {i : Inspection} {path : String} {solution : Solution}
    {sink : Sink} {r : Except Fault Summary} (hload : ReadsAs files readers.solution? path solution)
    (hrun : i.run solution {} = sink.ending r) (done : Summary) :
    Yields (stepFile readers files i done path) sink.written (orStop (r.map done.merge)) := by
  have hstep := yields_stepFile (i := i) hload done
  rw [i.run_unlimited, List.nil_append, Sink.ending_inj] at hrun
  obtain ⟨rfl, rfl⟩ := hrun
  cases hfault : i.fault? solution <;> rwa [hfault] at hstep

/-- **The loop over snapshot files goes through them.** -/
theorem GoesThrough.exists_yields {i : Inspection} {paths : List String} {out : List UInt8}
    {found : Option Nat} (h : GoesThrough readers files i paths out found) (done : Summary) :
    ∃ r, Yields (paths.foldlM (stepFile readers files i) done) out r ∧
      r.toOption.map (·.findings) = found.map (done.findings + ·) := by
  -- the findings so far are in front of all others, and have to be arbitrary
  induction h generalizing done with
  | done => exact ⟨.ok done, yields_pure done, rfl⟩
  | notLoaded hload =>
    obtain ⟨f, hf⟩ := exists_yields_loadSolution hload
    rw [List.foldlM_cons]
    exact ⟨_, hf.bind_error.bind_error, rfl⟩
  | failed hload hrun =>
    rw [List.foldlM_cons]
    exact ⟨_, (yields_stepFile_of_run hload (r := .error _) hrun done).bind_error, rfl⟩
  | ran hload hrun _ ih =>
    obtain ⟨r, hr, hfindings⟩ := ih (done.merge _)
    rw [List.foldlM_cons]
    refine ⟨r, (yields_stepFile_of_run hload (r := .ok _) hrun done).bind hr, ?_⟩
    rw [hfindings, Option.map_map]
    simp only [Summary.merge, Function.comp_def, Nat.add_assoc]

/-! ### Ends -/

/-- The notice that there are no snapshot files. -/
def emptyNotice : String :=
  "No snapshot files to analyze"

/-- The exit code after some findings; without a number of them the analysis was ended before. -/
def findingsCode : Option Nat → Nat
  | none => 2
  | some 0 => 0
  | some (_ + 1) => 1

/-- The exit code of a session that comes to a result. -/
def resultCode : Except Stop Verdict → Nat
  | .ok verdict => verdict.code
  | .error _ => 2

theorem exitCode_and_stdout_run {out : List UInt8} {r : Except Stop Verdict}
    (h : Yields (steps readers files command) out r) :
    (run readers files command).exitCode = resultCode r ∧
      (run readers files command).stdout = out := by
  obtain ⟨l, hl⟩ := exists_run_eq_report h
  rw [hl]
  refine ⟨?_, stdout_report r _⟩
  rcases r with (_ | _) | _ <;> rfl

theorem Ready.exitCode_and_stdout_run {s : Start} (h : Ready readers files command s)
    {out : List UInt8} {r : Except Stop Verdict}
    (hr : Yields (analyse readers files s.toPreparation s.solutionPath)
      (Text.bytes (banner s.target s.modulePath s.solutionPath) ++ out) r) :
    (run readers files command).exitCode = resultCode r ∧
      (run readers files command).stdout = lines (notices command s.settings) ++
        Text.bytes (banner s.target s.modulePath s.solutionPath) ++ out := by
  rw [List.append_assoc]
  exact Session.exitCode_and_stdout_run (h.yields_steps hr)

/-- **Findings decide on the exit code**, if all snapshot files can be gone through. -/
theorem exists_yields_inspectFiles_of_goesThrough {p : Preparation} {excluded : String → Bool}
    {paths : List String} {out : List UInt8} {found : Option Nat}
    (hexcluded : p.settings.exclusions readers.patterns = .ok excluded)
    (h : GoesThrough readers files { target := p.target, excluded } paths out found) :
    ∃ r, Yields (inspectFiles readers files p paths) out r ∧ resultCode r = findingsCode found := by
  obtain ⟨r, hr, hfindings⟩ := h.exists_yields {}
  rw [inspectFiles, hexcluded]
  cases r with
  | error stop =>
    have hnone : found = none := by simpa [Except.toOption] using hfindings.symm
    exact ⟨_, hr.bind_error, by rw [hnone]; rfl⟩
  | ok summary =>
    have hsome : found = some summary.findings := by simpa [Except.toOption] using hfindings.symm
    refine ⟨_, Yields.bind_silent (o := none) hr (yields_pure _), ?_⟩
    rw [hsome]
    cases summary.findings <;> rfl

theorem yields_analyse_of_empty {p : Preparation} {path : String}
    (hpaths : files.snapshots path = .ok []) :
    Yields (analyse readers files p path)
      (Text.bytes (banner p.target p.modulePath path) ++ lines [emptyNotice]) (.ok .clean) := by
  have hbanner :=
    yields_emit (Emit.writes_putBytes (Text.bytes (banner p.target p.modulePath path)))
  refine ((settles_collect files path).yields hpaths).bind (hbanner.bind ?_)
  exact Yields.bind_silent (o := none) (yields_notice_lines emptyNotice) (yields_pure _)

end Session

theorem goesThrough_parts :
    Session.GoesThrough .standard crateFiles { target := boxTarget } ["crates", "shop"]
      (Session.lines (crateLines ++ ["Analyzing project Shop"])) (some 4) := by
  have hshop := Session.GoesThrough.ran readsAs_shop (run_emptySolution boxTarget "Shop") .done
  rw [List.append_nil] at hshop
  rw [Session.lines_append]
  exact .ran readsAs_crates run_crateSolution hshop

/-- The second of three files is not there. -/
theorem goesThrough_torn :
    Session.GoesThrough .standard crateFiles { target := boxTarget } ["crates", "gone", "shop"]
      (Session.lines crateLines) none := by
  have hgone : Session.GoesThrough .standard crateFiles { target := boxTarget } ["gone", "shop"] []
      none :=
    .notLoaded fun _ ↦ Session.not_readsAs (rfl : crateFiles.readText "gone" = .error .notFound) _
  rw [← List.append_nil (Session.lines crateLines)]
  exact .ran readsAs_crates run_crateSolution hgone

end DeprecationLint
