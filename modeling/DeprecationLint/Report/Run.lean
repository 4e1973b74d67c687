import DeprecationLint.Finding.Survey
import DeprecationLint.Report.Output
import DeprecationLint.Snapshot.Solution

/-!
# Runs over solutions

A run goes through the projects of a solution in order. It names each project, leaves out the
source files whose paths are excluded, surveys the others and writes their warnings. A file is
surveyed before any of its warnings is written, so a file that cannot be surveyed leaves nothing
but the lines before it.

The run counts what it did; the counts of several runs are added up.
-/

namespace DeprecationLint

open Platform Snapshot

/-- What a run did. -/
@[ext] structure Summary where
  /-- The projects that were gone through. -/
  projects : Nat := 0
  /-- The source files that were surveyed. -/
  treesScanned : Nat := 0
  /-- The source files that were left out. -/
  treesSkipped : Nat := 0
  /-- The warnings that were written. -/
  findings : Nat := 0
  deriving DecidableEq, Repr

/-- What two runs did together. -/
def Summary.merge (a b : Summary) : Summary where
  projects := a.projects + b.projects
  treesScanned := a.treesScanned + b.treesScanned
  treesSkipped := a.treesSkipped + b.treesSkipped
  findings := a.findings + b.findings

/-- What a run works with. -/
structure Inspection where
  /-- What programs are analysed against. -/
  target : Target
  /-- Is a path left out? -/
  excluded : String → Bool := fun _ ↦ false

namespace Inspection

/-- Is a source file left out? -/
def excludes (i : Inspection) (tree : Tree) : Bool :=
  i.excluded tree.path

/-- Surveys a source file and writes its warnings; the result is their number. -/
def runTree (i : Inspection) (table : SymbolTable) (tree : Tree) : Emit Nat := do
  let found ← Emit.ofExcept (survey i.target table tree)
  writeWarnings i.target table tree found.findings
  return found.size

/-- Goes on with a source file. -/
def stepTree (i : Inspection) (table : SymbolTable) (done : Summary) (tree : Tree) :
    Emit Summary :=
  if i.excludes tree then
    return { done with treesSkipped := done.treesSkipped + 1 }
  else do
    let found ← i.runTree table tree
    return { done with
      treesScanned := done.treesScanned + 1
      findings := done.findings + found }

/-- Goes on with a project. -/
def stepProject (i : Inspection) (done : Summary) (p : Project) : Emit Summary := do
  Emit.putLine ("Analyzing project " ++ p.name)
  p.trees.foldlM (i.stepTree p.symbols) { done with projects := done.projects + 1 }

/-- Goes through the projects of a solution. -/
def run (i : Inspection) (solution : Solution) : Emit Summary :=
  solution.projects.foldlM i.stepProject {}

end Inspection

end DeprecationLint
