import DeprecationLint.Json.Reader
import DeprecationLint.Snapshot.Tree

/-!
# Snapshots of solutions

A solution is a list of projects, and a project has a table of symbols that all of its source
files share.
-/

namespace DeprecationLint.Snapshot

open Document

/-- A project: its symbols, and the source files bound against them. -/
structure Project where
  /-- The project's name. -/
  name : String
  /-- The symbols of the project. -/
  symbols : SymbolTable
  /-- The source files, in order. -/
  trees : List Tree
  deriving DecidableEq, Repr

/-- A solution: projects in order. -/
structure Solution where
  /-- The projects. -/
  projects : List Project
  deriving DecidableEq, Repr

/-- The number of source files in all projects. -/
def Solution.treeCount (s : Solution) : Nat :=
  s.projects.foldl (fun n p ↦ n + p.trees.length) 0

/-- The table of symbols of a project. -/
def SymbolTable.read? (j : Json) : Option SymbolTable :=
  (listOf? Symbol.read? j).map SymbolTable.mk

/-- A project; all but its name may be missing. -/
def Project.read? (j : Json) : Option Project := do
  let fields ← fields? ["name", "symbols", "trees"] j
  return {
    name := ← fields.required? "name" text?
    symbols := ← fields.defaulted? "symbols" ⟨[]⟩ SymbolTable.read?
    trees := ← fields.defaulted? "trees" [] (listOf? Tree.read?) }

/-- A solution; its projects may be missing. -/
def Solution.read? (j : Json) : Option Solution := do
  let fields ← fields? ["projects"] j
  return { projects := ← fields.defaulted? "projects" [] (listOf? Project.read?) }

/-- The solution that a snapshot file describes. -/
def Solution.parse? (text : String) : Option Solution :=
  (Json.parse? text).bind Solution.read?

end DeprecationLint.Snapshot
