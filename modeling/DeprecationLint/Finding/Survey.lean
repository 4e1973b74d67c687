import DeprecationLint.Availability
import DeprecationLint.Finding.Basic
import DeprecationLint.Finding.Candidate

/-!
# Surveys of trees

A scan turns the candidates of one kind of use into findings; it stops at the first malformed
attribute. A survey of a tree makes the four scans in the order of their report, and then leaves
out the identifiers that a member access or a variable declaration already covers.
-/

namespace DeprecationLint

open Platform Snapshot

/-- The version in which the symbol of a candidate was deprecated, if that is worth a report. -/
def Candidate.deprecation (target : Target) (table : SymbolTable) (c : Candidate) :
    Except Fault (Option UInt64) :=
  match c.lookup with
  | .member => memberDeprecation target table c.symbol
  | .type => typeDeprecation target table c.symbol

/-- The finding that a candidate turns out to be, if any. -/
def Candidate.finding? (target : Target) (table : SymbolTable) (c : Candidate) :
    Except Fault (Option Finding) :=
  if isDescendant target table c.owner then do
    let version ← c.deprecation target table
    return version.map fun v ↦ { node := c.node, symbol := c.symbol, version := v }
  else return none

/-- The findings of one kind of use in a tree. -/
def scan (target : Target) (table : SymbolTable) (tree : Tree) (kind : UseKind) :
    Except Fault Findings := do
  let found ← (Candidate.ofTree table tree kind).mapM (Candidate.finding? target table)
  return found.filterMap id

/-- The findings in a tree, by kind of use. -/
structure Survey where
  /-- Overriding declarations. -/
  typeDeclarations : Findings
  /-- Variable declarations. -/
  variableDeclarations : Findings
  /-- Member accesses. -/
  memberAccesses : Findings
  /-- Identifiers that nothing else covers. -/
  identifiers : Findings
  deriving DecidableEq, Repr

namespace Survey

/-- The findings of a kind. -/
def ofKind (s : Survey) : UseKind → Findings
  | .typeDeclaration => s.typeDeclarations
  | .variableDeclaration => s.variableDeclarations
  | .memberAccess => s.memberAccesses
  | .identifier => s.identifiers

/-- All findings, in the order of their report. -/
def findings (s : Survey) : Findings :=
  UseKind.all.flatMap s.ofKind

/-- The number of findings. -/
def size (s : Survey) : Nat :=
  UseKind.all.foldl (fun n k ↦ n + (s.ofKind k).length) 0

theorem size_eq (s : Survey) : s.size = s.findings.length := by
  simp only [size, findings, UseKind.all, List.foldl_cons, List.foldl_nil, List.flatMap_cons,
    List.flatMap_nil, List.length_append, List.length_nil]
  omega

end Survey

/-- The findings in a tree. -/
def survey (target : Target) (table : SymbolTable) (tree : Tree) : Except Fault Survey := do
  let typeDeclarations ← scan target table tree .typeDeclaration
  let variableDeclarations ← scan target table tree .variableDeclaration
  let memberAccesses ← scan target table tree .memberAccess
  let identifiers ← scan target table tree .identifier
  let identifiers := memberAccesses.dropCovered tree identifiers
  let identifiers := variableDeclarations.dropCovered tree identifiers
  return { typeDeclarations, variableDeclarations, memberAccesses, identifiers }

end DeprecationLint
