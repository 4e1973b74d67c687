import DeprecationLint.Snapshot.Tree

/-!
# Findings

A finding is a use of something deprecated: the node that uses it, the symbol that is used, and
the version that deprecated it. Findings are kept in the order in which they were made.

A member access holds the identifier of the member, so both would be reported. A finding is covered
by others when one of those lies at its direct parent; nothing farther up is looked at.
-/

namespace DeprecationLint

open Snapshot

/-- A use of something deprecated. -/
structure Finding where
  /-- The node that uses the symbol. -/
  node : NodeId
  /-- The symbol that is used. -/
  symbol : SymbolId
  /-- The version that deprecated the symbol. -/
  version : UInt64
  deriving DecidableEq, Repr

/-- Findings, in the order in which they were made. -/
abbrev Findings := List Finding

namespace Findings

/-- Is there a finding at a node? -/
def containsNode (fs : Findings) (node : NodeId) : Bool :=
  fs.any (·.node == node)

theorem containsNode_iff {fs : Findings} {node : NodeId} :
    fs.containsNode node = true ↔ ∃ f ∈ fs, f.node = node := by
  simp [containsNode]

end Findings

/-- The four ways of using something deprecated, each with a list of findings of its own. -/
inductive UseKind where
  /-- Overriding a member. -/
  | typeDeclaration
  /-- Declaring a variable of a type. -/
  | variableDeclaration
  /-- Reaching for a member of a value. -/
  | memberAccess
  /-- Naming a member. -/
  | identifier
  deriving DecidableEq, Repr

/-- The kinds of use, in the order of their report. -/
def UseKind.all : List UseKind :=
  [.typeDeclaration, .variableDeclaration, .memberAccess, .identifier]

/-! ### Overlapping findings -/

namespace Findings

/-- Does one of the findings lie at the direct parent of a node? -/
def covers (base : Findings) (tree : Tree) (node : NodeId) : Bool :=
  match tree.parent? node with
  | some parent => base.containsNode parent
  | none => false

/-- The findings that are not covered by others. -/
def dropCovered (base : Findings) (tree : Tree) (fs : Findings) : Findings :=
  fs.filter fun f ↦ !base.covers tree f.node

/-- The number of findings that are covered by others. -/
def countCovered (base : Findings) (tree : Tree) (fs : Findings) : Nat :=
  fs.countP fun f ↦ base.covers tree f.node

theorem mem_dropCovered {base fs : Findings} {tree : Tree} {f : Finding} :
    f ∈ dropCovered base tree fs ↔ f ∈ fs ∧ base.covers tree f.node = false := by
  simp [dropCovered]

/-- What is covered and what is not add up. -/
theorem countCovered_add_length_dropCovered (base fs : Findings) (tree : Tree) :
    base.countCovered tree fs + (base.dropCovered tree fs).length = fs.length := by
  rw [dropCovered, ← List.countP_eq_length_filter, countCovered,
    List.length_eq_countP_add_countP fun f : Finding ↦ base.covers tree f.node]
  simp

end Findings

end DeprecationLint
