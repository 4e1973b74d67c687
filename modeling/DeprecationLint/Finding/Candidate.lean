import DeprecationLint.Finding.Basic
import DeprecationLint.Text.Bytes

/-!
# Candidates for findings

Before it is known what is deprecated, the nodes of a tree are narrowed down to those that use a
symbol in one of the four ways. A candidate is such a node with the symbol it would be reported
under and the type that decides whether it is looked at.

Candidates come in document order, except that overriding declarations are grouped by the type
they belong to: types by name, those of one name by first appearance, and in each group properties
before methods.
-/

namespace DeprecationLint

open Snapshot

/-- Induction along `eraseDups`: from a list without the repetitions of its head to the whole
list. -/
theorem eraseDups_induction {α : Type} [BEq α] {motive : List α → Prop} (nil : motive [])
    (cons : ∀ a l, motive (l.filter fun b ↦ !b == a) → motive (a :: l)) (l : List α) :
    motive l :=
  match l with
  | [] => nil
  | a :: l => cons a l (eraseDups_induction nil cons (l.filter fun b ↦ !b == a))
  termination_by l.length
  decreasing_by exact Nat.lt_succ_of_le (List.length_filter_le _ l)

/-- What the deprecation of a candidate is looked up as. -/
inductive Lookup where
  | member
  | type
  deriving DecidableEq, Repr

/-- A node that may turn out to use something deprecated. -/
structure Candidate where
  /-- The node. -/
  node : NodeId
  /-- The symbol that the node would be reported under. -/
  symbol : SymbolId
  /-- The type that has to be a descendant of the root. -/
  owner : Option SymbolId
  /-- What the symbol is looked up as. -/
  lookup : Lookup
  deriving DecidableEq, Repr

namespace Candidate

/-- A declaration of an overriding member of a kind, for a declaring node. -/
def override? (table : SymbolTable) (kind : SymbolKind) (n : Node) : Option Candidate := do
  let id ← n.declared
  let s ← table.get? id
  guard (s.kind = kind ∧ s.isOverride)
  let owner ← s.containingType
  return { node := n.id, symbol := id, owner := some owner, lookup := .member }

/-- The declarations of overriding properties, then those of overriding methods. -/
def overrides (table : SymbolTable) (tree : Tree) : List Candidate :=
  (tree.nodesOfKind .propertyDeclaration).filterMap (override? table .property)
    ++ (tree.nodesOfKind .methodDeclaration).filterMap (override? table .method)

/-- The name by which an owner is sorted; one that leads nowhere has the empty name. -/
def ownerName (table : SymbolTable) (owner : Option SymbolId) : String :=
  ((owner.bind table.get?).map (·.name)).getD ""

/-- The owners of candidates, by name, and by first appearance among equal names. -/
def owners (table : SymbolTable) (cs : List Candidate) : List (Option SymbolId) :=
  (cs.map (·.owner)).eraseDups.mergeSort fun a b ↦
    Text.bytesLe (ownerName table a) (ownerName table b)

/-- Candidates in groups of one owner each, the groups in the order of their owners. -/
def grouped (table : SymbolTable) (cs : List Candidate) : List Candidate :=
  (owners table cs).flatMap fun owner ↦ cs.filter (·.owner == owner)

/-- A declaration of a variable, reported under the type of the variable. -/
def declarator? (table : SymbolTable) (n : Node) : Option Candidate := do
  let s ← n.declared.bind table.get?
  guard s.kind.isVariable
  let type ← s.declaredType
  return { node := n.id, symbol := type, owner := some type, lookup := .type }

/-- A reference to a method or property. -/
def reference? (table : SymbolTable) (n : Node) (referred : Option SymbolId) :
    Option Candidate := do
  let id ← referred
  let s ← table.get? id
  guard s.kind.isMember
  return { node := n.id, symbol := id, owner := s.containingType, lookup := .member }

/-- The candidates of a tree for a kind of use. A member access counts only if its symbol is
certain; a bare identifier may also count for its best guess. -/
def ofTree (table : SymbolTable) (tree : Tree) : UseKind → List Candidate
  | .typeDeclaration => grouped table (overrides table tree)
  | .variableDeclaration => (tree.nodesOfKind .variableDeclarator).filterMap (declarator? table)
  | .memberAccess =>
    (tree.nodesOfKind .memberAccess).filterMap fun n ↦ reference? table n n.symbol
  | .identifier =>
    (tree.nodesOfKind .identifier).filterMap fun n ↦ reference? table n n.bestSymbol

end Candidate

end DeprecationLint
