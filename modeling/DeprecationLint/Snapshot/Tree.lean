import DeprecationLint.Snapshot.Symbol
import DeprecationLint.Text.Bytes

/-!
# Source trees of a program

A source file is given by its path, its text and its nodes in document order. A node refers to its
parent and to symbols by number. Where a number is given to several nodes, the last of them has it,
and the number still occurs once for each of them in document order.
-/

namespace DeprecationLint.Snapshot

open Document

/-- The number of a node in its tree. -/
structure NodeId where
  /-- The number itself. -/
  number : UInt32
  deriving DecidableEq, Repr

/-- What a node of a source tree is. -/
inductive NodeKind where
  | propertyDeclaration
  | methodDeclaration
  | variableDeclarator
  | memberAccess
  | identifier
  | other
  deriving DecidableEq, Repr

namespace NodeKind

/-- The word for a kind of node. -/
def name : NodeKind → String
  | .propertyDeclaration => "property_declaration"
  | .methodDeclaration => "method_declaration"
  | .variableDeclarator => "variable_declarator"
  | .memberAccess => "member_access_expression"
  | .identifier => "identifier_name"
  | .other => "other"

/-- The kind of node that a word stands for; a word of no kind stands for `other`. -/
def ofName : String → NodeKind
  | "property_declaration" => .propertyDeclaration
  | "method_declaration" => .methodDeclaration
  | "variable_declarator" => .variableDeclarator
  | "member_access_expression" => .memberAccess
  | "identifier_name" => .identifier
  | _ => .other

@[simp] theorem ofName_name (k : NodeKind) : ofName k.name = k := by
  cases k <;> rfl

end NodeKind

/-- A node of a source tree. -/
structure Node where
  /-- The node's number. -/
  id : NodeId
  /-- What the node is. -/
  kind : NodeKind
  /-- The byte at which the node starts. -/
  start : UInt64
  /-- The number of bytes that the node covers. -/
  length : UInt64
  /-- The node around this one. -/
  parent : Option NodeId
  /-- The symbol that a declaration introduces. -/
  declared : Option SymbolId
  /-- The symbol that an expression refers to. -/
  symbol : Option SymbolId
  /-- The symbols that an ambiguous expression may refer to, best first. -/
  candidates : List SymbolId
  deriving DecidableEq, Repr

/-- The symbol that an expression refers to, or the best guess at it. -/
def Node.bestSymbol (n : Node) : Option SymbolId :=
  n.symbol.or n.candidates.head?

/-- A source file. -/
structure Tree where
  /-- The path of the file. -/
  path : String
  /-- The text of the file. -/
  text : String
  /-- The nodes, in document order. -/
  nodes : List Node
  deriving DecidableEq, Repr

namespace Tree

/-- The node with a number: the last one that has it. -/
def node? (tree : Tree) (id : NodeId) : Option Node :=
  tree.nodes.reverse.find? (·.id == id)

/-- The numbers of all nodes, in document order. -/
def nodeIds (tree : Tree) : List NodeId :=
  tree.nodes.map (·.id)

/-- The nodes that a list of numbers leads to, each with its number. -/
def nodesAt (tree : Tree) (ids : List NodeId) : List Node :=
  ids.filterMap tree.node?

/-- The nodes of a kind, in document order: for each number, the node that has it. -/
def nodesOfKind (tree : Tree) (kind : NodeKind) : List Node :=
  (tree.nodesAt tree.nodeIds).filter (·.kind == kind)

/-- The parent of the node with a number. -/
def parent? (tree : Tree) (id : NodeId) : Option NodeId :=
  (tree.node? id).bind (·.parent)

/-- The line on which a byte of the file lies. -/
def lineOf (tree : Tree) (offset : Nat) : Nat :=
  (Text.LineIndex.ofText tree.text).lineOf offset

/-- A node found under a number has that number. -/
theorem id_of_node? {tree : Tree} {id : NodeId} {n : Node} (h : tree.node? id = some n) :
    n.id = id := by
  simpa using List.find?_some h

/-- A node found under a number is in the tree. -/
theorem mem_nodes_of_node? {tree : Tree} {id : NodeId} {n : Node} (h : tree.node? id = some n) :
    n ∈ tree.nodes := by
  simpa using List.mem_of_find?_eq_some h

/-- A number leads nowhere exactly when no node has it. -/
theorem node?_eq_none_iff {tree : Tree} {id : NodeId} :
    tree.node? id = none ↔ ∀ n ∈ tree.nodes, n.id ≠ id := by
  simp [node?]

end Tree

/-! ### Reading and writing -/

/-- The number of a node. -/
def NodeId.read? (j : Json) : Option NodeId :=
  (word32? j).map NodeId.mk

/-- The JSON form of a node's number. -/
def NodeId.toJson (id : NodeId) : Json :=
  .number (.integer id.number.toNat)

/-- A kind of node, by its word. -/
def NodeKind.read? (j : Json) : Option NodeKind :=
  (choice? j).map NodeKind.ofName

/-- The fields of a node, in the order of their declaration. -/
def Node.fieldNames : List String :=
  ["id", "kind", "start", "length", "parent", "declared", "symbol", "candidates"]

/-- A node. -/
def Node.read? (j : Json) : Option Node := do
  let fields ← fields? Node.fieldNames j
  return {
    id := ← fields.required? "id" NodeId.read?
    kind := ← fields.required? "kind" NodeKind.read?
    start := ← fields.required? "start" word64?
    length := ← fields.required? "length" word64?
    parent := ← fields.optional? "parent" NodeId.read?
    declared := ← fields.optional? "declared" SymbolId.read?
    symbol := ← fields.optional? "symbol" SymbolId.read?
    candidates := ← fields.defaulted? "candidates" [] (listOf? SymbolId.read?) }

/-- The JSON form of a node; what it does not have is left out. -/
def Node.toJson (n : Node) : Json :=
  .object (
    [("id", n.id.toJson), ("kind", .text n.kind.name), ("start", .number (.ofUnsigned n.start)),
      ("length", .number (.ofUnsigned n.length))]
    ++ (n.parent.map fun p ↦ ("parent", p.toJson)).toList
    ++ (n.declared.map fun s ↦ ("declared", s.toJson)).toList
    ++ (n.symbol.map fun s ↦ ("symbol", s.toJson)).toList
    ++ if n.candidates.isEmpty then []
      else [("candidates", .list (n.candidates.map SymbolId.toJson))])

/-- A source file; its text and its nodes may be missing. -/
def Tree.read? (j : Json) : Option Tree := do
  let fields ← fields? ["path", "text", "nodes"] j
  return {
    path := ← fields.required? "path" text?
    text := ← fields.defaulted? "text" "" text?
    nodes := ← fields.defaulted? "nodes" [] (listOf? Node.read?) }

end DeprecationLint.Snapshot
