import DeprecationLint.Proofs.Lineage
import DeprecationLint.Proofs.Scan
import DeprecationLint.Report.Output
import Mathlib.Logic.Function.Basic

/-!
# Surveys of renamed snapshots

Symbols and nodes are referred to by number, and the numbers mean nothing beyond which of them are
equal. To rename a snapshot is to put other numbers for its symbols, and for the nodes of each
source file, wherever they stand, those that lead nowhere included.

`SymbolTable.Renames` is what the theory needs of a renamed table: **lookups commute with the
renaming**, and the table has as many symbols. A table whose symbols stand in another order is the
case where nothing is renamed, so reordering comes along for free. From there each step of a survey
commutes with the renaming, up to `Renames.surveyFault?_eq` and `Renames.surveyed_eq`.
-/

namespace DeprecationLint

open Platform Snapshot

/-! ### Renaming -/

namespace Snapshot

variable {ρ : SymbolId → SymbolId} {σ : NodeId → NodeId}

/-- A symbol with other numbers for itself and for the symbols that it refers to. -/
def Symbol.rename (ρ : SymbolId → SymbolId) (s : Symbol) : Symbol :=
  { s with
    id := ρ s.id
    containingType := s.containingType.map ρ
    baseType := s.baseType.map ρ
    declaredType := s.declaredType.map ρ }

/-- A table with other numbers for its symbols. -/
def SymbolTable.rename (ρ : SymbolId → SymbolId) (table : SymbolTable) : SymbolTable where
  symbols := table.symbols.map (Symbol.rename ρ)

/-- A node with other numbers for itself, its parent and the symbols that it refers to. -/
def Node.rename (ρ : SymbolId → SymbolId) (σ : NodeId → NodeId) (n : Node) : Node :=
  { n with
    id := σ n.id
    parent := n.parent.map σ
    declared := n.declared.map ρ
    symbol := n.symbol.map ρ
    candidates := n.candidates.map ρ }

/-- A source file with other numbers for its nodes and the symbols that they refer to. -/
def Tree.rename (ρ : SymbolId → SymbolId) (σ : NodeId → NodeId) (tree : Tree) : Tree :=
  { tree with nodes := tree.nodes.map (Node.rename ρ σ) }

theorem Symbol.id_rename (ρ : SymbolId → SymbolId) (s : Symbol) : (s.rename ρ).id = ρ s.id :=
  rfl

theorem Node.id_rename (ρ : SymbolId → SymbolId) (σ : NodeId → NodeId) (n : Node) :
    (n.rename ρ σ).id = σ n.id :=
  rfl

@[simp] theorem symbol_rename_id : Symbol.rename id = id := by
  funext s
  simp [Symbol.rename]

@[simp] theorem node_rename_id : Node.rename id id = id := by
  funext n
  simp [Node.rename]

@[simp] theorem Tree.rename_id (tree : Tree) : tree.rename id id = tree := by
  simp [rename]

/-! ### Lookups -/

/-- The numbers of a table are those of another one, renamed: lookups agree, and there are as many
symbols. -/
structure SymbolTable.Renames (ρ : SymbolId → SymbolId) (table table' : SymbolTable) : Prop where
  /-- Different numbers stay different. -/
  injective : Function.Injective ρ
  /-- A number leads to the symbol that it led to before. -/
  get?_eq : ∀ id, table'.get? (ρ id) = (table.get? id).map (Symbol.rename ρ)
  /-- There are as many symbols. -/
  length_eq : table'.symbols.length = table.symbols.length

/-- A search for the last element with a key, under a change of elements and keys. -/
theorem find?_reverse_map {α κ : Type} [DecidableEq κ] {key : α → κ} {f : α → α} {r : κ → κ}
    (hr : Function.Injective r) (hkey : ∀ a, key (f a) = r (key a)) (l : List α) (k : κ) :
    (l.map f).reverse.find? (key · == r k) = (l.reverse.find? (key · == k)).map f := by
  have hcomp : (key · == r k) ∘ f = (key · == k) :=
    funext fun a ↦ Bool.eq_iff_iff.2 (by simp [hkey, hr.eq_iff])
  rw [← List.map_reverse, List.find?_map, hcomp]

/-- A renamed table renames. -/
theorem SymbolTable.renames_rename (hρ : Function.Injective ρ) (table : SymbolTable) :
    table.Renames ρ (table.rename ρ) where
  injective := hρ
  get?_eq id := find?_reverse_map hρ (Symbol.id_rename ρ) table.symbols id
  length_eq := List.length_map _

/-- Where numbers are different, each leads to the only symbol that has it. -/
theorem SymbolTable.get?_eq_some_iff_mem {table : SymbolTable} {id : SymbolId} {s : Symbol}
    (hnodup : (table.symbols.map (·.id)).Nodup) :
    table.get? id = some s ↔ s ∈ table.symbols ∧ s.id = id := by
  constructor
  · intro h
    exact ⟨mem_symbols_of_get? h, id_of_get? h⟩
  · rintro ⟨hs, rfl⟩
    cases h : table.get? s.id with
    | none => exact absurd rfl (get?_eq_none_iff.1 h s hs)
    | some s' =>
      rw [List.inj_on_of_nodup_map hnodup (mem_symbols_of_get? h) hs (id_of_get? h)]

/-- **The order of the symbols does not matter where their numbers are different.** -/
theorem SymbolTable.renames_of_perm {table table' : SymbolTable}
    (hperm : table.symbols.Perm table'.symbols) (hnodup : (table.symbols.map (·.id)).Nodup) :
    table.Renames id table' where
  injective := Function.injective_id
  get?_eq number := by
    have hnodup' : (table'.symbols.map (·.id)).Nodup :=
      (hperm.map (·.id)).nodup_iff.1 hnodup
    rw [symbol_rename_id, Option.map_id, id, id]
    ext s
    rw [get?_eq_some_iff_mem hnodup, get?_eq_some_iff_mem hnodup', hperm.mem_iff]
  length_eq := hperm.length_eq.symm

theorem Tree.node?_rename (hσ : Function.Injective σ) (tree : Tree) (id : NodeId) :
    (tree.rename ρ σ).node? (σ id) = (tree.node? id).map (Node.rename ρ σ) :=
  find?_reverse_map hσ (Node.id_rename ρ σ) tree.nodes id

theorem Tree.parent?_rename (hσ : Function.Injective σ) (tree : Tree) (id : NodeId) :
    (tree.rename ρ σ).parent? (σ id) = (tree.parent? id).map σ := by
  rw [parent?, parent?, node?_rename hσ]
  cases tree.node? id <;> rfl

theorem Tree.nodesOfKind_rename (hσ : Function.Injective σ) (tree : Tree) (kind : NodeKind) :
    (tree.rename ρ σ).nodesOfKind kind = (tree.nodesOfKind kind).map (Node.rename ρ σ) := by
  have hnode : (tree.rename ρ σ).node? ∘ σ = fun id ↦ (tree.node? id).map (Node.rename ρ σ) :=
    funext (node?_rename hσ tree)
  have hids : (tree.rename ρ σ).nodeIds = tree.nodeIds.map σ := by
    simp [nodeIds, rename, Node.rename]
  rw [nodesOfKind, nodesAt, hids, List.filterMap_map, hnode, ← List.map_filterMap,
    List.filter_map]
  rfl

end Snapshot

/-! ### Attributes -/

namespace Snapshot.SymbolTable.Renames

variable {ρ : SymbolId → SymbolId} {table table' : SymbolTable} (h : table.Renames ρ table')
  (target : Target)

include h

theorem get?_bind_eq (start : Option SymbolId) :
    (start.map ρ).bind table'.get? = (start.bind table.get?).map (Symbol.rename ρ) := by
  cases start with
  | none => rfl
  | some id => exact h.get?_eq id

theorem base?_eq (s : Symbol) :
    table'.base? (s.rename ρ) = (table.base? s).map (Symbol.rename ρ) :=
  h.get?_bind_eq s.baseType

/-- **A renamed type has the renamed bases.** -/
theorem bases_eq (start : Option SymbolId) :
    table'.bases (start.map ρ) = (table.bases start).map (Symbol.rename ρ) := by
  rw [bases, bases, h.get?_bind_eq, h.length_eq]
  exact map_lineage h.injective (Symbol.id_rename ρ) h.base?_eq _ _

theorem isDescendant_eq (type : Option SymbolId) :
    isDescendant target table' (type.map ρ) = isDescendant target table type := by
  rw [isDescendant, isDescendant, h.get?_bind_eq, h.bases_eq, List.any_map]
  cases type.bind table.get? <;> rfl

theorem platformBases_eq (start : Option SymbolId) :
    platformBases target table' (start.map ρ) = platformBases target table start := by
  rw [platformBases, platformBases, nearestPlatformType?, nearestPlatformType?, h.bases_eq,
    List.find?_map, Option.bind_map]
  rfl

theorem memberAttribute?_eq (member : SymbolId) (kind : MemberKind) :
    memberAttribute? target table' (ρ member) kind =
      memberAttribute? target table member kind := by
  rw [memberAttribute?, memberAttribute?, h.get?_eq]
  cases table.get? member with
  | none => rfl
  | some s =>
    show (platformBases target table' (s.containingType.map ρ)).findSome? _ = _
    rw [h.platformBases_eq]
    rfl

theorem typeAttribute?_eq (type : SymbolId) :
    typeAttribute? target table' (ρ type) = typeAttribute? target table type := by
  rw [typeAttribute?, typeAttribute?, ← h.platformBases_eq, Option.map_some]

end Snapshot.SymbolTable.Renames

/-! ### Candidates -/

/-- A candidate with other numbers for its node and its symbols. -/
def Candidate.rename (ρ : SymbolId → SymbolId) (σ : NodeId → NodeId) (c : Candidate) :
    Candidate :=
  { c with node := σ c.node, symbol := ρ c.symbol, owner := c.owner.map ρ }

/-- A finding with other numbers for its node and its symbol. -/
def Finding.rename (ρ : SymbolId → SymbolId) (σ : NodeId → NodeId) (f : Finding) : Finding :=
  { f with node := σ f.node, symbol := ρ f.symbol }

/-- What is picked among the nodes of a kind, under a renaming that the picking respects. -/
theorem Snapshot.Tree.filterMap_nodesOfKind_rename {ρ : SymbolId → SymbolId}
    {σ : NodeId → NodeId} (hσ : Function.Injective σ) {pick pick' : Node → Option Candidate}
    (h : ∀ n, pick' (n.rename ρ σ) = (pick n).map (Candidate.rename ρ σ)) (tree : Tree)
    (kind : NodeKind) :
    ((tree.rename ρ σ).nodesOfKind kind).filterMap pick' =
      ((tree.nodesOfKind kind).filterMap pick).map (Candidate.rename ρ σ) := by
  rw [nodesOfKind_rename hσ, List.filterMap_map, List.map_filterMap]
  exact congrArg (List.filterMap · _) (funext h)

/-- A list without its repetitions, under a change that keeps different elements different. -/
theorem eraseDups_map_of_injective {α β : Type} [BEq α] [LawfulBEq α] [BEq β] [LawfulBEq β]
    {f : α → β} (hf : Function.Injective f) (l : List α) :
    (l.map f).eraseDups = l.eraseDups.map f := by
  induction l using eraseDups_induction with
  | nil => rfl
  | cons a l ih =>
    have hne : (fun b ↦ !b == f a) ∘ f = fun b ↦ !b == a :=
      funext fun b ↦ Bool.eq_iff_iff.2 (by simp [hf.eq_iff])
    rw [List.map_cons, List.eraseDups_cons, List.eraseDups_cons, List.map_cons, List.filter_map,
      hne, ih]

namespace Snapshot.SymbolTable.Renames

variable {ρ : SymbolId → SymbolId} {σ : NodeId → NodeId} {table table' : SymbolTable}
  (h : table.Renames ρ table') (target : Target)

include h

theorem attribute?_eq (c : Candidate) :
    (c.rename ρ σ).attribute? target table' = c.attribute? target table := by
  rcases c with ⟨node, symbol, owner, - | -⟩
  · show ((table'.get? (ρ symbol)).bind fun s ↦ memberKind? s.kind).bind
      (memberAttribute? target table' (ρ symbol)) = _
    rw [h.get?_eq, Option.bind_map, funext (h.memberAttribute?_eq target symbol)]
    rfl
  · exact h.typeAttribute?_eq target symbol

theorem decisive?_eq (c : Candidate) :
    (c.rename ρ σ).decisive? target table' = c.decisive? target table := by
  have howner : isDescendant target table' (c.rename ρ σ).owner =
      isDescendant target table c.owner := h.isDescendant_eq target c.owner
  rw [Candidate.decisive?, Candidate.decisive?, howner, h.attribute?_eq]

theorem fault?_eq (c : Candidate) :
    (c.rename ρ σ).fault? target table' = c.fault? target table := by
  rw [Candidate.fault?, Candidate.fault?, h.decisive?_eq]

theorem found?_eq (c : Candidate) :
    (c.rename ρ σ).found? target table' = (c.found? target table).map (Finding.rename ρ σ) := by
  rw [Candidate.found?, Candidate.found?, h.decisive?_eq, Option.map_map]
  rfl

theorem override?_eq (kind : SymbolKind) (n : Node) :
    Candidate.override? table' kind (n.rename ρ σ) =
      (Candidate.override? table kind n).map (Candidate.rename ρ σ) := by
  rcases n with ⟨node, -, -, -, -, - | id, -, -⟩
  · rfl
  · simp only [Candidate.override?, Node.rename, Option.map_some, Option.bind_eq_bind,
      Option.bind_some, h.get?_eq]
    rcases table.get? id with - | s
    · rfl
    · by_cases hs : s.kind = kind ∧ s.isOverride
      · rcases howner : s.containingType <;> simp [Symbol.rename, hs, howner, Candidate.rename]
      · simp [Symbol.rename, hs]

theorem declarator?_eq (n : Node) :
    Candidate.declarator? table' (n.rename ρ σ) =
      (Candidate.declarator? table n).map (Candidate.rename ρ σ) := by
  simp only [Candidate.declarator?, Node.rename, h.get?_bind_eq]
  rcases n.declared.bind table.get? with - | s
  · rfl
  · by_cases hs : s.kind.isVariable
    · rcases htype : s.declaredType <;> simp [Symbol.rename, hs, htype, Candidate.rename]
    · simp [Symbol.rename, hs]

theorem reference?_eq (n : Node) (referred : Option SymbolId) :
    Candidate.reference? table' (n.rename ρ σ) (referred.map ρ) =
      (Candidate.reference? table n referred).map (Candidate.rename ρ σ) := by
  rcases referred with - | id
  · rfl
  · simp only [Candidate.reference?, Node.rename, Option.map_some, Option.bind_eq_bind,
      Option.bind_some, h.get?_eq]
    rcases table.get? id with - | s
    · rfl
    · by_cases hs : s.kind.isMember
      · simp [Symbol.rename, hs, Candidate.rename]
      · simp [Symbol.rename, hs]

theorem ownerName_eq (owner : Option SymbolId) :
    Candidate.ownerName table' (owner.map ρ) = Candidate.ownerName table owner := by
  rw [Candidate.ownerName, Candidate.ownerName, h.get?_bind_eq, Option.map_map]
  rfl

/-- **Owners are told apart by number and sorted by name**, so they stay in their order. -/
theorem owners_eq (cs : List Candidate) :
    Candidate.owners table' (cs.map (Candidate.rename ρ σ)) =
      (Candidate.owners table cs).map (Option.map ρ) := by
  have howner : Candidate.owner ∘ Candidate.rename ρ σ = Option.map ρ ∘ Candidate.owner := rfl
  rw [Candidate.owners, Candidate.owners, List.map_map, howner, ← List.map_map,
    eraseDups_map_of_injective (Option.map_injective h.injective)]
  refine (List.map_mergeSort fun a _ b _ ↦ ?_).symm
  rw [h.ownerName_eq, h.ownerName_eq]

theorem grouped_eq (cs : List Candidate) :
    Candidate.grouped table' (cs.map (Candidate.rename ρ σ)) =
      (Candidate.grouped table cs).map (Candidate.rename ρ σ) := by
  have hsame : ∀ owner : Option SymbolId,
      (cs.map (Candidate.rename ρ σ)).filter (·.owner == owner.map ρ) =
        (cs.filter (·.owner == owner)).map (Candidate.rename ρ σ) := by
    intro owner
    rw [List.filter_map]
    congr 2
    funext c
    exact Bool.eq_iff_iff.2 (by
      simp [Candidate.rename, (Option.map_injective h.injective).eq_iff])
  rw [Candidate.grouped, Candidate.grouped, h.owners_eq, List.flatMap_map, List.map_flatMap]
  exact List.flatMap_congr fun owner _ ↦ hsame owner

theorem overrides_eq (hσ : Function.Injective σ) (tree : Tree) :
    Candidate.overrides table' (tree.rename ρ σ) =
      (Candidate.overrides table tree).map (Candidate.rename ρ σ) := by
  rw [Candidate.overrides, Candidate.overrides, List.map_append,
    Tree.filterMap_nodesOfKind_rename hσ (h.override?_eq .property),
    Tree.filterMap_nodesOfKind_rename hσ (h.override?_eq .method)]

/-- **The candidates of a renamed source file are the renamed candidates**, in the same order. -/
theorem ofTree_eq (hσ : Function.Injective σ) (tree : Tree) (kind : UseKind) :
    Candidate.ofTree table' (tree.rename ρ σ) kind =
      (Candidate.ofTree table tree kind).map (Candidate.rename ρ σ) := by
  cases kind with
  | typeDeclaration => rw [Candidate.ofTree, Candidate.ofTree, h.overrides_eq hσ, h.grouped_eq]
  | variableDeclaration => exact Tree.filterMap_nodesOfKind_rename hσ h.declarator?_eq tree _
  | memberAccess =>
    exact Tree.filterMap_nodesOfKind_rename hσ (fun n ↦ h.reference?_eq n n.symbol) tree _
  | identifier =>
    -- the best guess is the head of a renamed list
    have hbest : ∀ n : Node, (n.rename ρ σ).bestSymbol = n.bestSymbol.map ρ := by
      intro n
      simp only [Node.bestSymbol, Node.rename, List.head?_map]
      cases n.symbol <;> rfl
    refine Tree.filterMap_nodesOfKind_rename hσ (fun n ↦ ?_) tree _
    rw [hbest, h.reference?_eq]

end Snapshot.SymbolTable.Renames

/-! ### Surveys -/

/-- A survey with other numbers for its nodes and symbols. -/
def Survey.rename (ρ : SymbolId → SymbolId) (σ : NodeId → NodeId) (s : Survey) : Survey where
  typeDeclarations := s.typeDeclarations.map (Finding.rename ρ σ)
  variableDeclarations := s.variableDeclarations.map (Finding.rename ρ σ)
  memberAccesses := s.memberAccesses.map (Finding.rename ρ σ)
  identifiers := s.identifiers.map (Finding.rename ρ σ)

theorem Survey.findings_rename (ρ : SymbolId → SymbolId) (σ : NodeId → NodeId) (s : Survey) :
    (s.rename ρ σ).findings = s.findings.map (Finding.rename ρ σ) := by
  simp [findings, UseKind.all, ofKind, rename]

theorem Findings.dropCovered_rename {ρ : SymbolId → SymbolId} {σ : NodeId → NodeId}
    (hσ : Function.Injective σ) (base fs : Findings) (tree : Tree) :
    dropCovered (base.map (Finding.rename ρ σ)) (tree.rename ρ σ) (fs.map (Finding.rename ρ σ)) =
      (base.dropCovered tree fs).map (Finding.rename ρ σ) := by
  have hcovers : ∀ node, covers (base.map (Finding.rename ρ σ)) (tree.rename ρ σ) (σ node) =
      base.covers tree node := by
    intro node
    rw [covers, covers, Tree.parent?_rename hσ]
    cases tree.parent? node with
    | none => rfl
    | some parent =>
      refine Bool.eq_iff_iff.2 ?_
      simp [containsNode, Finding.rename, hσ.eq_iff]
  rw [dropCovered, dropCovered, List.filter_map]
  exact congrArg _ (congrArg (List.filter · _) (funext fun f ↦ congrArg _ (hcovers f.node)))

namespace Snapshot.SymbolTable.Renames

variable {ρ : SymbolId → SymbolId} {σ : NodeId → NodeId} {table table' : SymbolTable}
  (h : table.Renames ρ table') (hσ : Function.Injective σ) (target : Target) (tree : Tree)

include h hσ

theorem scanFault?_eq (kind : UseKind) :
    scanFault? target table' (tree.rename ρ σ) kind = scanFault? target table tree kind := by
  rw [scanFault?, scanFault?, h.ofTree_eq hσ, List.findSome?_map]
  exact congrArg (List.findSome? · _) (funext (h.fault?_eq target))

theorem scanned_eq (kind : UseKind) :
    scanned target table' (tree.rename ρ σ) kind =
      (scanned target table tree kind).map (Finding.rename ρ σ) := by
  rw [scanned, scanned, h.ofTree_eq hσ, List.filterMap_map, List.map_filterMap]
  exact congrArg (List.filterMap · _) (funext (h.found?_eq target))

/-- **A renamed source file has the same fault.** -/
theorem surveyFault?_eq :
    surveyFault? target table' (tree.rename ρ σ) = surveyFault? target table tree := by
  rw [surveyFault?, surveyFault?, funext (h.scanFault?_eq hσ target tree)]

/-- **A renamed source file has the renamed findings.** -/
theorem surveyed_eq :
    surveyed target table' (tree.rename ρ σ) = (surveyed target table tree).rename ρ σ := by
  simp only [surveyed, h.scanned_eq hσ, Findings.dropCovered_rename hσ, Survey.rename]

/-- A renamed finding has the same warning. -/
theorem warning_eq (f : Finding) :
    (f.rename ρ σ).warning target table' (tree.rename ρ σ) = f.warning target table tree := by
  have hline : (f.rename ρ σ).line (tree.rename ρ σ) = f.line tree := by
    simp only [Finding.line, Finding.rename, Tree.node?_rename hσ]
    cases tree.node? f.node <;> rfl
  have hname : (f.rename ρ σ).symbolName table' = f.symbolName table := by
    simp only [Finding.symbolName, Finding.rename, h.get?_eq]
    cases table.get? f.symbol <;> rfl
  rw [Finding.warning, Finding.warning, hline, hname]
  rfl

end Snapshot.SymbolTable.Renames

end DeprecationLint
