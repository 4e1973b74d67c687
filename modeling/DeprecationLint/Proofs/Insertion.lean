import DeprecationLint.Proofs.RenamedRun
import DeprecationLint.Proofs.Repetition
import DeprecationLint.Proofs.Walk

/-!
# Insertions that do not show

A snapshot lists more than an analysis needs: nodes of no kind that is looked at, and symbols that
nothing refers to. `Solution.Grows` is that one such entry is inserted somewhere, and
`run_of_grown` is that **no number of such insertions shows in a run**.

* A new node may take a number that was mentioned before as a parent, and then there is a parent
  where there was none. It still covers nothing, since it is not reported
  (`Tree.Grows.surveyed_eq`).
* A new symbol changes the answer for its own number only, and that is never asked for. What is
  asked for stays among the numbers that were mentioned before, however far references are followed:
  `SymbolTable.AgreesOn` is that two tables answer alike **on numbers that are closed under
  references**, and all that an analysis does within such numbers is the same for both tables. Walks
  along bases may take one step more in the larger table; that they end by themselves
  (`SymbolTable.walk_bases_iff`) is why it does not matter.
-/

namespace DeprecationLint

open Platform Snapshot

namespace Snapshot

/-! ### Insertions -/

/-- A node is inserted somewhere in a source file, of no kind that is looked at and under a number
that no node has. -/
def Tree.Grows (tree tree' : Tree) : Prop :=
  ∃ n before after, n.kind = .other ∧ n.id ∉ tree.nodeIds ∧ tree.nodes = before ++ after ∧
    tree' = { tree with nodes := before ++ n :: after }

/-- A symbol is inserted somewhere in the table of a project, under a number that neither a symbol
has nor anything in the project refers to. -/
def Project.GainsSymbol (p p' : Project) : Prop :=
  ∃ x before after, x.id ∉ p.symbolNumbers ∧ p.symbols.symbols = before ++ after ∧
    p' = { p with symbols := ⟨before ++ x :: after⟩ }

/-- A node is inserted in one of the source files of a project. -/
def Project.GainsNode (p p' : Project) : Prop :=
  ∃ before tree tree' after, tree.Grows tree' ∧ p.trees = before ++ tree :: after ∧
    p' = { p with trees := before ++ tree' :: after }

/-- A node or a symbol is inserted in one of the projects of a solution. -/
def Solution.Grows (s s' : Solution) : Prop :=
  ∃ before p p' after, (p.GainsNode p' ∨ p.GainsSymbol p') ∧ s.projects = before ++ p :: after ∧
    s' = { projects := before ++ p' :: after }

/-- A search for the last element of a kind passes over one of another kind. -/
theorem find?_reverse_insert {α : Type} {p : α → Bool} {a : α} (ha : p a = false)
    (before after : List α) :
    (before ++ a :: after).reverse.find? p = (before ++ after).reverse.find? p := by
  simp [List.find?_append, ha]

end Snapshot

/-- Warnings are written as lines of text. -/
theorem writeWarnings_eq (target : Target) (table : SymbolTable) (tree : Tree) (fs : Findings) :
    writeWarnings target table tree fs =
      (fs.map fun f ↦ f.warning target table tree).forM Emit.putLine := by
  rw [writeWarnings, List.forM_eq_forM, List.forM_eq_forM, List.forM_map]

/-- Surveys that agree, and in the warnings about their findings, look the same in a run. -/
theorem Inspection.stepTree_congr {i : Inspection} {table table' : SymbolTable}
    {tree tree' : Tree} (hpath : tree'.path = tree.path)
    (hfault : surveyFault? i.target table' tree' = surveyFault? i.target table tree)
    (hfound : surveyed i.target table' tree' = surveyed i.target table tree)
    (hwarning : ∀ use, ∀ f ∈ scanned i.target table tree use,
      f.warning i.target table' tree' = f.warning i.target table tree) (done : Summary) :
    i.stepTree table' done tree' = i.stepTree table done tree := by
  have hlines : (surveyed i.target table tree).findings.map
        (fun f ↦ f.warning i.target table' tree') =
      (surveyed i.target table tree).findings.map fun f ↦ f.warning i.target table tree := by
    refine List.map_congr_left fun f hf ↦ ?_
    obtain ⟨use, -, hf⟩ := List.mem_flatMap.1 hf
    exact hwarning use f ((ofKind_surveyed_sublist _ _ _ use).subset hf)
  have hrun : i.runTree table' tree' = i.runTree table tree := by
    rw [runTree, runTree, survey_eq, survey_eq, hfault, hfound]
    refine Emit.ofExcept_unlessFault_bind_congr _ ?_
    rw [writeWarnings_eq, writeWarnings_eq, hlines]
  rw [stepTree, stepTree, hrun, excludes, excludes, hpath]

/-! ### Nodes -/

namespace Snapshot.Tree.Grows

variable {tree tree' : Tree} (h : tree.Grows tree')

include h

theorem node?_eq {id : NodeId} (hid : id ∈ tree.nodeIds) : tree'.node? id = tree.node? id := by
  obtain ⟨n, before, after, -, hfresh, hnodes, rfl⟩ := h
  have hne : (n.id == id) = false := beq_eq_false_iff_ne.2 fun heq ↦ hfresh (heq ▸ hid)
  rw [node?, node?, hnodes]
  exact find?_reverse_insert (p := (·.id == id)) hne before after

/-- **The nodes of a kind that is looked at are the same.** -/
theorem nodesOfKind_eq {kind : NodeKind} (hkind : kind ≠ .other) :
    tree'.nodesOfKind kind = tree.nodesOfKind kind := by
  have hsame : ∀ id ∈ tree.nodeIds, tree'.node? id = tree.node? id := fun _ ↦ h.node?_eq
  obtain ⟨n, before, after, hother, hfresh, hnodes, rfl⟩ := h
  have hids : tree.nodeIds = before.map (·.id) ++ after.map (·.id) := by
    rw [nodeIds, hnodes, List.map_append]
  have hnew : Tree.node? { tree with nodes := before ++ n :: after } n.id = some n := by
    refine node?_eq_some_iff.2 ⟨before, after, rfl, rfl, fun m hm hid ↦ hfresh ?_⟩
    rw [hids, ← hid]
    exact List.mem_append_right _ (List.mem_map_of_mem hm)
  have hdropped : (n.kind == kind) = false := beq_eq_false_iff_ne.2 fun heq ↦
    hkind (heq.symm.trans hother)
  rw [hids, List.forall_mem_append] at hsame
  rw [nodesOfKind, nodesOfKind, nodesAt, nodesAt, hids, List.filterMap_append, List.filter_append,
    ← List.filterMap_congr hsame.1, ← List.filterMap_congr hsame.2]
  -- the new node is listed where it was inserted, and left out for its kind
  simp [nodeIds, hnew, hdropped]

theorem ofTree_eq (table : SymbolTable) (use : UseKind) :
    Candidate.ofTree table tree' use = Candidate.ofTree table tree use := by
  cases use with
  | typeDeclaration =>
    rw [Candidate.ofTree, Candidate.ofTree, Candidate.overrides, Candidate.overrides,
      h.nodesOfKind_eq (by decide), h.nodesOfKind_eq (by decide)]
  | variableDeclaration =>
    rw [Candidate.ofTree, Candidate.ofTree, h.nodesOfKind_eq (by decide)]
  | memberAccess => rw [Candidate.ofTree, Candidate.ofTree, h.nodesOfKind_eq (by decide)]
  | identifier => rw [Candidate.ofTree, Candidate.ofTree, h.nodesOfKind_eq (by decide)]

variable (target : Target) (table : SymbolTable)

theorem scanned_eq (use : UseKind) :
    scanned target table tree' use = scanned target table tree use := by
  rw [scanned, scanned, h.ofTree_eq]

theorem surveyFault?_eq : surveyFault? target table tree' = surveyFault? target table tree := by
  have hscan : scanFault? target table tree' = scanFault? target table tree := by
    funext use
    rw [scanFault?, scanFault?, h.ofTree_eq]
  rw [surveyFault?, surveyFault?, hscan]

/-- A finding lies at a node that was there before. -/
theorem node?_of_mem_scanned {use : UseKind} {f : Finding}
    (hf : f ∈ scanned target table tree use) : tree'.node? f.node = tree.node? f.node := by
  have hcount := count_nodes_scanned_le target table tree use f.node
  have hmem : 0 < ((scanned target table tree use).map (·.node)).count f.node :=
    List.count_pos_iff.2 (List.mem_map_of_mem hf)
  exact h.node?_eq (List.count_pos_iff.1 (hmem.trans_le hcount))

/-- **A new node covers nothing**, and no node that was there before gets another parent. -/
theorem surveyed_eq : surveyed target table tree' = surveyed target table tree := by
  have hcovers : ∀ (base : Findings), ∀ f ∈ scanned target table tree .identifier,
      base.covers tree' f.node = base.covers tree f.node := by
    intro base f hf
    rw [Findings.covers, Findings.covers, parent?, parent?, h.node?_of_mem_scanned target table hf]
  have hdrop : ∀ (base fs : Findings), fs ⊆ scanned target table tree .identifier →
      base.dropCovered tree' fs = base.dropCovered tree fs := by
    intro base fs hfs
    refine List.filter_congr fun f hf ↦ ?_
    rw [hcovers base f (hfs hf)]
  have hkept : ∀ base : Findings, base.dropCovered tree (scanned target table tree .identifier) ⊆
      scanned target table tree .identifier := fun _ ↦ List.filter_sublist.subset
  simp only [surveyed, h.scanned_eq]
  rw [hdrop _ _ (List.Subset.refl _), hdrop _ _ (hkept _)]

theorem warning_eq {use : UseKind} {f : Finding} (hf : f ∈ scanned target table tree use) :
    f.warning target table tree' = f.warning target table tree := by
  have hnode := h.node?_of_mem_scanned target table hf
  obtain ⟨n, before, after, -, -, -, rfl⟩ := h
  have hline : f.line { tree with nodes := before ++ n :: after } = f.line tree := by
    rw [Finding.line, Finding.line, hnode]
    rfl
  rw [Finding.warning, Finding.warning, hline]
  rfl

/-- **A run goes on with a source file as it did without the new node.** -/
theorem stepTree_eq (i : Inspection) (done : Summary) :
    i.stepTree table done tree' = i.stepTree table done tree := by
  refine Inspection.stepTree_congr ?_ (h.surveyFault?_eq i.target table)
    (h.surveyed_eq i.target table) (fun _ _ hf ↦ h.warning_eq i.target table hf) done
  obtain ⟨n, before, after, -, -, -, rfl⟩ := h
  rfl

end Snapshot.Tree.Grows

/-! ### Symbols -/

namespace Snapshot

/-- The numbers in a symbol are among some. -/
def Symbol.Within (K : SymbolId → Prop) (x : Symbol) : Prop :=
  ∀ id ∈ x.numbers, K id

/-- The numbers of symbols that a node refers to are among some. -/
def Node.Within (K : SymbolId → Prop) (n : Node) : Prop :=
  ∀ id ∈ n.symbolNumbers, K id

/-- Two tables answer alike on some numbers, and what is found there refers to such numbers only. -/
structure SymbolTable.AgreesOn (K : SymbolId → Prop) (table table' : SymbolTable) : Prop where
  /-- A number leads to the same symbol in both. -/
  get?_eq : ∀ {id}, K id → table'.get? id = table.get? id
  /-- The numbers are closed under references. -/
  closed : ∀ {id x}, K id → table.get? id = some x → x.Within K

/-- The numbers of symbols that the nodes of a source file refer to are among some. -/
def Tree.Within (K : SymbolId → Prop) (tree : Tree) : Prop :=
  ∀ n ∈ tree.nodes, n.Within K

theorem Symbol.numbers_iff {x : Symbol} {id : SymbolId} :
    id ∈ x.numbers ↔ id = x.id ∨ x.containingType = some id ∨ x.baseType = some id ∨
      x.declaredType = some id := by
  simp [numbers]

theorem Node.mem_symbolNumbers_of_declared {n : Node} {id : SymbolId}
    (h : n.declared = some id) : id ∈ n.symbolNumbers := by
  simp [symbolNumbers, h]

theorem Node.mem_symbolNumbers_of_symbol {n : Node} {id : SymbolId} (h : n.symbol = some id) :
    id ∈ n.symbolNumbers := by
  simp [symbolNumbers, h]

theorem Node.mem_symbolNumbers_of_bestSymbol {n : Node} {id : SymbolId}
    (h : n.bestSymbol = some id) : id ∈ n.symbolNumbers := by
  rcases Option.or_eq_some_iff.1 h with hsymbol | ⟨-, hhead⟩
  · exact mem_symbolNumbers_of_symbol hsymbol
  · exact List.mem_append_right _ (List.mem_of_mem_head? hhead)

end Snapshot

/-- The symbol and the owner of a candidate are among some numbers. -/
structure Candidate.Within (K : SymbolId → Prop) (c : Candidate) : Prop where
  /-- The symbol. -/
  symbol : K c.symbol
  /-- The owner. -/
  owner : ∀ id, c.owner = some id → K id

namespace Snapshot.SymbolTable.AgreesOn

variable {K : SymbolId → Prop} {table table' : SymbolTable} (h : table.AgreesOn K table')
  (target : Target)

include h

theorem get?_bind_eq {start : Option SymbolId} (hstart : ∀ id, start = some id → K id) :
    start.bind table'.get? = start.bind table.get? :=
  Option.bind_congr fun id hid ↦ h.get?_eq (hstart id hid)

/-- What is found under a number leads on within the numbers. -/
theorem within_of_bind {start : Option SymbolId} (hstart : ∀ id, start = some id → K id)
    {x : Symbol} (hx : start.bind table.get? = some x) : x.Within K := by
  obtain ⟨id, hid, hx⟩ := Option.bind_eq_some_iff.1 hx
  exact h.closed (hstart id hid) hx

/-- **A type has the same bases in both tables.** -/
theorem bases_eq {start : Option SymbolId} (hstart : ∀ id, start = some id → K id) :
    table'.bases start = table.bases start := by
  have hbase : ∀ x : Symbol, x.Within K → ∀ id, x.baseType = some id → K id :=
    fun x hx id hid ↦ hx id (Symbol.numbers_iff.2 (.inr (.inr (.inl hid))))
  have hwalk : Walk Symbol.id table.base? [] (start.bind table.get?) (table.bases start) :=
    walk_bases_iff.2 rfl
  -- the walk does not leave the numbers, so it is one along the bases of the other table as well
  have hwalk' : Walk Symbol.id table'.base? [] (start.bind table.get?) (table.bases start) :=
    hwalk.congr (fun _ ↦ h.within_of_bind hstart) (fun x hx ↦ h.get?_bind_eq (hbase x hx))
      fun x _ hx ↦ h.within_of_bind (hbase x hx)
  rw [← h.get?_bind_eq hstart] at hwalk'
  exact (walk_bases_iff.1 hwalk').symm

theorem isDescendant_eq {type : Option SymbolId} (htype : ∀ id, type = some id → K id) :
    isDescendant target table' type = isDescendant target table type := by
  rw [isDescendant, isDescendant, h.get?_bind_eq htype, h.bases_eq htype]

theorem platformBases_eq {start : Option SymbolId} (hstart : ∀ id, start = some id → K id) :
    platformBases target table' start = platformBases target table start := by
  rw [platformBases, platformBases, nearestPlatformType?, nearestPlatformType?, h.bases_eq hstart]

theorem attribute?_eq {c : Candidate} (hc : c.Within K) :
    c.attribute? target table' = c.attribute? target table := by
  have htype : typeAttribute? target table' c.symbol = typeAttribute? target table c.symbol := by
    rw [typeAttribute?, typeAttribute?,
      h.platformBases_eq target fun _ hid ↦ Option.some.inj hid ▸ hc.symbol]
  have hmember : memberAttribute? target table' c.symbol =
      memberAttribute? target table c.symbol := by
    funext kind
    rw [memberAttribute?, memberAttribute?, h.get?_eq hc.symbol]
    refine Option.bind_congr fun x hx ↦ ?_
    rw [h.platformBases_eq target fun id hid ↦
      h.closed hc.symbol hx id (Symbol.numbers_iff.2 (.inr (.inl hid)))]
  rw [Candidate.attribute?, Candidate.attribute?, htype, hmember, h.get?_eq hc.symbol]

theorem decisive?_eq {c : Candidate} (hc : c.Within K) :
    c.decisive? target table' = c.decisive? target table := by
  rw [Candidate.decisive?, Candidate.decisive?, h.isDescendant_eq target hc.owner,
    h.attribute?_eq target hc]

end Snapshot.SymbolTable.AgreesOn

/-! ### Candidates within some numbers -/

namespace Snapshot.Tree

variable {K : SymbolId → Prop} {tree : Tree}

theorem Within.of_mem_nodesOfKind (htree : tree.Within K) {kind : NodeKind} {n : Node}
    (hn : n ∈ tree.nodesOfKind kind) : n.Within K :=
  htree n (mem_nodes_of_node? (node?_eq_some_iff.2 (mem_nodesOfKind_iff.1 hn).1))

theorem Within.filterMap_congr (htree : tree.Within K) {pick pick' : Node → Option Candidate}
    (hpick : ∀ n : Node, n.Within K → pick' n = pick n) (kind : NodeKind) :
    (tree.nodesOfKind kind).filterMap pick' = (tree.nodesOfKind kind).filterMap pick :=
  List.filterMap_congr fun _ hn ↦ hpick _ (htree.of_mem_nodesOfKind hn)

theorem Within.of_mem_filterMap (htree : tree.Within K) {pick : Node → Option Candidate}
    (hpick : ∀ (n : Node) (c : Candidate), n.Within K → pick n = some c → c.Within K)
    {kind : NodeKind} {c : Candidate} (hc : c ∈ (tree.nodesOfKind kind).filterMap pick) :
    c.Within K := by
  obtain ⟨n, hn, hpicked⟩ := List.mem_filterMap.1 hc
  exact hpick n c (htree.of_mem_nodesOfKind hn) hpicked

end Snapshot.Tree

namespace Snapshot.SymbolTable.AgreesOn

variable {K : SymbolId → Prop} {table table' : SymbolTable} (h : table.AgreesOn K table')

include h

section Pick

variable {n : Node} (hn : n.Within K)

include hn

theorem override?_eq (kind : SymbolKind) :
    Candidate.override? table' kind n = Candidate.override? table kind n := by
  refine Option.bind_congr fun id hid ↦ ?_
  rw [h.get?_eq (hn id (Node.mem_symbolNumbers_of_declared hid))]

theorem declarator?_eq : Candidate.declarator? table' n = Candidate.declarator? table n := by
  rw [Candidate.declarator?, Candidate.declarator?,
    h.get?_bind_eq fun id hid ↦ hn id (Node.mem_symbolNumbers_of_declared hid)]

theorem reference?_eq {referred : Option SymbolId}
    (hreferred : ∀ id, referred = some id → id ∈ n.symbolNumbers) :
    Candidate.reference? table' n referred = Candidate.reference? table n referred := by
  refine Option.bind_congr fun id hid ↦ ?_
  rw [h.get?_eq (hn id (hreferred id hid))]

theorem within_of_override? {kind : SymbolKind} {c : Candidate}
    (hc : Candidate.override? table kind n = some c) : c.Within K := by
  obtain ⟨id, x, owner, hid, hx, -, -, howner, rfl⟩ := Candidate.override?_eq_some_iff.1 hc
  have hK : K id := hn id (Node.mem_symbolNumbers_of_declared hid)
  have hwithin : x.Within K := h.closed hK (get?_eq_some_iff.2 hx)
  refine ⟨hK, fun id hid ↦ hwithin id (Symbol.numbers_iff.2 (.inr (.inl ?_)))⟩
  exact howner.trans hid

theorem within_of_declarator? {c : Candidate} (hc : Candidate.declarator? table n = some c) :
    c.Within K := by
  obtain ⟨id, x, type, hid, hx, -, htype, rfl⟩ := Candidate.declarator?_eq_some_iff.1 hc
  have hwithin : x.Within K :=
    h.closed (hn id (Node.mem_symbolNumbers_of_declared hid)) (get?_eq_some_iff.2 hx)
  have hK : K type := hwithin type (Symbol.numbers_iff.2 (.inr (.inr (.inr htype))))
  exact ⟨hK, fun _ hid ↦ Option.some.inj hid ▸ hK⟩

theorem within_of_reference? {referred : Option SymbolId}
    (hreferred : ∀ id, referred = some id → id ∈ n.symbolNumbers) {c : Candidate}
    (hc : Candidate.reference? table n referred = some c) : c.Within K := by
  obtain ⟨id, x, hid, hx, -, rfl⟩ := Candidate.reference?_eq_some_iff.1 hc
  have hK : K id := hn id (hreferred id hid)
  have hwithin : x.Within K := h.closed hK (get?_eq_some_iff.2 hx)
  exact ⟨hK, fun id hid ↦ hwithin id (Symbol.numbers_iff.2 (.inr (.inl hid)))⟩

end Pick

theorem grouped_eq {cs : List Candidate} (hcs : ∀ c ∈ cs, c.Within K) :
    Candidate.grouped table' cs = Candidate.grouped table cs := by
  have hname : ∀ owner ∈ (cs.map (·.owner)).eraseDups,
      Candidate.ownerName table' owner = Candidate.ownerName table owner := by
    intro owner howner
    obtain ⟨c, hc, rfl⟩ := List.mem_map.1 (List.mem_eraseDups.1 howner)
    rw [Candidate.ownerName, Candidate.ownerName, h.get?_bind_eq (hcs c hc).owner]
  -- sorting asks for names only, and the owners have the same names in both tables
  have howners : Candidate.owners table' cs = Candidate.owners table cs := by
    rw [Candidate.owners, Candidate.owners, ← List.map_id (List.mergeSort _ _)]
    refine (List.map_mergeSort fun a ha b hb ↦ ?_).trans (by rw [List.map_id])
    rw [hname a ha, hname b hb, id, id]
  rw [Candidate.grouped, Candidate.grouped, howners]

variable {tree : Tree} (htree : tree.Within K)

include htree

theorem within_of_mem_overrides {c : Candidate} (hc : c ∈ Candidate.overrides table tree) :
    c.Within K := by
  rcases List.mem_append.1 hc with hc | hc
  · exact htree.of_mem_filterMap (fun _ _ hn ↦ h.within_of_override? hn) hc
  · exact htree.of_mem_filterMap (fun _ _ hn ↦ h.within_of_override? hn) hc

/-- **Candidates stay within the numbers.** -/
theorem within_of_mem_ofTree {use : UseKind} {c : Candidate}
    (hc : c ∈ Candidate.ofTree table tree use) : c.Within K := by
  cases use with
  | typeDeclaration =>
    rw [Candidate.ofTree, Candidate.mem_grouped_iff] at hc
    exact h.within_of_mem_overrides htree hc
  | variableDeclaration =>
    exact htree.of_mem_filterMap (fun _ _ hn ↦ h.within_of_declarator? hn) hc
  | memberAccess =>
    exact htree.of_mem_filterMap
      (fun _ _ hn ↦ h.within_of_reference? hn fun _ ↦ Node.mem_symbolNumbers_of_symbol) hc
  | identifier =>
    exact htree.of_mem_filterMap
      (fun _ _ hn ↦ h.within_of_reference? hn fun _ ↦ Node.mem_symbolNumbers_of_bestSymbol) hc

/-- **Candidates are the same for both tables**, in the same order. -/
theorem ofTree_eq (use : UseKind) :
    Candidate.ofTree table' tree use = Candidate.ofTree table tree use := by
  cases use with
  | typeDeclaration =>
    have hsame : Candidate.overrides table' tree = Candidate.overrides table tree := by
      rw [Candidate.overrides, Candidate.overrides,
        htree.filterMap_congr fun _ hn ↦ h.override?_eq hn .property,
        htree.filterMap_congr fun _ hn ↦ h.override?_eq hn .method]
    rw [Candidate.ofTree, Candidate.ofTree, hsame,
      h.grouped_eq fun _ ↦ h.within_of_mem_overrides htree]
  | variableDeclaration => exact htree.filterMap_congr (fun _ hn ↦ h.declarator?_eq hn) _
  | memberAccess =>
    exact htree.filterMap_congr
      (fun _ hn ↦ h.reference?_eq hn fun _ ↦ Node.mem_symbolNumbers_of_symbol) _
  | identifier =>
    exact htree.filterMap_congr
      (fun _ hn ↦ h.reference?_eq hn fun _ ↦ Node.mem_symbolNumbers_of_bestSymbol) _

variable (target : Target)

theorem scanned_eq (use : UseKind) :
    scanned target table' tree use = scanned target table tree use := by
  rw [scanned, scanned, h.ofTree_eq htree]
  refine List.filterMap_congr fun c hc ↦ ?_
  rw [Candidate.found?, Candidate.found?, h.decisive?_eq target (h.within_of_mem_ofTree htree hc)]

theorem surveyFault?_eq : surveyFault? target table' tree = surveyFault? target table tree := by
  have hscan : scanFault? target table' tree = scanFault? target table tree := by
    funext use
    rw [scanFault?, scanFault?, h.ofTree_eq htree, ← List.head?_filterMap, ← List.head?_filterMap]
    refine congrArg List.head? (List.filterMap_congr fun c hc ↦ ?_)
    rw [Candidate.fault?, Candidate.fault?,
      h.decisive?_eq target (h.within_of_mem_ofTree htree hc)]
  rw [surveyFault?, surveyFault?, hscan]

theorem warning_eq {use : UseKind} {f : Finding} (hf : f ∈ scanned target table tree use) :
    f.warning target table' tree = f.warning target table tree := by
  obtain ⟨c, hc, hfound⟩ := mem_scanned_iff.1 hf
  have hsymbol : c.symbol = f.symbol := (Candidate.found?_eq_some_iff.1 hfound).2.1
  have hK : K f.symbol := hsymbol ▸ (h.within_of_mem_ofTree htree hc).symbol
  rw [Finding.warning, Finding.warning, Finding.symbolName, Finding.symbolName, h.get?_eq hK]

/-- **A run goes on with a source file as it does with the other table.** -/
theorem stepTree_eq (i : Inspection) (done : Summary) :
    i.stepTree table' done tree = i.stepTree table done tree := by
  have hfound : surveyed i.target table' tree = surveyed i.target table tree := by
    simp only [surveyed, h.scanned_eq htree]
  exact Inspection.stepTree_congr rfl (h.surveyFault?_eq htree i.target) hfound
    (fun _ _ hf ↦ h.warning_eq htree i.target hf) done

end Snapshot.SymbolTable.AgreesOn

/-! ### Runs -/

namespace Snapshot.Project

variable {p p' : Project}

/-- A new symbol leaves all other answers as they were, and nothing that was there before leads to
it. -/
theorem GainsSymbol.agreesOn (h : p.GainsSymbol p') :
    ∃ K, p.symbols.AgreesOn K p'.symbols ∧ ∀ tree ∈ p.trees, tree.Within K := by
  obtain ⟨x, before, after, hfresh, hsymbols, rfl⟩ := h
  rw [symbolNumbers, List.mem_append, not_or] at hfresh
  refine ⟨(· ≠ x.id), ⟨fun {id} hid ↦ ?_, fun {_ y} _ hy id hid heq ↦ ?_⟩,
    fun tree ht n hn id hid heq ↦ ?_⟩
  · have hne : (x.id == id) = false := beq_eq_false_iff_ne.2 hid.symm
    rw [SymbolTable.get?, SymbolTable.get?, hsymbols]
    exact find?_reverse_insert (p := (·.id == id)) hne before after
  · exact hfresh.1 (heq ▸ List.mem_flatMap.2 ⟨y, SymbolTable.mem_symbols_of_get? hy, hid⟩)
  · exact hfresh.2 (heq ▸ List.mem_flatMap.2 ⟨tree, ht, List.mem_flatMap.2 ⟨n, hn, hid⟩⟩)

end Snapshot.Project

namespace Inspection

variable (i : Inspection)

theorem stepProject_of_gainsSymbol {p p' : Project} (h : p.GainsSymbol p') (done : Summary) :
    i.stepProject done p' = i.stepProject done p := by
  obtain ⟨K, hagree, htrees⟩ := h.agreesOn
  obtain ⟨x, before, after, -, -, rfl⟩ := h
  rw [stepProject, stepProject]
  refine congrArg _ (funext fun _ ↦ foldlM_eq_of_forall₂ (List.forall₂_same.2 ?_) _)
  exact fun tree ht ↦ hagree.stepTree_eq (htrees tree ht) i

theorem stepProject_of_gainsNode {p p' : Project} (h : p.GainsNode p') (done : Summary) :
    i.stepProject done p' = i.stepProject done p := by
  obtain ⟨before, tree, tree', after, hgrows, htrees, rfl⟩ := h
  have hsame := hgrows.stepTree_eq p.symbols i
  simp only [stepProject, htrees, List.foldlM_append, List.foldlM_cons, hsame]

/-- **One insertion does not show in a run.** -/
theorem run_of_grows {s s' : Solution} (h : s.Grows s') : i.run s' = i.run s := by
  obtain ⟨before, p, p', after, hgains, hprojects, rfl⟩ := h
  have hsame : ∀ done, i.stepProject done p' = i.stepProject done p := by
    rcases hgains with hnode | hsymbol
    · exact i.stepProject_of_gainsNode hnode
    · exact i.stepProject_of_gainsSymbol hsymbol
  simp only [run, hprojects, List.foldlM_append, List.foldlM_cons, hsame]

end Inspection

/-- **Insertions do not show in a run.** However many nodes of no kind that is looked at are
inserted in source files, each under a number that no node of its file has, and however many symbols
in tables, each under a number that its project does not mention, a run writes the same to every
sink and comes to the same end, be it counts or a fault. -/
theorem run_of_grown {s s' : Solution} (h : Relation.ReflTransGen Solution.Grows s s')
    (i : Inspection) (sink : Sink) : i.run s' sink = i.run s sink := by
  induction h with
  | refl => rfl
  | tail _ hgrows ih => rw [i.run_of_grows hgrows, ih]

/-- The source file with a crate, without its first node. The last identifier has that node as its
parent, under a number that no node has now. -/
def bareTree : Tree :=
  { boxTree with nodes := boxTree.nodes.tail }

/-- A crate that nothing refers to, and that is its own base. -/
def strayCrate : Symbol where
  id := ⟨7⟩
  name := "Crate"
  displayName := none
  kind := .namedType
  module := "App"
  containingType := none
  baseType := some ⟨7⟩
  declaredType := none
  isOverride := false

/-- With the node and the stray crate in their places the four warnings are the same. -/
theorem run_of_grown_box :
    (bareTree.parent? ⟨5⟩ = some ⟨0⟩ ∧ bareTree.node? ⟨0⟩ = none) ∧
    survey boxTarget boxTable bareTree = .ok boxSurvey ∧
    ∀ sink : Sink,
      Inspection.run { target := boxTarget } { projects := [{
        name := "Crates"
        symbols := ⟨boxTable.symbols.take 3 ++ strayCrate :: boxTable.symbols.drop 3⟩
        trees := [boxTree] }] } sink =
      Inspection.run { target := boxTarget } { projects := [{
        name := "Crates"
        symbols := boxTable
        trees := [bareTree] }] } sink := by
  refine ⟨by decide, by decide +kernel, fun sink ↦ ?_⟩
  let bare : Project := { name := "Crates", symbols := boxTable, trees := [bareTree] }
  let box : Project := { name := "Crates", symbols := boxTable, trees := [boxTree] }
  have hnode : bare.GainsNode box :=
    ⟨[], bareTree, boxTree, [], ⟨_, [], bareTree.nodes, rfl, by decide, rfl, rfl⟩, rfl, rfl⟩
  have hsymbol : box.GainsSymbol
      { box with symbols := ⟨boxTable.symbols.take 3 ++ strayCrate :: boxTable.symbols.drop 3⟩ } :=
    ⟨strayCrate, _, _, by decide, (List.take_append_drop 3 _).symm, rfl⟩
  have hgrown : Relation.ReflTransGen Solution.Grows { projects := [bare] } _ :=
    (Relation.ReflTransGen.single ⟨[], bare, box, [], Or.inl hnode, rfl, rfl⟩).tail
      ⟨[], box, _, [], Or.inr hsymbol, rfl, rfl⟩
  exact run_of_grown hgrown _ sink

end DeprecationLint
