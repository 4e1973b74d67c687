import DeprecationLint.Proofs.Uses

/-!
# No use is reported twice

What a node may be reported as is decided by its kind alone: each kind of use looks at its own
kinds of nodes (`UseKind.nodeKinds`), and a number has one kind, that of the last node with it
(`Tree.kind?`). So the numbers of a tree fall into lists without a common number
(`Tree.idsOfKind`), and **a scan takes its nodes from the lists of its own kinds, each entry at
most once** (`subperm_nodes_scanned`). Everything else is counting.

The one place where an entry could be taken twice is the grouping of overriding declarations: an
owner that was listed twice would bring its whole group twice. `Candidate.grouped_perm` is that
none is.
-/

namespace DeprecationLint

open Platform Snapshot

/-! ### Grouping -/

/-- A list without its repetitions repeats nothing. -/
theorem nodup_eraseDups {α : Type} [BEq α] [LawfulBEq α] (l : List α) : l.eraseDups.Nodup := by
  induction l using eraseDups_induction with
  | nil => exact List.nodup_nil
  | cons a l ih =>
    rw [List.eraseDups_cons, List.nodup_cons, List.mem_eraseDups, List.mem_filter]
    refine ⟨?_, ih⟩
    rintro ⟨-, ha⟩
    simp at ha

/-- A filter keeps all occurrences of an element, or none. -/
theorem count_filter_eq_ite {α : Type} [DecidableEq α] (p : α → Bool) (l : List α) (a : α) :
    (l.filter p).count a = if p a then l.count a else 0 := by
  by_cases ha : p a = true
  · rw [if_pos ha, List.count_filter ha]
  · rw [if_neg ha, List.count_eq_zero]
    exact fun hmem ↦ ha (List.mem_filter.1 hmem).2

/-- Groups by different keys, of elements with these keys, have every element as often as before. -/
theorem flatMap_filter_perm {α κ : Type} [DecidableEq α] [BEq κ] [LawfulBEq κ] {key : α → κ}
    {keys : List κ} {l : List α} (hnodup : keys.Nodup) (hkeys : ∀ a ∈ l, key a ∈ keys) :
    (keys.flatMap fun k ↦ l.filter (key · == k)).Perm l := by
  rw [List.perm_iff_count]
  intro a
  have hsum : (keys.map fun k ↦ (l.filter (key · == k)).count a).sum =
      keys.count (key a) * l.count a := by
    clear hnodup hkeys
    induction keys with
    | nil => simp
    | cons k keys ih =>
      rw [List.map_cons, List.sum_cons, ih, count_filter_eq_ite]
      by_cases hk : key a = k
      · simp [hk, Nat.add_mul, Nat.add_comm]
      · simp [hk, Ne.symm hk]
  rw [List.count_flatMap]
  refine hsum.trans ?_
  by_cases ha : a ∈ l
  · rw [List.count_eq_one_of_mem hnodup (hkeys a ha), Nat.one_mul]
  · rw [List.count_eq_zero.2 ha, Nat.mul_zero]

namespace Candidate

/-- No owner is listed twice. -/
theorem nodup_owners (table : SymbolTable) (cs : List Candidate) : (owners table cs).Nodup :=
  (List.mergeSort_perm _ _).nodup_iff.2 (nodup_eraseDups _)

/-- Every owner is listed. -/
theorem owner_mem_owners {table : SymbolTable} {cs : List Candidate} {c : Candidate}
    (hc : c ∈ cs) : c.owner ∈ owners table cs := by
  rw [owners, List.mem_mergeSort, List.mem_eraseDups]
  exact List.mem_map_of_mem hc

/-- **Grouping by owner changes nothing but the order.** -/
theorem grouped_perm (table : SymbolTable) (cs : List Candidate) :
    (grouped table cs).Perm cs :=
  flatMap_filter_perm (nodup_owners table cs) fun _ ↦ owner_mem_owners

end Candidate

/-! ### Nodes by kind -/

/-- The kinds of nodes that a kind of use looks at. -/
def UseKind.nodeKinds : UseKind → List NodeKind
  | .typeDeclaration => [.propertyDeclaration, .methodDeclaration]
  | .variableDeclaration => [.variableDeclarator]
  | .memberAccess => [.memberAccess]
  | .identifier => [.identifier]

/-- No kind of node is looked at twice. -/
theorem UseKind.eq_of_mem_nodeKinds {use use' : UseKind} {kind : NodeKind}
    (h : kind ∈ use.nodeKinds) (h' : kind ∈ use'.nodeKinds) : use = use' := by
  cases use <;> cases use' <;> simp_all [nodeKinds]

namespace Snapshot.Tree

/-- The kind of the node with a number. -/
def kind? (tree : Tree) (id : NodeId) : Option NodeKind :=
  (tree.node? id).map (·.kind)

/-- The numbers of the nodes of a kind, in document order. -/
def idsOfKind (tree : Tree) (kind : NodeKind) : List NodeId :=
  (tree.nodesOfKind kind).map (·.id)

theorem idsOfKind_eq (tree : Tree) (kind : NodeKind) :
    tree.idsOfKind kind = tree.nodeIds.filter (tree.kind? · == some kind) := by
  rw [idsOfKind, nodesOfKind, nodesAt]
  induction tree.nodeIds with
  | nil => rfl
  | cons id ids ih =>
    rw [List.filterMap_cons, List.filter_cons, kind?]
    cases hnode : tree.node? id with
    | none => simpa using ih
    | some n =>
      by_cases hkind : n.kind = kind
      · simpa [hkind, id_of_node? hnode] using ih
      · simpa [hkind] using ih

/-- A number is listed under its own kind, as often as it occurs, and under no other. -/
theorem count_idsOfKind (tree : Tree) (kind : NodeKind) (id : NodeId) :
    (tree.idsOfKind kind).count id =
      if tree.kind? id = some kind then tree.nodeIds.count id else 0 := by
  rw [idsOfKind_eq, count_filter_eq_ite]
  simp only [beq_iff_eq]

theorem kind?_of_mem_idsOfKind {tree : Tree} {kind : NodeKind} {id : NodeId}
    (h : id ∈ tree.idsOfKind kind) : tree.kind? id = some kind := by
  rw [idsOfKind_eq, List.mem_filter] at h
  simpa using h.2

/-- The lists of the kinds that a use looks at have a number at most as often as it occurs. -/
theorem count_flatMap_idsOfKind_le (tree : Tree) (use : UseKind) (id : NodeId) :
    (use.nodeKinds.flatMap tree.idsOfKind).count id ≤ tree.nodeIds.count id := by
  have hone : ∀ kind, (tree.idsOfKind kind).count id ≤ tree.nodeIds.count id := by
    intro kind
    rw [count_idsOfKind]
    split
    · exact Nat.le_refl _
    · exact Nat.zero_le _
  cases use with
  | typeDeclaration =>
    -- of the two lists only one can have the number
    by_cases hproperty : tree.kind? id = some .propertyDeclaration
    · have hmethod : (tree.idsOfKind .methodDeclaration).count id = 0 := by
        rw [count_idsOfKind, if_neg (by simp [hproperty])]
      simpa [UseKind.nodeKinds, hmethod] using hone .propertyDeclaration
    · have hnone : (tree.idsOfKind .propertyDeclaration).count id = 0 := by
        rw [count_idsOfKind, if_neg hproperty]
      simpa [UseKind.nodeKinds, hnone] using hone .methodDeclaration
  | variableDeclaration => simpa [UseKind.nodeKinds] using hone .variableDeclarator
  | memberAccess => simpa [UseKind.nodeKinds] using hone .memberAccess
  | identifier => simpa [UseKind.nodeKinds] using hone .identifier

end Snapshot.Tree

/-! ### Scans -/

/-- What is picked from a list keeps the marks of what it was picked from, in order. -/
theorem map_filterMap_sublist {α β γ : Type} {pick : α → Option β} {mark : α → γ} {mark' : β → γ}
    (h : ∀ {a b}, pick a = some b → mark' b = mark a) (l : List α) :
    ((l.filterMap pick).map mark').Sublist (l.map mark) := by
  induction l with
  | nil => exact List.Sublist.refl _
  | cons a l ih =>
    rw [List.map_cons]
    cases hpick : pick a with
    | none =>
      rw [List.filterMap_cons_none hpick]
      exact ih.cons _
    | some b =>
      rw [List.filterMap_cons_some hpick, List.map_cons, h hpick]
      exact ih.cons_cons _

section Scans

variable {target : Target} {table : SymbolTable} {tree : Tree}

theorem Candidate.node_of_override? {kind : SymbolKind} {n : Node} {c : Candidate}
    (h : override? table kind n = some c) : c.node = n.id := by
  obtain ⟨_, _, _, -, -, -, -, -, rfl⟩ := override?_eq_some_iff.1 h
  rfl

theorem Candidate.node_of_declarator? {n : Node} {c : Candidate}
    (h : declarator? table n = some c) : c.node = n.id := by
  obtain ⟨_, _, _, -, -, -, -, rfl⟩ := declarator?_eq_some_iff.1 h
  rfl

theorem Candidate.node_of_reference? {n : Node} {referred : Option SymbolId} {c : Candidate}
    (h : reference? table n referred = some c) : c.node = n.id := by
  obtain ⟨_, _, -, -, -, rfl⟩ := reference?_eq_some_iff.1 h
  rfl

theorem Candidate.node_of_found? {c : Candidate} {f : Finding}
    (h : c.found? target table = some f) : f.node = c.node :=
  (found?_eq_some_iff.1 h).1.symm

/-- **Candidates are nodes of the kinds that their use looks at**, each entry at most once. -/
theorem Candidate.subperm_nodes_ofTree (table : SymbolTable) (tree : Tree) (use : UseKind) :
    ((ofTree table tree use).map (·.node)).Subperm (use.nodeKinds.flatMap tree.idsOfKind) := by
  cases use with
  | typeDeclaration =>
    have hsublist : ((overrides table tree).map (·.node)).Sublist
        (tree.idsOfKind .propertyDeclaration ++ tree.idsOfKind .methodDeclaration) := by
      rw [overrides, List.map_append]
      exact (map_filterMap_sublist node_of_override? _).append
        (map_filterMap_sublist node_of_override? _)
    have hperm := (grouped_perm table (overrides table tree)).map (·.node)
    rw [ofTree, UseKind.nodeKinds, List.flatMap_cons, List.flatMap_singleton]
    exact hperm.subperm.trans hsublist.subperm
  | variableDeclaration =>
    rw [UseKind.nodeKinds, List.flatMap_singleton]
    exact (map_filterMap_sublist node_of_declarator? _).subperm
  | memberAccess =>
    rw [UseKind.nodeKinds, List.flatMap_singleton]
    exact (map_filterMap_sublist node_of_reference? _).subperm
  | identifier =>
    rw [UseKind.nodeKinds, List.flatMap_singleton]
    exact (map_filterMap_sublist node_of_reference? _).subperm

/-- **Findings are nodes of the kinds that their use looks at**, each entry at most once. -/
theorem subperm_nodes_scanned (target : Target) (table : SymbolTable) (tree : Tree)
    (use : UseKind) :
    ((scanned target table tree use).map (·.node)).Subperm
      (use.nodeKinds.flatMap tree.idsOfKind) :=
  (map_filterMap_sublist Candidate.node_of_found? _).subperm.trans
    (Candidate.subperm_nodes_ofTree table tree use)

theorem count_nodes_scanned_le (target : Target) (table : SymbolTable) (tree : Tree)
    (use : UseKind) (id : NodeId) :
    ((scanned target table tree use).map (·.node)).count id ≤ tree.nodeIds.count id :=
  ((subperm_nodes_scanned target table tree use).count_le id).trans
    (tree.count_flatMap_idsOfKind_le use id)

/-- The kind of the node of a finding is one that the use looks at. -/
theorem exists_kind?_of_mem_scanned {use : UseKind} {f : Finding}
    (h : f ∈ scanned target table tree use) :
    ∃ kind ∈ use.nodeKinds, tree.kind? f.node = some kind := by
  have hmem : f.node ∈ use.nodeKinds.flatMap tree.idsOfKind :=
    (subperm_nodes_scanned target table tree use).subset (List.mem_map_of_mem h)
  obtain ⟨kind, hkind, hid⟩ := List.mem_flatMap.1 hmem
  exact ⟨kind, hkind, Tree.kind?_of_mem_idsOfKind hid⟩

/-- **The scans of two kinds have no node in common.** -/
theorem node_ne_of_mem_scanned {use use' : UseKind} (hne : use ≠ use') {f g : Finding}
    (hf : f ∈ scanned target table tree use) (hg : g ∈ scanned target table tree use') :
    f.node ≠ g.node := by
  intro hnode
  obtain ⟨kind, hkind, hfkind⟩ := exists_kind?_of_mem_scanned hf
  obtain ⟨kind', hkind', hgkind⟩ := exists_kind?_of_mem_scanned hg
  rw [hnode, hgkind] at hfkind
  obtain rfl : kind' = kind := Option.some.inj hfkind
  exact hne (UseKind.eq_of_mem_nodeKinds hkind hkind')

/-- A survey keeps what the scans find, except for identifiers that are covered. -/
theorem ofKind_surveyed_sublist (target : Target) (table : SymbolTable) (tree : Tree)
    (use : UseKind) :
    ((surveyed target table tree).ofKind use).Sublist (scanned target table tree use) := by
  cases use with
  | typeDeclaration => exact List.Sublist.refl _
  | variableDeclaration => exact List.Sublist.refl _
  | memberAccess => exact List.Sublist.refl _
  | identifier => exact List.filter_sublist.trans List.filter_sublist

/-! ### Surveys -/

/-- Where no number occurs twice, no two findings of a survey have the same node. -/
theorem nodup_nodes_surveyed (target : Target) (table : SymbolTable) {tree : Tree}
    (hnodup : tree.nodeIds.Nodup) :
    ((surveyed target table tree).findings.map (·.node)).Nodup := by
  rw [Survey.findings, List.map_flatMap, List.nodup_flatMap]
  constructor
  · intro use _
    rw [List.nodup_iff_count_le_one]
    intro id
    calc (((surveyed target table tree).ofKind use).map (·.node)).count id
        ≤ ((scanned target table tree use).map (·.node)).count id :=
          ((ofKind_surveyed_sublist target table tree use).map _).count_le id
      _ ≤ tree.nodeIds.count id := count_nodes_scanned_le target table tree use id
      _ ≤ 1 := List.nodup_iff_count_le_one.1 hnodup id
  · have hall : UseKind.all.Nodup := by decide
    refine hall.imp fun {use use'} hne ↦ ?_
    rw [Function.onFun_apply, List.disjoint_left]
    intro id hid hid'
    obtain ⟨f, hf, rfl⟩ := List.mem_map.1 hid
    obtain ⟨g, hg, hfg⟩ := List.mem_map.1 hid'
    exact node_ne_of_mem_scanned hne
      ((ofKind_surveyed_sublist target table tree use).subset hf)
      ((ofKind_surveyed_sublist target table tree use').subset hg) hfg.symm

/-- **No use is reported twice.** If a tree has a survey, then all four scans succeed, and the
findings that the survey lists under a kind of use are among those of its scan. No node is found by
the scans of two kinds, and none is found by a scan more often than it occurs in the tree. So when
the numbers of the nodes are different, the findings of the survey, in the order of their report,
have different nodes. -/
theorem survey_nodes_distinct {s : Survey} (h : survey target table tree = .ok s) :
    (∃ found : UseKind → Findings,
      (∀ use, scan target table tree use = .ok (found use) ∧
        (s.ofKind use).Sublist (found use)) ∧
      (∀ use use', use ≠ use' → ∀ f ∈ found use, ∀ g ∈ found use', f.node ≠ g.node) ∧
      ∀ use id, ((found use).map (·.node)).count id ≤ tree.nodeIds.count id) ∧
    (tree.nodeIds.Nodup → (s.findings.map (·.node)).Nodup) := by
  obtain ⟨hfault, rfl⟩ := survey_eq_ok_iff.1 h
  refine ⟨⟨scanned target table tree, fun use ↦ ⟨?_, ?_⟩, ?_, ?_⟩, ?_⟩
  · have hall : ∀ use ∈ UseKind.all, scanFault? target table tree use = none :=
      List.findSome?_eq_none_iff.1 hfault
    rw [scan_eq, hall use (by cases use <;> decide)]
    rfl
  · exact ofKind_surveyed_sublist target table tree use
  · intro use use' hne f hf g hg
    exact node_ne_of_mem_scanned hne hf hg
  · exact count_nodes_scanned_le target table tree
  · exact nodup_nodes_surveyed target table

end Scans

/-- A source file in which the crate is opened twice under one number. -/
def boxTreeTwice : Tree :=
  { boxTree with nodes := boxTree.nodes ++ boxTree.nodes.filter (·.kind == .memberAccess) }

theorem survey_nodes_distinct_box :
    (boxTree.nodeIds.Nodup ∧ (boxSurvey.findings.map (·.node)).Nodup) ∧
    ∃ s, survey boxTarget boxTable boxTreeTwice = .ok s ∧
      s.memberAccesses.map (·.node) = [⟨3⟩, ⟨3⟩] ∧ boxTreeTwice.nodeIds.count ⟨3⟩ = 2 ∧
      ∃ found : UseKind → Findings,
        (∀ use, (s.ofKind use).Sublist (found use)) ∧
        ∀ use id, ((found use).map (·.node)).count id ≤ boxTreeTwice.nodeIds.count id := by
  have hnodup : boxTree.nodeIds.Nodup := by decide
  refine ⟨⟨hnodup, (survey_nodes_distinct survey_box).2 hnodup⟩, ?_⟩
  have htwice : survey boxTarget boxTable boxTreeTwice =
      .ok { boxSurvey with memberAccesses := [⟨⟨3⟩, ⟨3⟩, 6⟩, ⟨⟨3⟩, ⟨3⟩, 6⟩] } := by decide +kernel
  obtain ⟨⟨found, hfound, -, hcount⟩, -⟩ := survey_nodes_distinct htwice
  exact ⟨_, htwice, rfl, by decide, found, fun use ↦ (hfound use).2, hcount⟩

end DeprecationLint
