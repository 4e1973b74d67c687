import DeprecationLint.Proofs.Repetition
import DeprecationLint.Proofs.TargetChecks

/-!
# Indexes

The nodes of a tree, the symbols of a table and the types of a module are lists in written order,
and all of them are looked up by a key that may well be repeated. Instead of going through a list
from its end, one can make an **index** of it beforehand, in one pass from its start: each element
is put under its key, or its position is, and takes the place of whatever was there before.

* `getElem?_indexBy`: what an index has under a key comes from the last element with that key.
* `exists_of_getElem?_positionsBy`: a position in an index is one in the list, and what stands there
  is what the lookup finds.
* `size_indexBy`: an index has as many keys as there are different ones in the list.

These three rest on one induction each, along the pass. `lookups_faithful` puts together what
follows for the three containers: **lookups through an index and lookups in the list are the same**,
and what they find is the last entry. Only a name but for its case is looked for from the start.
-/

namespace DeprecationLint

open Platform Snapshot

/-! ### Indexes of lists -/

section Index

variable {α β κ : Type} [BEq κ] [Hashable κ]

/-- An index of a list: each element gives a value, put under its key in turn. -/
def indexBy (key : α → κ) (value : α → β) (l : List α) : Std.HashMap κ β :=
  l.foldl (fun index a ↦ index.insert (key a) (value a)) ∅

/-- An index of the positions in a list, under the keys of what stands there. -/
def positionsBy (key : α → κ) (l : List α) : Std.HashMap κ Nat :=
  indexBy (fun e ↦ key e.1) (·.2) l.zipIdx

theorem indexBy_concat (key : α → κ) (value : α → β) (l : List α) (a : α) :
    indexBy key value (l ++ [a]) = (indexBy key value l).insert (key a) (value a) := by
  rw [indexBy, List.foldl_append]
  rfl

variable [LawfulBEq κ]

/-- **What an index has under a key comes from the last element with that key.** -/
theorem getElem?_indexBy (key : α → κ) (value : α → β) (l : List α) (k : κ) :
    (indexBy key value l)[k]? = (l.reverse.find? (key · == k)).map value := by
  induction l using List.reverseRecOn with
  | nil => exact Std.HashMap.getElem?_empty
  | append_singleton l a ih =>
    rw [indexBy_concat, Std.HashMap.getElem?_insert, List.reverse_append, List.reverse_singleton,
      List.singleton_append, List.find?_cons, ih]
    by_cases ha : (key a == k) = true
    · rw [if_pos ha, ha]
      rfl
    · rw [if_neg ha, Bool.eq_false_iff.2 ha]

theorem mem_indexBy_iff {key : α → κ} {value : α → β} {l : List α} {k : κ} :
    k ∈ indexBy key value l ↔ k ∈ l.map key := by
  rw [Std.HashMap.mem_iff_isSome_getElem?, getElem?_indexBy, Option.isSome_map, List.isSome_find?,
    List.any_reverse, List.any_eq_true, List.mem_map]
  simp only [beq_iff_eq]

/-- **An index has as many keys as there are different ones in the list.** -/
theorem size_indexBy [DecidableEq κ] (key : α → κ) (value : α → β) (l : List α) :
    (indexBy key value l).size = (l.map key).toFinset.card := by
  induction l using List.reverseRecOn with
  | nil => exact Std.HashMap.size_empty
  | append_singleton l a ih =>
    have hinsert : ((l ++ [a]).map key).toFinset = insert (key a) (l.map key).toFinset := by
      ext k
      simp
    rw [indexBy_concat, Std.HashMap.size_insert, hinsert]
    by_cases ha : key a ∈ l.map key
    · rw [if_pos (mem_indexBy_iff.2 ha), Finset.insert_eq_of_mem (List.mem_toFinset.2 ha), ih]
    · rw [if_neg (mt mem_indexBy_iff.1 ha), ih,
        Finset.card_insert_of_notMem (mt List.mem_toFinset.1 ha)]

variable {key : α → κ} {l : List α} {k : κ}

/-- **A position in an index is one in the list**, and what stands there is what a search from the
end of the list finds. -/
theorem exists_of_getElem?_positionsBy {i : Nat} (h : (positionsBy key l)[k]? = some i) :
    ∃ a, l[i]? = some a ∧ l.reverse.find? (key · == k) = some a := by
  rw [positionsBy, getElem?_indexBy] at h
  obtain ⟨⟨a, j⟩, hfind, hj⟩ := Option.map_eq_some_iff.1 h
  obtain rfl : j = i := hj
  have hmem : (a, j) ∈ l.zipIdx := List.mem_reverse.1 (List.mem_of_find?_eq_some hfind)
  refine ⟨a, List.mem_zipIdx_iff_getElem?.1 hmem, ?_⟩
  -- without its positions the indexed list is the list itself
  have hlist : l.reverse = l.zipIdx.reverse.map Prod.fst := by
    rw [List.map_reverse, List.zipIdx_map_fst]
  rw [hlist, List.find?_map]
  exact congrArg (Option.map Prod.fst) hfind

/-- **A lookup by position is a search from the end of the list.** -/
theorem getElem?_positionsBy_bind (key : α → κ) (l : List α) (k : κ) :
    (positionsBy key l)[k]?.bind (l[·]?) = l.reverse.find? (key · == k) := by
  rcases hi : (positionsBy key l)[k]? with - | i
  · have hnotMem : k ∉ positionsBy key l := by
      rw [Std.HashMap.mem_iff_isSome_getElem?, hi]
      simp
    rw [positionsBy, mem_indexBy_iff] at hnotMem
    rw [Option.bind_none, eq_comm, List.find?_eq_none]
    intro a ha hkey
    obtain ⟨i, hi⟩ := List.mem_iff_getElem?.1 (List.mem_reverse.1 ha)
    have hmem : (a, i) ∈ l.zipIdx := List.mem_zipIdx_iff_getElem?.2 hi
    exact hnotMem (List.mem_map.2 ⟨(a, i), hmem, eq_of_beq hkey⟩)
  · obtain ⟨a, ha, hfind⟩ := exists_of_getElem?_positionsBy hi
    rw [Option.bind_some, ha, hfind]

theorem lt_length_of_getElem?_positionsBy {i : Nat} (h : (positionsBy key l)[k]? = some i) :
    i < l.length := by
  obtain ⟨a, ha, -⟩ := exists_of_getElem?_positionsBy h
  exact (List.getElem?_eq_some_iff.1 ha).1

end Index

/-- What is left without repetitions is as much as there are different elements. -/
theorem length_eraseDups {α : Type} [DecidableEq α] (l : List α) :
    l.eraseDups.length = l.toFinset.card := by
  have hsame : l.eraseDups.toFinset = l.toFinset := by
    ext a
    rw [List.mem_toFinset, List.mem_toFinset, List.mem_eraseDups]
  rw [← hsame, List.toFinset_card_of_nodup (nodup_eraseDups l)]

/-! ### Nodes -/

namespace Snapshot

deriving instance Hashable for NodeId, SymbolId

/-- The kinds of nodes. -/
def NodeKind.all : List NodeKind :=
  [propertyDeclaration, methodDeclaration, variableDeclarator, memberAccess, identifier, other]

theorem NodeKind.mem_all (kind : NodeKind) : kind ∈ all := by
  rcases kind <;> decide

/-- The positions of the nodes of a tree, by their numbers. -/
def Tree.positions (tree : Tree) : Std.HashMap NodeId Nat :=
  positionsBy Node.id tree.nodes

/-- The nodes of a tree are looked up faithfully, by number and by kind. -/
structure Tree.LooksUpFaithfully (tree : Tree) : Prop where
  /-- The node with a number is the last one that has it. -/
  node?_eq_some_iff : ∀ id n, tree.node? id = some n ↔ tree.Binds id n
  /-- There is none exactly if no node has the number. -/
  node?_eq_none_iff : ∀ id, tree.node? id = none ↔ ∀ n ∈ tree.nodes, n.id ≠ id
  /-- It is the node at the position that the index has under the number. -/
  node?_eq_at_position : ∀ id, tree.node? id = tree.positions[id]?.bind (tree.nodes[·]?)
  /-- No position in the index is beyond the nodes. -/
  position_lt : ∀ (id : NodeId) (i : Nat), tree.positions[id]? = some i → i < tree.nodes.length
  /-- The numbers are those of the nodes, one after another, repetitions included. -/
  nodeIds_getElem? : tree.nodeIds.length = tree.nodes.length ∧
    ∀ i : Nat, tree.nodeIds[i]? = tree.nodes[i]?.map Node.id
  /-- The nodes of a kind are what their numbers stand for, and are of that kind. -/
  mem_nodesOfKind : ∀ kind, ∀ n ∈ tree.nodesOfKind kind, tree.Binds n.id n ∧ n.kind = kind
  /-- The numbers of a kind are in document order. -/
  idsOfKind_sublist : ∀ kind, (tree.idsOfKind kind).Sublist tree.nodeIds
  /-- All occurrences of a number are under the kind of the last node that has it, and none is
  under another kind. -/
  count_idsOfKind : ∀ id n, tree.Binds id n →
    (tree.idsOfKind n.kind).count id = tree.nodeIds.count id ∧
      ∀ kind, kind ≠ n.kind → id ∉ tree.idsOfKind kind
  /-- The lists of the kinds hold together what the tree has. -/
  idsOfKind_perm : (NodeKind.all.flatMap tree.idsOfKind).Perm tree.nodeIds

/-- A number that occurs has a kind. -/
theorem Tree.exists_kind?_of_mem_nodeIds {tree : Tree} {id : NodeId} (h : id ∈ tree.nodeIds) :
    ∃ kind, tree.kind? id = some kind := by
  rcases hnode : tree.node? id with - | n
  · obtain ⟨n, hn, hid⟩ := List.mem_map.1 h
    exact absurd hid (node?_eq_none_iff.1 hnode n hn)
  · exact ⟨n.kind, by rw [kind?, hnode, Option.map_some]⟩

/-- **The lists of the kinds hold together what the tree has.** -/
theorem Tree.flatMap_idsOfKind_perm (tree : Tree) :
    (NodeKind.all.flatMap tree.idsOfKind).Perm tree.nodeIds := by
  have hkinds : (NodeKind.all.map some).Nodup := by decide
  have hall : ∀ id ∈ tree.nodeIds, tree.kind? id ∈ NodeKind.all.map some := by
    intro id hid
    obtain ⟨kind, hkind⟩ := exists_kind?_of_mem_nodeIds hid
    rw [hkind]
    exact List.mem_map_of_mem kind.mem_all
  have hperm := flatMap_filter_perm hkinds hall
  rw [List.flatMap_map] at hperm
  rwa [funext tree.idsOfKind_eq]

theorem Tree.looksUpFaithfully (tree : Tree) : tree.LooksUpFaithfully where
  node?_eq_some_iff _ _ := Tree.node?_eq_some_iff
  node?_eq_none_iff _ := Tree.node?_eq_none_iff
  node?_eq_at_position id := (getElem?_positionsBy_bind Node.id tree.nodes id).symm
  position_lt _ _ h := lt_length_of_getElem?_positionsBy h
  nodeIds_getElem? := ⟨List.length_map _, fun _ ↦ List.getElem?_map⟩
  mem_nodesOfKind kind n hn := by
    rw [mem_nodesOfKind_iff] at hn
    exact hn
  idsOfKind_sublist kind := by
    rw [idsOfKind_eq]
    exact List.filter_sublist
  count_idsOfKind id n hn := by
    have hkind : tree.kind? id = some n.kind := by
      rw [kind?, Tree.node?_eq_some_iff.2 hn, Option.map_some]
    refine ⟨by rw [Tree.count_idsOfKind, if_pos hkind], fun kind hne hmem ↦ ?_⟩
    have hkind' := kind?_of_mem_idsOfKind hmem
    rw [hkind] at hkind'
    exact hne (Option.some.inj hkind').symm
  idsOfKind_perm := tree.flatMap_idsOfKind_perm

/-! ### Symbols -/

/-- The symbols of a table, by their numbers. -/
def SymbolTable.index (table : SymbolTable) : Std.HashMap SymbolId Symbol :=
  indexBy Symbol.id id table.symbols

/-- The symbols of a table are looked up faithfully. -/
structure SymbolTable.LooksUpFaithfully (table : SymbolTable) : Prop where
  /-- The symbol with a number is the last one that has it. -/
  get?_eq_some_iff : ∀ id s, table.get? id = some s ↔ table.Binds id s
  /-- What is found under a number has that number. -/
  id_eq : ∀ id s, table.get? id = some s → s.id = id
  /-- It is what the index has under the number. -/
  get?_eq_getElem? : ∀ id, table.get? id = table.index[id]?
  /-- The size is the number of different numbers. -/
  size_eq_card : table.size = (table.symbols.map Symbol.id).toFinset.card
  /-- It is also the number of numbers in the index. -/
  size_eq_size : table.size = table.index.size

theorem SymbolTable.looksUpFaithfully (table : SymbolTable) : table.LooksUpFaithfully where
  get?_eq_some_iff _ _ := SymbolTable.get?_eq_some_iff
  id_eq _ _ h := id_of_get? h
  get?_eq_getElem? id := by
    rw [index, getElem?_indexBy, Option.map_id]
    rfl
  size_eq_card := length_eraseDups _
  size_eq_size := by
    rw [index, size_indexBy]
    exact length_eraseDups _

end Snapshot

/-! ### Types -/

namespace Platform

/-- The positions of the types of a module, by their full names. -/
def Module.positions (m : Module) : Std.HashMap String Nat :=
  positionsBy TypeDeclaration.fullName m.types

/-- The types of a module are looked up faithfully. -/
structure Module.LooksUpFaithfully (m : Module) : Prop where
  /-- The type with a full name is the last one that has it. -/
  type?_eq_some_iff : ∀ name t, m.type? name = some t ↔ m.Declares name t
  /-- There is none exactly if no type has the name. -/
  type?_eq_none_iff : ∀ name, m.type? name = none ↔ ∀ t ∈ m.types, t.fullName ≠ name
  /-- It is the type at the position that the index has under the name. -/
  type?_eq_at_position : ∀ name, m.type? name = m.positions[name]?.bind (m.types[·]?)
  /-- No position in the index is beyond the types. -/
  position_lt : ∀ (name : String) (i : Nat), m.positions[name]? = some i → i < m.types.length
  /-- Ignoring case, a name stands for the type that has it, if there is one. -/
  typeIgnoringCase?_of_type? : ∀ name t, m.type? name = some t → m.typeIgnoringCase? name = some t
  /-- If there is none, it stands for the first type that has it but for case. -/
  typeIgnoringCase?_eq_some_iff : ∀ name t, m.type? name = none →
    (m.typeIgnoringCase? name = some t ↔
      IsFirst (fun u ↦ equalIgnoringCase u.fullName name = true) m.types t)

theorem Module.looksUpFaithfully (m : Module) : m.LooksUpFaithfully where
  type?_eq_some_iff _ _ := Module.type?_eq_some_iff
  type?_eq_none_iff _ := Module.type?_eq_none_iff
  type?_eq_at_position name := (getElem?_positionsBy_bind _ m.types name).symm
  position_lt _ _ h := lt_length_of_getElem?_positionsBy h
  typeIgnoringCase?_of_type? name t h := by
    rw [typeIgnoringCase?, h, Option.some_or]
  typeIgnoringCase?_eq_some_iff name t h := by
    rw [typeIgnoringCase?, h, Option.none_or, find?_eq_some_iff_isFirst]

end Platform

/-- **Lookups are faithful to the lists behind them.** In every tree, a number stands for the last
node that has it, which is the node at the position that an index of the nodes has under the number,
and no such position is beyond the nodes. The numbers of a tree are listed in document order with
their repetitions, and the lists of the kinds divide them: all occurrences of a number are under the
kind of the last node that has it. In every table, a number stands for the last symbol that has it,
which has this number, and the size is the number of different numbers. In every module, a full name
stands for the last type that has it; ignoring case it stands for the same one, and if there is none
for the first type that has it but for case. -/
theorem lookups_faithful (tree : Tree) (table : SymbolTable) (m : Module) :
    tree.LooksUpFaithfully ∧ table.LooksUpFaithfully ∧ m.LooksUpFaithfully :=
  ⟨tree.looksUpFaithfully, table.looksUpFaithfully, m.looksUpFaithfully⟩

end DeprecationLint
