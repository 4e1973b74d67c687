import DeprecationLint.Proofs.Repetition

/-!
# The order of overriding declarations

Overriding declarations are not reported in document order: they are grouped by the type they belong
to, and the groups are sorted by the names of these types. Names need not be unique and need not
exist, so the order of the groups is a **stable** one, by name and then by first appearance.

Three facts about lists carry the result. `eraseDups` lists what it keeps by first appearance
(`pairwise_idxOf_eraseDups`), a stable sort keeps the order of what it cannot tell apart
(`pairwise_mergeSort_of_pairwise`), and groups by different keys stand in one piece each
(`exists_flatMap_filter_eq`). `overrides_grouped_by_owner` puts them together; that nothing is lost
or repeated on the way is `Candidate.grouped_perm`.
-/

namespace DeprecationLint

open Platform Snapshot

/-! ### First appearances -/

section Lists

variable {α κ : Type}

/-- What stands first among the elements of a filter stands first in the list. -/
theorem idxOf_lt_of_idxOf_filter_lt [BEq α] [LawfulBEq α] {p : α → Bool} {a b : α}
    (ha : p a = true) (hb : p b = true) {l : List α}
    (h : (l.filter p).idxOf a < (l.filter p).idxOf b) : l.idxOf a < l.idxOf b := by
  induction l with
  | nil => exact h
  | cons c l ih =>
    by_cases hca : c = a
    · subst hca
      rw [List.filter_cons_of_pos ha] at h
      by_cases hcb : c = b
      · subst hcb
        exact absurd h (Nat.lt_irrefl _)
      · simp [hcb]
    · by_cases hcb : c = b
      · subst hcb
        rw [List.filter_cons_of_pos hb] at h
        simp [List.idxOf_cons] at h
      · have htail : (l.filter p).idxOf a < (l.filter p).idxOf b := by
          cases hc : p c with
          | false => rwa [List.filter_cons_of_neg (by simp [hc])] at h
          | true => simpa [List.filter_cons_of_pos hc, List.idxOf_cons, hca, hcb] using h
        simpa [List.idxOf_cons, hca, hcb] using ih htail

/-- **A list without its repetitions has its elements in the order of their first appearance.** -/
theorem pairwise_idxOf_eraseDups [BEq α] [LawfulBEq α] (l : List α) :
    l.eraseDups.Pairwise fun a b ↦ l.idxOf a < l.idxOf b := by
  induction l using eraseDups_induction with
  | nil => exact List.Pairwise.nil
  | cons a l ih =>
    have hkept : ∀ b ∈ (l.filter fun b ↦ !b == a).eraseDups, (!b == a) = true := by
      intro b hb
      exact (List.mem_filter.1 (List.mem_eraseDups.1 hb)).2
    have hsucc : ∀ b, (!b == a) = true → (a :: l).idxOf b = l.idxOf b + 1 := by
      intro b hb
      have hne : (a == b) = false := by
        rw [BEq.comm]
        simpa using hb
      rw [List.idxOf_cons, hne]
      rfl
    rw [List.eraseDups_cons, List.pairwise_cons]
    constructor
    · intro b hb
      rw [hsucc b (hkept b hb), List.idxOf_cons_self]
      omega
    · refine ih.imp_of_mem fun {b c} hb hc hlt ↦ ?_
      have hlt' : l.idxOf b < l.idxOf c :=
        idxOf_lt_of_idxOf_filter_lt (p := fun b ↦ !b == a) (hkept b hb) (hkept c hc) hlt
      rw [hsucc b (hkept b hb), hsucc c (hkept c hc)]
      omega

/-! ### Stable sorting -/

section Stable

variable {le : α → α → Bool} (htrans : ∀ a b c, le a b = true → le b c = true → le a c = true)
  (htotal : ∀ a b, (le a b || le b a) = true)

include htrans htotal

/-- **A stable sort leaves a class of ties as it was.** -/
theorem filter_mergeSort_of_ties {p : α → Bool}
    (hties : ∀ a b, p a = true → p b = true → le a b = true) (l : List α) :
    (l.mergeSort le).filter p = l.filter p := by
  have hpairwise : (l.filter p).Pairwise fun a b ↦ le a b = true :=
    List.pairwise_of_forall_mem_list fun a ha b hb ↦
      hties a b (List.mem_filter.1 ha).2 (List.mem_filter.1 hb).2
  have hsublist : (l.filter p).Sublist ((l.mergeSort le).filter p) := by
    have h := (List.sublist_mergeSort htrans htotal hpairwise List.filter_sublist).filter p
    rwa [List.filter_filter, funext fun a ↦ Bool.and_self (p a)] at h
  have hlength : (l.filter p).length = ((l.mergeSort le).filter p).length :=
    ((List.mergeSort_perm l le).filter p).length_eq.symm
  exact (hsublist.eq_of_length hlength).symm

/-- **A stable sort keeps the order of what it cannot tell apart.** -/
theorem pairwise_mergeSort_of_pairwise {r : α → α → Prop} {l : List α} (hl : l.Pairwise r) :
    (l.mergeSort le).Pairwise fun a b ↦ le a b = true ∧ (le b a = true → r a b) := by
  have hrefl : ∀ a, le a a = true := fun a ↦ by simpa using htotal a a
  rw [List.pairwise_iff_forall_sublist]
  intro a b hab
  have hle : le a b = true :=
    List.pairwise_iff_forall_sublist.1 (List.pairwise_mergeSort htrans htotal l) hab
  refine ⟨hle, fun hge ↦ ?_⟩
  -- the ties of `b` stand in the sorted list as they stood before
  have hties : ∀ c d, (le c b && le b c) = true → (le d b && le b d) = true → le c d = true := by
    intro c d hc hd
    rw [Bool.and_eq_true] at hc hd
    exact htrans c b d hc.1 hd.2
  have hpair : [a, b].filter (fun c ↦ le c b && le b c) = [a, b] := by
    simp [hle, hge, hrefl b]
  have hsublist : [a, b].Sublist l := by
    have h := hab.filter fun c ↦ le c b && le b c
    rw [hpair, filter_mergeSort_of_ties htrans htotal hties] at h
    exact h.trans List.filter_sublist
  exact List.pairwise_iff_forall_sublist.1 hl hsublist

end Stable

/-! ### Groups -/

/-- **A group stands in one piece**: between what comes before and what comes after it, all of
other keys, are the elements of its key as they stood. -/
theorem exists_flatMap_filter_eq [BEq κ] [LawfulBEq κ] {key : α → κ} {keys : List κ} {l : List α}
    (hnodup : keys.Nodup) (hkeys : ∀ a ∈ l, key a ∈ keys) (k : κ) :
    ∃ before after,
      (keys.flatMap fun k ↦ l.filter (key · == k)) = before ++ l.filter (key · == k) ++ after ∧
      ∀ a ∈ before ++ after, key a ≠ k := by
  have hkey : ∀ {ks : List κ} {a}, a ∈ (ks.flatMap fun k ↦ l.filter (key · == k)) → key a ∈ ks := by
    intro ks a ha
    obtain ⟨k', hk', hak⟩ := List.mem_flatMap.1 ha
    have hak' : key a = k' := by simpa using (List.mem_filter.1 hak).2
    exact hak' ▸ hk'
  by_cases hk : k ∈ keys
  · obtain ⟨ks, ks', rfl⟩ := List.append_of_mem hk
    have hparts := List.nodup_append.1 hnodup
    have hbefore : k ∉ ks := fun h ↦ hparts.2.2 k h k List.mem_cons_self rfl
    have hafter : k ∉ ks' := (List.nodup_cons.1 hparts.2.1).1
    refine ⟨_, _, by rw [List.flatMap_append, List.flatMap_cons, ← List.append_assoc], ?_⟩
    intro a ha hak
    rcases List.mem_append.1 ha with h | h
    · exact hbefore (hak ▸ hkey h)
    · exact hafter (hak ▸ hkey h)
  · have hnone : l.filter (key · == k) = [] := by
      rw [List.filter_eq_nil_iff]
      intro a ha hak
      exact hk (eq_of_beq hak ▸ hkeys a ha)
    refine ⟨_, [], by rw [hnone, List.append_nil, List.append_nil], ?_⟩
    intro a ha hak
    rw [List.append_nil] at ha
    exact hk (hak ▸ hkey ha)

end Lists

/-! ### Owners and candidates -/

namespace Candidate

/-- The declarations of overriding properties, in document order. -/
def overridingProperties (table : SymbolTable) (tree : Tree) : List Candidate :=
  (tree.nodesOfKind .propertyDeclaration).filterMap (override? table .property)

/-- The declarations of overriding methods, in document order. -/
def overridingMethods (table : SymbolTable) (tree : Tree) : List Candidate :=
  (tree.nodesOfKind .methodDeclaration).filterMap (override? table .method)

/-- The place at which an owner first appears, among properties and then methods. -/
def firstPlace (table : SymbolTable) (tree : Tree) (owner : Option SymbolId) : Nat :=
  ((overridingProperties table tree ++ overridingMethods table tree).map (·.owner)).idxOf owner

theorem overrides_eq_append (table : SymbolTable) (tree : Tree) :
    overrides table tree = overridingProperties table tree ++ overridingMethods table tree :=
  rfl

/-- **Owners come by name, and by first appearance among equal names.** -/
theorem pairwise_owners (table : SymbolTable) (cs : List Candidate) :
    (owners table cs).Pairwise fun o o' ↦
      Text.bytesLe (ownerName table o) (ownerName table o') = true ∧
      (ownerName table o = ownerName table o' →
        (cs.map (·.owner)).idxOf o < (cs.map (·.owner)).idxOf o') := by
  have htrans : ∀ a b c, Text.bytesLe (ownerName table a) (ownerName table b) = true →
      Text.bytesLe (ownerName table b) (ownerName table c) = true →
      Text.bytesLe (ownerName table a) (ownerName table c) = true :=
    fun _ _ _ ↦ Text.bytesLe_trans
  have htotal : ∀ a b, (Text.bytesLe (ownerName table a) (ownerName table b) ||
      Text.bytesLe (ownerName table b) (ownerName table a)) = true :=
    fun _ _ ↦ Text.bytesLe_total _ _
  have hstable := pairwise_mergeSort_of_pairwise htrans htotal
    (pairwise_idxOf_eraseDups (cs.map (·.owner)))
  refine hstable.imp fun {o o'} h ↦ ⟨h.1, fun hname ↦ h.2 ?_⟩
  rw [hname] at h ⊢
  exact h.1

/-- What holds from one owner to a later one, and from an owner to itself, holds from one candidate
to a later one. -/
theorem pairwise_grouped {table : SymbolTable} {cs : List Candidate}
    {r : Option SymbolId → Option SymbolId → Prop} (hrefl : ∀ o, r o o)
    (h : (owners table cs).Pairwise r) :
    (grouped table cs).Pairwise fun c d ↦ r c.owner d.owner := by
  have howner : ∀ {o} {c : Candidate}, c ∈ cs.filter (·.owner == o) → c.owner = o := by
    intro o c hc
    simpa using (List.mem_filter.1 hc).2
  rw [grouped, List.pairwise_flatMap]
  constructor
  · intro o _
    refine List.pairwise_of_forall_mem_list fun c hc d hd ↦ ?_
    rw [howner hc, howner hd]
    exact hrefl o
  · refine h.imp fun {o o'} hr c hc d hd ↦ ?_
    rw [howner hc, howner hd]
    exact hr

end Candidate

/-- **Overriding declarations are grouped by the type they belong to.** The candidates are the
overriding properties and methods, none lost and none repeated. Those of one type stand in one
piece, its properties before its methods and each in document order. The pieces come in the order
of the bytes of their types' names, a type that leads nowhere having the empty name, and those of
equal names in the order in which their types first appear among properties and then methods. What
a scan finds keeps this order. -/
theorem overrides_grouped_by_owner (table : SymbolTable) (tree : Tree) :
    (Candidate.ofTree table tree .typeDeclaration).Perm
      (Candidate.overridingProperties table tree ++ Candidate.overridingMethods table tree) ∧
    (∀ owner, ∃ before after,
      Candidate.ofTree table tree .typeDeclaration =
        before ++ ((Candidate.overridingProperties table tree).filter (·.owner == owner) ++
          (Candidate.overridingMethods table tree).filter (·.owner == owner)) ++ after ∧
      ∀ c ∈ before ++ after, c.owner ≠ owner) ∧
    (Candidate.ofTree table tree .typeDeclaration).Pairwise (fun c d ↦
      Text.bytes (Candidate.ownerName table c.owner) ≤
        Text.bytes (Candidate.ownerName table d.owner)) ∧
    (Candidate.ofTree table tree .typeDeclaration).Pairwise (fun c d ↦
      Candidate.ownerName table c.owner = Candidate.ownerName table d.owner →
        Candidate.firstPlace table tree c.owner ≤ Candidate.firstPlace table tree d.owner) ∧
    ∀ target found, scan target table tree .typeDeclaration = .ok found →
      (found.map fun f ↦ (f.node, f.symbol)).Sublist
        ((Candidate.ofTree table tree .typeDeclaration).map fun c ↦ (c.node, c.symbol)) := by
  have howners := Candidate.pairwise_owners table (Candidate.overrides table tree)
  have hnames : (Candidate.owners table (Candidate.overrides table tree)).Pairwise fun o o' ↦
      Text.bytes (Candidate.ownerName table o) ≤ Text.bytes (Candidate.ownerName table o') :=
    howners.imp fun {o o'} h ↦ of_decide_eq_true h.1
  have hties : (Candidate.owners table (Candidate.overrides table tree)).Pairwise fun o o' ↦
      Candidate.ownerName table o = Candidate.ownerName table o' →
        Candidate.firstPlace table tree o ≤ Candidate.firstPlace table tree o' :=
    howners.imp fun {o o'} h hname ↦ (h.2 hname).le
  refine ⟨Candidate.grouped_perm _ _, fun owner ↦ ?_,
    Candidate.pairwise_grouped (fun _ ↦ List.le_refl _) hnames,
    Candidate.pairwise_grouped (fun _ _ ↦ Nat.le_refl _) hties, fun target found h ↦ ?_⟩
  · rw [← List.filter_append, ← Candidate.overrides_eq_append]
    exact exists_flatMap_filter_eq (Candidate.nodup_owners _ _)
      (fun _ ↦ Candidate.owner_mem_owners) owner
  · rw [scan_eq, unlessFault_eq_ok_iff] at h
    obtain ⟨-, rfl⟩ := h
    refine map_filterMap_sublist (fun {c f} hf ↦ ?_) _
    obtain ⟨hnode, hsymbol, -⟩ := Candidate.found?_eq_some_iff.1 hf
    rw [hnode, hsymbol]

/-! ### Crates of one name -/

/-- The symbols of a program with two types of the name `Crate`, and with a member of a type that
leads nowhere. -/
def cratesTable : SymbolTable where
  symbols :=
    let member : Symbol := {
      id := ⟨8⟩, name := "open", displayName := none, kind := .method, module := "App"
      containingType := some ⟨7⟩, baseType := none, declaredType := none, isOverride := true }
    boxTable.symbols ++ [
      { member with
        id := ⟨7⟩, name := "Crate", kind := .namedType, containingType := none
        baseType := some ⟨2⟩, isOverride := false },
      member,
      { member with id := ⟨9⟩, containingType := some ⟨99⟩ },
      { member with id := ⟨10⟩, name := "lid", kind := .property, containingType := some ⟨4⟩ }]

/-- A source file that overrides `open` in both crates and in a type that leads nowhere, and `lid`
in the first. -/
def cratesTree : Tree where
  path := "src/crates.x"
  text := ""
  nodes :=
    let method : Node := {
      id := ⟨1⟩, kind := .methodDeclaration, start := 0, length := 0, parent := none
      declared := some ⟨8⟩, symbol := none, candidates := [] }
    [method,
      { method with id := ⟨2⟩, declared := some ⟨5⟩ },
      { method with id := ⟨3⟩, declared := some ⟨9⟩ },
      { method with id := ⟨4⟩, kind := .propertyDeclaration, declared := some ⟨10⟩ }]

theorem ofTree_crates :
    Candidate.ofTree cratesTable cratesTree .typeDeclaration =
      [⟨⟨3⟩, ⟨9⟩, some ⟨99⟩, .member⟩, ⟨⟨4⟩, ⟨10⟩, some ⟨4⟩, .member⟩,
        ⟨⟨2⟩, ⟨5⟩, some ⟨4⟩, .member⟩, ⟨⟨1⟩, ⟨8⟩, some ⟨7⟩, .member⟩] := by
  have hfirst : ((Candidate.overrides cratesTable cratesTree).map (·.owner)).eraseDups =
      [some ⟨4⟩, some ⟨7⟩, some ⟨99⟩] := by decide +kernel
  -- the crates have the same name and keep their order, and no name comes before theirs
  have hsame : Text.bytesLe (Candidate.ownerName cratesTable (some ⟨4⟩))
      (Candidate.ownerName cratesTable (some ⟨7⟩)) = true := by decide +kernel
  have hempty : Text.bytesLe (Candidate.ownerName cratesTable (some ⟨4⟩))
      (Candidate.ownerName cratesTable (some ⟨99⟩)) = false := by decide +kernel
  have howners : Candidate.owners cratesTable (Candidate.overrides cratesTable cratesTree) =
      [some ⟨99⟩, some ⟨4⟩, some ⟨7⟩] := by
    rw [Candidate.owners, hfirst]
    simp [List.mergeSort, List.MergeSort.Internal.splitInTwo, hsame, hempty]
  show Candidate.grouped cratesTable (Candidate.overrides cratesTable cratesTree) = _
  rw [Candidate.grouped, howners]
  decide +kernel

theorem overrides_grouped_by_owner_crates :
    (Candidate.ofTree cratesTable cratesTree .typeDeclaration).map (·.node) =
      [⟨3⟩, ⟨4⟩, ⟨2⟩, ⟨1⟩] ∧
    scan boxTarget cratesTable cratesTree .typeDeclaration =
      .ok [⟨⟨2⟩, ⟨5⟩, 6⟩, ⟨⟨1⟩, ⟨8⟩, 6⟩] ∧
    (Candidate.ofTree cratesTable cratesTree .typeDeclaration).Perm
      (Candidate.overridingProperties cratesTable cratesTree ++
        Candidate.overridingMethods cratesTable cratesTree) ∧
    [(⟨2⟩, ⟨5⟩), (⟨1⟩, ⟨8⟩)].Sublist
      ((Candidate.ofTree cratesTable cratesTree .typeDeclaration).map fun c ↦
        (c.node, c.symbol)) := by
  have hscan : scan boxTarget cratesTable cratesTree .typeDeclaration =
      .ok [⟨⟨2⟩, ⟨5⟩, 6⟩, ⟨⟨1⟩, ⟨8⟩, 6⟩] := by
    rw [scan, ofTree_crates]
    decide +kernel
  obtain ⟨hperm, -, -, -, hfound⟩ := overrides_grouped_by_owner cratesTable cratesTree
  exact ⟨by rw [ofTree_crates]; rfl, hscan, hperm, hfound _ _ hscan⟩

end DeprecationLint
