import DeprecationLint.Proofs.Uses
import Mathlib.Algebra.Ring.Nat

/-!
# Passes that leave out what is covered

A survey prunes its identifiers twice: first by the member accesses, then by the declarations of
variables. Pruning looks at nothing but the tree and the base at hand, so passes **commute, absorb
repetitions and merge**: what they leave together is said by one condition on a finding (`Stays`),
and each is over when it was made once.

* `left_passes`: what several passes leave is one filter.
* `covers_flatten`: a base put together from others covers what one of them covers.
* `sum_removed_passes`: each pass counts what it takes away, so nothing is counted twice.

`passes_eq_one_pass` has all of it, and ends with the two passes of a survey.
-/

namespace DeprecationLint

open Platform Snapshot

/-! ### What stays -/

/-- A finding stays if its node is unknown to the tree, or has no parent, or has a direct parent at
which none of the bases has a finding. -/
def Finding.Stays (tree : Tree) (bases : List Findings) (f : Finding) : Prop :=
  (∀ n ∈ tree.nodes, n.id ≠ f.node) ∨
    ∃ n, tree.Binds f.node n ∧
      (n.parent = none ∨
        ∃ parent, n.parent = some parent ∧ ∀ base ∈ bases, ∀ g ∈ base, g.node ≠ parent)

/-- A finding stays exactly when none of the bases covers it. -/
theorem Finding.stays_iff {tree : Tree} {bases : List Findings} {f : Finding} :
    f.Stays tree bases ↔ ∀ base ∈ bases, base.covers tree f.node = false := by
  simp only [← Bool.not_eq_true, covers_iff]
  constructor
  · rintro hstays base hbase ⟨n, g, hn, hparent, hg⟩
    rcases hstays with hunknown | ⟨n', hn', horphan | ⟨parent, hparent', hfree⟩⟩
    · have hnode := Tree.node?_eq_some_iff.2 hn
      exact hunknown n (Tree.mem_nodes_of_node? hnode) (Tree.id_of_node? hnode)
    · obtain rfl : n = n' := IsLast.unique hn hn'
      exact absurd (horphan.symm.trans hparent) (by simp)
    · obtain rfl : n = n' := IsLast.unique hn hn'
      exact hfree base hbase g hg (Option.some.inj (hparent.symm.trans hparent'))
  · intro hnone
    rcases hnode : tree.node? f.node with - | n
    · exact .inl (Tree.node?_eq_none_iff.1 hnode)
    have hn : tree.Binds f.node n := Tree.node?_eq_some_iff.1 hnode
    refine .inr ⟨n, hn, ?_⟩
    rcases hparent : n.parent with - | parent
    · exact .inl rfl
    · refine .inr ⟨parent, rfl, fun base hbase g hg hgp ↦ ?_⟩
      exact hnone base hbase ⟨n, g, hn, hgp ▸ hparent, hg⟩

instance (tree : Tree) (bases : List Findings) : DecidablePred (Finding.Stays tree bases) :=
  fun _ ↦ decidable_of_iff _ Finding.stays_iff.symm

/-- Only which bases there are decides, not their order or number. -/
theorem Finding.stays_congr {tree : Tree} {bases bases' : List Findings}
    (h : ∀ base, base ∈ bases' ↔ base ∈ bases) (f : Finding) :
    f.Stays tree bases' ↔ f.Stays tree bases := by
  simp only [stays_iff, h]

namespace Findings

variable {tree : Tree} {fs : Findings} {bases : List Findings}

/-! ### Passes in turn -/

/-- What is left after a pass with each of the bases in turn, and how many findings each of the
passes took away. -/
def passes (tree : Tree) : List Findings → Findings → Findings × List Nat
  | [], fs => (fs, [])
  | base :: bases, fs =>
    let later := passes tree bases (base.dropCovered tree fs)
    (later.1, base.countCovered tree fs :: later.2)

/-- A pass leaves what stays for its base alone. -/
theorem dropCovered_eq_filter (base : Findings) (tree : Tree) (fs : Findings) :
    base.dropCovered tree fs = fs.filter (Finding.Stays tree [base]) := by
  refine List.filter_congr fun f _ ↦ ?_
  rw [Bool.not_eq_eq_eq_not, Bool.eq_iff_iff]
  simp [Finding.stays_iff]

/-- **Several passes are one filter.** -/
theorem left_passes (tree : Tree) (bases : List Findings) (fs : Findings) :
    (passes tree bases fs).1 = fs.filter (Finding.Stays tree bases) := by
  induction bases generalizing fs with
  | nil => simp [passes, Finding.stays_iff]
  | cons base bases ih =>
    have hcons : ∀ f : Finding, f.Stays tree (base :: bases) ↔
        f.Stays tree [base] ∧ f.Stays tree bases := by
      intro f
      simp only [Finding.stays_iff, List.forall_mem_cons, List.not_mem_nil, false_implies,
        implies_true, and_true]
    calc (passes tree (base :: bases) fs).1
        = (base.dropCovered tree fs).filter (Finding.Stays tree bases) := ih _
      _ = fs.filter (Finding.Stays tree (base :: bases)) := by
        rw [dropCovered_eq_filter, List.filter_filter]
        simp only [hcons, Bool.decide_and, Bool.and_comm]

/-- **A base put together from others covers what one of them covers.** -/
theorem covers_flatten {node : NodeId} :
    covers bases.flatten tree node = true ↔ ∃ base ∈ bases, base.covers tree node = true := by
  simp only [covers_iff, List.mem_flatten]
  constructor
  · rintro ⟨n, g, hn, hparent, base, hbase, hg⟩
    exact ⟨base, hbase, n, g, hn, hparent, hg⟩
  · rintro ⟨base, hbase, n, g, hn, hparent, hg⟩
    exact ⟨n, g, hn, hparent, base, hbase, hg⟩

/-- **One pass with all bases put together leaves what the passes in turn leave.** -/
theorem dropCovered_flatten (tree : Tree) (bases : List Findings) (fs : Findings) :
    dropCovered bases.flatten tree fs = (passes tree bases fs).1 := by
  rw [left_passes, dropCovered]
  refine List.filter_congr fun f _ ↦ ?_
  rw [Bool.eq_iff_iff, Bool.not_eq_true', ← Bool.not_eq_true, covers_flatten, decide_eq_true_eq,
    Finding.stays_iff]
  simp

/-- A pass takes away as many findings as it counts, and no more than there are. -/
theorem countCovered_eq_sub (base : Findings) (tree : Tree) (fs : Findings) :
    (base.dropCovered tree fs).length ≤ fs.length ∧
      base.countCovered tree fs = fs.length - (base.dropCovered tree fs).length := by
  have hadd := countCovered_add_length_dropCovered base fs tree
  omega

/-- **What the passes take away and what they leave add up.** -/
theorem sum_removed_passes (tree : Tree) (bases : List Findings) (fs : Findings) :
    (passes tree bases fs).2.sum + (passes tree bases fs).1.length = fs.length := by
  induction bases generalizing fs with
  | nil => simp [passes]
  | cons base bases ih =>
    have hpass := countCovered_add_length_dropCovered base fs tree
    have hlater := ih (base.dropCovered tree fs)
    simp only [passes, List.sum_cons]
    omega

theorem length_removed_passes (tree : Tree) (bases : List Findings) (fs : Findings) :
    (passes tree bases fs).2.length = bases.length := by
  induction bases generalizing fs with
  | nil => rfl
  | cons base bases ih => simp only [passes, List.length_cons, ih]

/-- **A pass that was made has nothing left to do.** -/
theorem dropCovered_left_passes {base : Findings} (hbase : base ∈ bases) (fs : Findings) :
    base.dropCovered tree (passes tree bases fs).1 = (passes tree bases fs).1 ∧
      base.countCovered tree (passes tree bases fs).1 = 0 := by
  have hfree : ∀ f ∈ (passes tree bases fs).1, base.covers tree f.node = false := by
    intro f hf
    rw [left_passes, List.mem_filter, decide_eq_true_eq] at hf
    exact Finding.stays_iff.1 hf.2 base hbase
  constructor
  · exact List.filter_eq_self.2 fun f hf ↦ by simp [hfree f hf]
  · exact List.countP_eq_zero.2 fun f hf ↦ by simp [hfree f hf]

end Findings

/-! ### The passes of a survey -/

/-- The scans of a survey that succeeds all succeed. -/
theorem scan_of_survey {target : Target} {table : SymbolTable} {tree : Tree} {s : Survey}
    (h : survey target table tree = .ok s) (kind : UseKind) :
    scan target table tree kind = .ok (scanned target table tree kind) := by
  obtain ⟨hfault, -⟩ := survey_eq_ok_iff.1 h
  have hscan : scanFault? target table tree kind = none :=
    List.findSome?_eq_none_iff.1 hfault kind (by cases kind <;> decide)
  rw [scan_eq, hscan, unlessFault_none]

/-- **Passes in turn are one pass.** In whatever order the bases are taken, and however often each
of them, the passes leave the same findings: those that stay, in their order and as often as they
were there, which is what one pass with all bases put together leaves. Each pass counts the findings
it takes away, which are never more than there are, and the counts add up to what is missing in the
end. Afterwards a pass with any of the bases takes away nothing.

A survey makes two such passes over the identifiers; the bases are the scans as they were made. -/
theorem passes_eq_one_pass (tree : Tree) (fs : Findings) (bases : List Findings) :
    (Findings.passes tree bases fs).1 = fs.filter (Finding.Stays tree bases) ∧
    (∀ bases', (∀ base, base ∈ bases' ↔ base ∈ bases) →
      (Findings.passes tree bases' fs).1 = (Findings.passes tree bases fs).1) ∧
    (Findings.passes tree bases fs).1 = Findings.dropCovered bases.flatten tree fs ∧
    (Findings.passes tree bases fs).2.length = bases.length ∧
    (Findings.passes tree bases fs).2.sum + (Findings.passes tree bases fs).1.length =
      fs.length ∧
    (∀ (base gs : Findings), (base.dropCovered tree gs).length ≤ gs.length ∧
      base.countCovered tree gs = gs.length - (base.dropCovered tree gs).length) ∧
    (∀ base ∈ bases,
      base.dropCovered tree (Findings.passes tree bases fs).1 =
          (Findings.passes tree bases fs).1 ∧
        base.countCovered tree (Findings.passes tree bases fs).1 = 0) ∧
    ∀ (target : Target) (table : SymbolTable) (s : Survey),
      survey target table tree = .ok s →
      scan target table tree .memberAccess = .ok s.memberAccesses ∧
      scan target table tree .variableDeclaration = .ok s.variableDeclarations ∧
      ∃ raw, scan target table tree .identifier = .ok raw ∧
        s.identifiers =
          (Findings.passes tree [s.memberAccesses, s.variableDeclarations] raw).1 := by
  refine ⟨Findings.left_passes tree bases fs, fun bases' hsame ↦ ?_,
    (Findings.dropCovered_flatten tree bases fs).symm,
    Findings.length_removed_passes tree bases fs, Findings.sum_removed_passes tree bases fs,
    fun base gs ↦ Findings.countCovered_eq_sub base tree gs,
    fun base hbase ↦ Findings.dropCovered_left_passes hbase fs, fun target table s h ↦ ?_⟩
  · rw [Findings.left_passes, Findings.left_passes]
    simp only [Finding.stays_congr hsame]
  · have hscan := scan_of_survey h
    obtain ⟨-, rfl⟩ := survey_eq_ok_iff.1 h
    exact ⟨hscan .memberAccess, hscan .variableDeclaration, _, hscan .identifier, rfl⟩

/-- In the file with a crate, the identifier inside the access is taken away once, in whatever order
the passes are made. -/
theorem passes_eq_one_pass_box :
    survey boxTarget boxTable boxTree = .ok boxSurvey ∧
    scan boxTarget boxTable boxTree .memberAccess = .ok boxSurvey.memberAccesses ∧
    Findings.passes boxTree [boxSurvey.memberAccesses, boxSurvey.variableDeclarations]
      [⟨⟨4⟩, ⟨3⟩, 6⟩, ⟨⟨5⟩, ⟨3⟩, 6⟩] = (boxSurvey.identifiers, [1, 0]) ∧
    (Findings.passes boxTree [boxSurvey.variableDeclarations, boxSurvey.memberAccesses,
      boxSurvey.variableDeclarations] [⟨⟨4⟩, ⟨3⟩, 6⟩, ⟨⟨5⟩, ⟨3⟩, 6⟩]).1 =
        boxSurvey.identifiers := by
  have hbox := passes_eq_one_pass boxTree [⟨⟨4⟩, ⟨3⟩, 6⟩, ⟨⟨5⟩, ⟨3⟩, 6⟩]
    [boxSurvey.memberAccesses, boxSurvey.variableDeclarations]
  have hpasses : Findings.passes boxTree
      [boxSurvey.memberAccesses, boxSurvey.variableDeclarations]
      [⟨⟨4⟩, ⟨3⟩, 6⟩, ⟨⟨5⟩, ⟨3⟩, 6⟩] = (boxSurvey.identifiers, [1, 0]) := by decide
  obtain ⟨-, hreordered, -, -, -, -, -, hsurvey⟩ := hbox
  have hsame : ∀ base, base ∈ [boxSurvey.variableDeclarations, boxSurvey.memberAccesses,
      boxSurvey.variableDeclarations] ↔
      base ∈ [boxSurvey.memberAccesses, boxSurvey.variableDeclarations] := by
    intro base
    simp only [List.mem_cons, List.not_mem_nil, or_false]
    tauto
  refine ⟨survey_box, (hsurvey boxTarget boxTable boxSurvey survey_box).1, hpasses, ?_⟩
  rw [hreordered _ hsame, hpasses]

end DeprecationLint
