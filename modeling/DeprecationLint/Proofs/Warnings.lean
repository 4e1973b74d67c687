import DeprecationLint.Proofs.Coverage
import DeprecationLint.Proofs.LineIndex
import DeprecationLint.Proofs.Run

/-!
# What warnings are about

A warning has a word for everything. For a node that is not there it says that it stands on the
first line, and for a symbol that is not there that it is unknown, so no finding could ever keep a
report from being written. Findings of a survey do not need this: **each of them leads to a node, to
a symbol and to a version** (`ReportedUse.leads`).

For the three kinds of use of a member that is because the symbol was looked up to see that it is
one. A declarator is reported under the type of its variable, which nothing looked up on the way to
the candidate; there it is the test for descendants that only a type passes that is there.

`warnings_need_no_fallback` follows the findings to what is written about a source file.
-/

namespace DeprecationLint

open Platform Snapshot

/-! ### What a finding leads to -/

/-- A finding leads to a node of the source file and to a symbol of the program: the last ones that
have its numbers. -/
structure Finding.LeadsTo (f : Finding) (table : SymbolTable) (tree : Tree) (n : Node)
    (x : Symbol) : Prop where
  /-- The node. -/
  node : tree.Binds f.node n
  /-- The symbol. -/
  symbol : table.Binds f.symbol x

section Uses

variable {target : Target} {table : SymbolTable} {tree : Tree} {f : Finding}

theorem IsDeprecatedMember.version_ne_zero {x : Symbol}
    (h : IsDeprecatedMember target table f x) : f.version ≠ 0 := by
  obtain ⟨-, -, kind, a, -, -, -, hpos, -⟩ := h
  exact UInt64.pos_iff_ne_zero.1 hpos

theorem TypeDeprecated.version_ne_zero {type : SymbolId} {v : UInt64}
    (h : TypeDeprecated target table type v) : v ≠ 0 := by
  obtain ⟨a, -, -, hpos, -⟩ := h
  exact UInt64.pos_iff_ne_zero.1 hpos

/-- A deprecated member that a node uses is there, and so is the node. -/
theorem IsDeprecatedMember.leads {n : Node} {x : Symbol} (hn : tree.Binds f.node n)
    (h : IsDeprecatedMember target table f x) :
    ∃ n x, f.LeadsTo table tree n x ∧ f.version ≠ 0 :=
  ⟨n, x, ⟨hn, h.1⟩, h.version_ne_zero⟩

/-- **A use that is reported leads to a node, to a symbol and to a version.** -/
theorem ReportedUse.leads (h : ReportedUse target table tree f) :
    ∃ n x, f.LeadsTo table tree n x ∧ f.version ≠ 0 := by
  rcases h with hoverrides | hdeclares | haccesses | ⟨hnames, -⟩
  · obtain ⟨n, x, hn, -, -, -, hmember⟩ := hoverrides
    exact hmember.leads hn
  · -- nothing but the test for descendants tells that the type is there
    obtain ⟨n, id, v, hn, -, -, -, -, -, ⟨x, hx, -⟩, htype⟩ := hdeclares
    exact ⟨n, x, ⟨hn, hx⟩, htype.version_ne_zero⟩
  · obtain ⟨n, x, hn, -, -, -, hmember⟩ := haccesses
    exact hmember.leads hn
  · obtain ⟨n, x, hn, -, -, -, hmember⟩ := hnames
    exact hmember.leads hn

end Uses

/-! ### What a warning says -/

/-- Every node stands on one of the lines of its source file. -/
theorem Snapshot.Tree.lineOf_lt (tree : Tree) (offset : Nat) :
    tree.lineOf offset < (Text.LineIndex.ofText tree.text).lineCount :=
  Text.LineIndex.lineOf_lt_lineCount tree.text offset

/-- **A finding is reported by what it leads to.** -/
theorem Finding.LeadsTo.warning_eq {f : Finding} {table : SymbolTable} {tree : Tree} {n : Node}
    {x : Symbol} (h : f.LeadsTo table tree n x) (target : Target) :
    f.warning target table tree =
      "\x7b" ++ tree.fileName ++ ", " ++ toString (tree.lineOf n.start.toNat) ++ "\x7d WARNING: "
        ++ x.name ++ " has been deprecated in " ++ target.versions.format f.version := by
  have hline : f.line tree = tree.lineOf n.start.toNat := by
    rw [Finding.line, Tree.node?_eq_some_iff.2 h.node]
  have hname : f.symbolName table = x.name := by
    rw [Finding.symbolName, SymbolTable.get?_eq_some_iff.2 h.symbol]
  rw [Finding.warning, hline, hname]

/-- A source file with a survey has the warnings about its findings written, in their order. -/
theorem Inspection.writes_runTree_of_survey {i : Inspection} {table : SymbolTable} {tree : Tree}
    {s : Survey} (h : survey i.target table tree = .ok s) :
    Emit.Writes (i.runTree table tree)
      ((s.findings.map fun f ↦ f.warning i.target table tree).flatMap Emit.lineBytes)
      (.ok s.findings.length) := by
  have hwrites := i.writes_runTree table tree
  obtain ⟨hfault, hfound⟩ := survey_eq_ok_iff.1 h
  rw [h, hfault, hfound, unlessFault_none, Survey.size_eq] at hwrites
  rw [List.flatMap_map]
  exact hwrites

/-- **Warnings never fall back on anything.** If a source file has a survey, then under the number
of the node of each finding there is a node, under that of its symbol a symbol, and its version is
not zero; a declarator is reported under the type of the variable that it declares.

To every sink the lines written about the file are, one for each finding and in the same order, the
name of the file, the line on which the last node with the number of the finding starts, which is a
line of the file, the name of the last symbol with its number, and the text of its version. -/
theorem warnings_need_no_fallback {target : Target} {table : SymbolTable} {tree : Tree} {s : Survey}
    (h : survey target table tree = .ok s) :
    (∀ f ∈ s.findings, (∃ n, tree.node? f.node = some n) ∧ (∃ x, table.get? f.symbol = some x) ∧
      f.version ≠ 0) ∧
    (∀ f ∈ s.variableDeclarations, ∃ n id v, tree.Binds f.node n ∧ n.kind = .variableDeclarator ∧
      n.declared = some id ∧ table.Binds id v ∧ v.declaredType = some f.symbol) ∧
    ∃ lines : List String,
      List.Forall₂ (fun f line ↦ ∃ n x, tree.Binds f.node n ∧ table.Binds f.symbol x ∧
        tree.lineOf n.start.toNat < (Text.LineIndex.ofText tree.text).lineCount ∧
        line = "\x7b" ++ tree.fileName ++ ", " ++ toString (tree.lineOf n.start.toNat)
          ++ "\x7d WARNING: " ++ x.name ++ " has been deprecated in "
          ++ target.versions.format f.version) s.findings lines ∧
      ∀ excluded : String → Bool,
        Emit.Writes (Inspection.runTree { target, excluded } table tree)
          (lines.flatMap Emit.lineBytes) (.ok lines.length) := by
  have hleads : ∀ f ∈ s.findings, ∃ n x, f.LeadsTo table tree n x ∧ f.version ≠ 0 := by
    intro f hf
    rw [← (survey_eq_ok_iff.1 h).2] at hf
    exact (mem_findings_surveyed_iff.1 hf).leads
  refine ⟨fun f hf ↦ ?_, fun f hf ↦ ?_, s.findings.map (·.warning target table tree), ?_, ?_⟩
  · obtain ⟨n, x, hto, hversion⟩ := hleads f hf
    exact ⟨⟨n, Tree.node?_eq_some_iff.2 hto.node⟩, ⟨x, SymbolTable.get?_eq_some_iff.2 hto.symbol⟩,
      hversion⟩
  · rw [← (survey_eq_ok_iff.1 h).2] at hf
    obtain ⟨n, id, v, hn, hkind, hid, hv, -, htype, -⟩ := mem_scanned_variableDeclaration_iff.1 hf
    exact ⟨n, id, v, hn, hkind, hid, hv, htype⟩
  · rw [List.forall₂_map_right_iff, List.forall₂_same]
    intro f hf
    obtain ⟨n, x, hto, -⟩ := hleads f hf
    exact ⟨n, x, hto.node, hto.symbol, tree.lineOf_lt _, hto.warning_eq target⟩
  · intro excluded
    rw [List.length_map]
    exact Inspection.writes_runTree_of_survey h

/-- The symbols of a program with a crate that was once called a chest, under the same number. -/
def chestTable : SymbolTable where
  symbols := (boxTable.symbols.map fun x ↦
    if x.id = ⟨4⟩ then { x with name := "Chest" } else x) ++ boxTable.symbols

/-- A source file of two lines, with a declarator on each of them under the same number. -/
def chestTree : Tree :=
  { boxTree with
    text := "chest\ncrate"
    nodes := boxTree.nodes ++ [{
      id := ⟨2⟩, kind := .variableDeclarator, start := 6, length := 5, parent := none
      declared := some ⟨6⟩, symbol := none, candidates := [] }] }

/-- The findings in that file. -/
def chestSurvey : Survey :=
  { boxSurvey with variableDeclarations := [⟨⟨2⟩, ⟨4⟩, 5⟩, ⟨⟨2⟩, ⟨4⟩, 5⟩] }

theorem warnings_need_no_fallback_chest :
    survey boxTarget chestTable chestTree = .ok chestSurvey ∧
    (∀ f ∈ chestSurvey.findings, (∃ n, chestTree.node? f.node = some n) ∧
      (∃ x, chestTable.get? f.symbol = some x) ∧ f.version ≠ 0) ∧
    ∃ lines : List String, lines.length = 5 ∧
      Emit.Writes (Inspection.runTree { target := boxTarget } chestTable chestTree)
        (lines.flatMap Emit.lineBytes) (.ok 5) := by
  have hsurvey : survey boxTarget chestTable chestTree = .ok chestSurvey := by decide +kernel
  obtain ⟨hleads, -, lines, hlines, hwrites⟩ := warnings_need_no_fallback hsurvey
  have hlength : lines.length = 5 := hlines.length_eq.symm
  exact ⟨hsurvey, hleads, lines, hlength, hlength ▸ hwrites fun _ ↦ false⟩

-- both declarators are reported on the line of the last one, under the last name of their type
example : chestSurvey.variableDeclarations.map (·.warning boxTarget chestTable chestTree) =
    ["\x7bcrate.x, 1\x7d WARNING: Crate has been deprecated in 5",
      "\x7bcrate.x, 1\x7d WARNING: Crate has been deprecated in 5"] := by
  decide +kernel

end DeprecationLint
