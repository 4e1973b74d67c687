import DeprecationLint.Proofs.Scan

/-!
# What a survey finds

The four ways of using something deprecated, each declared by a condition on the node, the symbol
and the version of a finding, and on nothing that a scan does: `OverridesMember`,
`DeclaresVariable`, `AccessesMember` and `NamesMember`. The main statement, `mem_survey_iff`, is
that a survey finds **all of these and nothing else**, with the identifiers left out whose direct
parent is already reported.

Grouping and sorting of overriding declarations do not show in membership (`mem_grouped_iff`), and
neither does the order of the two passes that leave identifiers out.
-/

namespace DeprecationLint

open Platform Snapshot

/-! ### The uses, declared -/

/-- A member is deprecated in a version worth a report. -/
def MemberDeprecated (target : Target) (table : SymbolTable) (s : Symbol) (v : UInt64) : Prop :=
  ∃ kind a, memberKind? s.kind = some kind ∧ MemberAttribute target table s kind a ∧
    a.Carries v ∧ 0 < v ∧ v ≤ target.version

/-- A type is deprecated in a version worth a report. -/
def TypeDeprecated (target : Target) (table : SymbolTable) (type : SymbolId) (v : UInt64) :
    Prop :=
  ∃ a, TypeAttribute target table type a ∧ a.Carries v ∧ 0 < v ∧ v ≤ target.version

/-- The symbol of a finding is a member of a descendant of the root and deprecated in the version
of the finding. -/
def IsDeprecatedMember (target : Target) (table : SymbolTable) (f : Finding) (s : Symbol) :
    Prop :=
  table.Binds f.symbol s ∧ (∃ owner, s.containingType = some owner ∧
    DescendsFromRoot target table owner) ∧ MemberDeprecated target table s f.version

/-- A declaration of a property or method overrides a deprecated one. -/
def OverridesMember (target : Target) (table : SymbolTable) (tree : Tree) (f : Finding) : Prop :=
  ∃ n s, tree.Binds f.node n ∧ n.declared = some f.symbol ∧
    (n.kind = .propertyDeclaration ∧ s.kind = .property ∨
      n.kind = .methodDeclaration ∧ s.kind = .method) ∧
    s.isOverride = true ∧ IsDeprecatedMember target table f s

/-- A declarator introduces a local or a field of a deprecated type. -/
def DeclaresVariable (target : Target) (table : SymbolTable) (tree : Tree) (f : Finding) : Prop :=
  ∃ n id x, tree.Binds f.node n ∧ n.kind = .variableDeclarator ∧ n.declared = some id ∧
    table.Binds id x ∧ (x.kind = .localVariable ∨ x.kind = .field) ∧
    x.declaredType = some f.symbol ∧ DescendsFromRoot target table f.symbol ∧
    TypeDeprecated target table f.symbol f.version

/-- A member access is resolved to a deprecated method or property. -/
def AccessesMember (target : Target) (table : SymbolTable) (tree : Tree) (f : Finding) : Prop :=
  ∃ n s, tree.Binds f.node n ∧ n.kind = .memberAccess ∧ n.symbol = some f.symbol ∧
    (s.kind = .method ∨ s.kind = .property) ∧ IsDeprecatedMember target table f s

/-- An identifier is resolved to a deprecated method or property, or is not resolved and has one as
its first candidate. -/
def NamesMember (target : Target) (table : SymbolTable) (tree : Tree) (f : Finding) : Prop :=
  ∃ n s, tree.Binds f.node n ∧ n.kind = .identifier ∧
    (n.symbol = some f.symbol ∨ n.symbol = none ∧ n.candidates.head? = some f.symbol) ∧
    (s.kind = .method ∨ s.kind = .property) ∧ IsDeprecatedMember target table f s

/-- The direct parent of a node is itself a use: a member access or a declaration of a variable. -/
def ParentIsUse (target : Target) (table : SymbolTable) (tree : Tree) (node : NodeId) : Prop :=
  ∃ n g, tree.Binds node n ∧ n.parent = some g.node ∧
    (AccessesMember target table tree g ∨ DeclaresVariable target table tree g)

/-! ### Candidates are where the uses are -/

theorem mem_nodesOfKind_iff {tree : Tree} {kind : NodeKind} {n : Node} :
    n ∈ tree.nodesOfKind kind ↔ tree.Binds n.id n ∧ n.kind = kind := by
  rw [Tree.nodesOfKind, List.mem_filter, Tree.nodesAt, List.mem_filterMap, beq_iff_eq,
    ← Tree.node?_eq_some_iff]
  refine and_congr_left fun _ ↦ ⟨?_, fun h ↦ ?_⟩
  · rintro ⟨id, -, hid⟩
    rwa [Tree.id_of_node? hid]
  · exact ⟨n.id, List.mem_map_of_mem (Tree.mem_nodes_of_node? h), h⟩

namespace Candidate

variable {table : SymbolTable} {tree : Tree} {c : Candidate}

/-- **Grouping by owner loses no candidate and adds none.** -/
theorem mem_grouped_iff {cs : List Candidate} : c ∈ grouped table cs ↔ c ∈ cs := by
  simp only [grouped, owners, List.mem_flatMap, List.mem_mergeSort, List.mem_eraseDups,
    List.mem_map, List.mem_filter, beq_iff_eq]
  constructor
  · rintro ⟨owner, -, hc, -⟩
    exact hc
  · intro hc
    exact ⟨c.owner, ⟨c, hc, rfl⟩, hc, rfl⟩

theorem override?_eq_some_iff {kind : SymbolKind} {n : Node} :
    override? table kind n = some c ↔
      ∃ id s owner, n.declared = some id ∧ table.Binds id s ∧ s.kind = kind ∧
        s.isOverride = true ∧ s.containingType = some owner ∧
        c = { node := n.id, symbol := id, owner := some owner, lookup := .member } := by
  simp only [override?, Option.bind_eq_bind, Option.bind_eq_some_iff, Option.guard_eq_some',
    Option.pure_def, ← SymbolTable.get?_eq_some_iff, Option.some.injEq]
  constructor
  · rintro ⟨id, hid, s, hs, -, ⟨hkind, hover⟩, owner, howner, rfl⟩
    exact ⟨id, s, owner, hid, hs, hkind, hover, howner, rfl⟩
  · rintro ⟨id, s, owner, hid, hs, hkind, hover, howner, rfl⟩
    exact ⟨id, hid, s, hs, (), ⟨hkind, hover⟩, owner, howner, rfl⟩

theorem declarator?_eq_some_iff {n : Node} :
    declarator? table n = some c ↔
      ∃ id x type, n.declared = some id ∧ table.Binds id x ∧
        (x.kind = .localVariable ∨ x.kind = .field) ∧ x.declaredType = some type ∧
        c = { node := n.id, symbol := type, owner := some type, lookup := .type } := by
  have hkind : ∀ k : SymbolKind, k.isVariable = true ↔ k = .localVariable ∨ k = .field := by
    intro k
    cases k <;> simp [SymbolKind.isVariable]
  simp only [declarator?, Option.bind_eq_bind, Option.bind_eq_some_iff, Option.guard_eq_some',
    Option.pure_def, ← SymbolTable.get?_eq_some_iff, Option.some.injEq, hkind]
  constructor
  · rintro ⟨x, ⟨id, hid, hx⟩, -, hvar, type, htype, rfl⟩
    exact ⟨id, x, type, hid, hx, hvar, htype, rfl⟩
  · rintro ⟨id, x, type, hid, hx, hvar, htype, rfl⟩
    exact ⟨x, ⟨id, hid, hx⟩, (), hvar, type, htype, rfl⟩

theorem reference?_eq_some_iff {n : Node} {referred : Option SymbolId} :
    reference? table n referred = some c ↔
      ∃ id s, referred = some id ∧ table.Binds id s ∧ (s.kind = .method ∨ s.kind = .property) ∧
        c = { node := n.id, symbol := id, owner := s.containingType, lookup := .member } := by
  have hkind : ∀ k : SymbolKind, k.isMember = true ↔ k = .method ∨ k = .property := by
    intro k
    cases k <;> simp [SymbolKind.isMember]
  simp only [reference?, Option.bind_eq_bind, Option.bind_eq_some_iff, Option.guard_eq_some',
    Option.pure_def, ← SymbolTable.get?_eq_some_iff, Option.some.injEq, hkind]
  constructor
  · rintro ⟨id, hid, s, hs, -, hmember, rfl⟩
    exact ⟨id, s, hid, hs, hmember, rfl⟩
  · rintro ⟨id, s, hid, hs, hmember, rfl⟩
    exact ⟨id, hid, s, hs, (), hmember, rfl⟩

variable {target : Target}

/-- A candidate for a use of a member is a finding exactly when the member is deprecated. -/
theorem found?_member_iff {s : Symbol} {f : Finding} (hlookup : c.lookup = .member)
    (hs : table.Binds c.symbol s) (howner : c.owner = s.containingType) :
    c.found? target table = some f ↔
      c.node = f.node ∧ c.symbol = f.symbol ∧ IsDeprecatedMember target table f s := by
  rw [found?_eq_some_iff, howner]
  refine and_congr_right fun _ ↦ and_congr_right fun hsymbol ↦ ?_
  rw [IsDeprecatedMember, ← hsymbol, and_iff_right hs]
  refine and_congr_right fun _ ↦ ?_
  simp only [Resolves, hlookup]
  constructor
  · rintro ⟨a, ⟨s', kind, hs', hkind, ha⟩, hv⟩
    obtain rfl : s = s' := IsLast.unique hs hs'
    exact ⟨kind, a, hkind, ha, hv⟩
  · rintro ⟨kind, a, hkind, ha, hv⟩
    exact ⟨a, ⟨s, kind, hs, hkind, ha⟩, hv⟩

end Candidate

/-! ### Scans find the uses -/

variable {target : Target} {table : SymbolTable} {tree : Tree} {f : Finding}

theorem mem_scanned_iff {kind : UseKind} :
    f ∈ scanned target table tree kind ↔
      ∃ c ∈ Candidate.ofTree table tree kind, c.found? target table = some f :=
  List.mem_filterMap

theorem mem_scanned_typeDeclaration_iff :
    f ∈ scanned target table tree .typeDeclaration ↔ OverridesMember target table tree f := by
  have hone : ∀ (nodeKind : NodeKind) (kind : SymbolKind),
      (∃ c ∈ (tree.nodesOfKind nodeKind).filterMap (Candidate.override? table kind),
        c.found? target table = some f) ↔
      ∃ n s, tree.Binds f.node n ∧ n.declared = some f.symbol ∧
        (n.kind = nodeKind ∧ s.kind = kind) ∧ s.isOverride = true ∧
        IsDeprecatedMember target table f s := by
    intro nodeKind kind
    simp only [List.mem_filterMap, mem_nodesOfKind_iff, Candidate.override?_eq_some_iff]
    constructor
    · rintro ⟨c, ⟨n, ⟨hn, hnode⟩, id, s, owner, hid, hs, hkind, hover, howner, rfl⟩, hfound⟩
      obtain ⟨hfn, hfs, hdep⟩ := (Candidate.found?_member_iff rfl hs howner.symm).1 hfound
      exact ⟨n, s, hfn ▸ hn, hfs ▸ hid, ⟨hnode, hkind⟩, hover, hdep⟩
    · rintro ⟨n, s, hn, hid, ⟨hnode, hkind⟩, hover, hdep⟩
      obtain ⟨hs, ⟨owner, howner, -⟩, -⟩ := id hdep
      have hnid : n.id = f.node := Tree.id_of_node? (Tree.node?_eq_some_iff.2 hn)
      refine ⟨_, ⟨n, ⟨hnid ▸ hn, hnode⟩, f.symbol, s, owner, hid, hs, hkind, hover, howner, rfl⟩,
        (Candidate.found?_member_iff rfl hs howner.symm).2 ⟨hnid, rfl, hdep⟩⟩
  rw [mem_scanned_iff, OverridesMember]
  simp only [Candidate.ofTree, Candidate.mem_grouped_iff, Candidate.overrides, List.mem_append,
    or_and_right, exists_or, hone, and_or_left]

theorem mem_scanned_variableDeclaration_iff :
    f ∈ scanned target table tree .variableDeclaration ↔
      DeclaresVariable target table tree f := by
  simp only [mem_scanned_iff, Candidate.ofTree, List.mem_filterMap, mem_nodesOfKind_iff,
    Candidate.declarator?_eq_some_iff, DeclaresVariable, TypeDeprecated]
  constructor
  · rintro ⟨c, ⟨n, ⟨hn, hnode⟩, id, x, type, hid, hx, hvar, htype, rfl⟩, hfound⟩
    obtain ⟨hfn, hfs, ⟨owner, howner, hdesc⟩, hdep⟩ := Candidate.found?_eq_some_iff.1 hfound
    obtain rfl : type = owner := Option.some.inj howner
    exact ⟨n, id, x, hfn ▸ hn, hnode, hid, hx, hvar, hfs ▸ htype, hfs ▸ hdesc, hfs ▸ hdep⟩
  · rintro ⟨n, id, x, hn, hnode, hid, hx, hvar, htype, hdesc, hdep⟩
    have hnid : n.id = f.node := Tree.id_of_node? (Tree.node?_eq_some_iff.2 hn)
    exact ⟨_, ⟨n, ⟨hnid ▸ hn, hnode⟩, id, x, f.symbol, hid, hx, hvar, htype, rfl⟩,
      Candidate.found?_eq_some_iff.2 ⟨hnid, rfl, ⟨f.symbol, rfl, hdesc⟩, hdep⟩⟩

/-- References of one kind of node, whatever symbol they are taken to refer to. -/
theorem exists_reference_found_iff {kind : NodeKind} {referred : Node → Option SymbolId} :
    (∃ c ∈ (tree.nodesOfKind kind).filterMap fun n ↦ Candidate.reference? table n (referred n),
      c.found? target table = some f) ↔
    ∃ n s, tree.Binds f.node n ∧ n.kind = kind ∧ referred n = some f.symbol ∧
      (s.kind = .method ∨ s.kind = .property) ∧ IsDeprecatedMember target table f s := by
  simp only [List.mem_filterMap, mem_nodesOfKind_iff, Candidate.reference?_eq_some_iff]
  constructor
  · rintro ⟨c, ⟨n, ⟨hn, hnode⟩, id, s, hid, hs, hkind, rfl⟩, hfound⟩
    obtain ⟨hfn, hfs, hdep⟩ := (Candidate.found?_member_iff rfl hs rfl).1 hfound
    exact ⟨n, s, hfn ▸ hn, hnode, hfs ▸ hid, hkind, hdep⟩
  · rintro ⟨n, s, hn, hnode, hid, hkind, hdep⟩
    have hnid : n.id = f.node := Tree.id_of_node? (Tree.node?_eq_some_iff.2 hn)
    exact ⟨_, ⟨n, ⟨hnid ▸ hn, hnode⟩, f.symbol, s, hid, hdep.1, hkind, rfl⟩,
      (Candidate.found?_member_iff rfl hdep.1 rfl).2 ⟨hnid, rfl, hdep⟩⟩

theorem mem_scanned_memberAccess_iff :
    f ∈ scanned target table tree .memberAccess ↔ AccessesMember target table tree f := by
  rw [mem_scanned_iff, AccessesMember]
  exact exists_reference_found_iff

theorem mem_scanned_identifier_iff :
    f ∈ scanned target table tree .identifier ↔ NamesMember target table tree f := by
  have hbest : ∀ n : Node, n.bestSymbol = some f.symbol ↔
      n.symbol = some f.symbol ∨ n.symbol = none ∧ n.candidates.head? = some f.symbol := by
    intro n
    rw [Node.bestSymbol, Option.or_eq_some_iff]
  rw [mem_scanned_iff, NamesMember]
  simp only [← hbest]
  exact exists_reference_found_iff

theorem covers_iff {base : Findings} {node : NodeId} :
    base.covers tree node = true ↔
      ∃ n g, tree.Binds node n ∧ n.parent = some g.node ∧ g ∈ base := by
  have hparent : ∀ p, tree.parent? node = some p ↔
      ∃ n, tree.Binds node n ∧ n.parent = some p := by
    intro p
    rw [Tree.parent?, Option.bind_eq_some_iff]
    simp only [Tree.node?_eq_some_iff]
  rw [Findings.covers]
  split
  case h_1 p hp =>
    obtain ⟨n, hn, hnp⟩ := (hparent p).1 hp
    rw [Findings.containsNode_iff]
    constructor
    · rintro ⟨g, hg, rfl⟩
      exact ⟨n, g, hn, hnp, hg⟩
    · rintro ⟨n', g, hn', hng, hg⟩
      rw [(hparent _).2 ⟨n', hn', hng⟩] at hp
      exact ⟨g, hg, Option.some.inj hp⟩
  case h_2 hnone =>
    constructor
    · intro h
      exact absurd h (by simp)
    · rintro ⟨n, g, hn, hng, -⟩
      exact absurd ((hparent _).2 ⟨n, hn, hng⟩) (by simp [hnone])

/-! ### The survey -/

/-- **A survey finds exactly the uses of what is deprecated**: every overriding declaration, every
declaration of a variable and every member access, and those identifiers whose direct parent is not
itself such an access or declaration. -/
theorem mem_survey_iff {s : Survey} (h : survey target table tree = .ok s) (f : Finding) :
    (f ∈ s.typeDeclarations ↔ OverridesMember target table tree f) ∧
    (f ∈ s.variableDeclarations ↔ DeclaresVariable target table tree f) ∧
    (f ∈ s.memberAccesses ↔ AccessesMember target table tree f) ∧
    (f ∈ s.identifiers ↔
      NamesMember target table tree f ∧ ¬ParentIsUse target table tree f.node) := by
  obtain ⟨-, rfl⟩ := survey_eq_ok_iff.1 h
  refine ⟨mem_scanned_typeDeclaration_iff, mem_scanned_variableDeclaration_iff,
    mem_scanned_memberAccess_iff, ?_⟩
  simp only [surveyed, Findings.mem_dropCovered, mem_scanned_identifier_iff, and_assoc]
  refine and_congr_right fun _ ↦ ?_
  simp only [← Bool.not_eq_true, covers_iff, mem_scanned_memberAccess_iff,
    mem_scanned_variableDeclaration_iff, ParentIsUse, and_or_left, exists_or, not_or]

/-! ### A program with one use of each kind

A box is deprecated as a type in version 5, and its method `open` in version 6. A crate is a box of
the program itself, and overrides `open`. -/

/-- An attribute that deprecates something in a version. -/
def sinceVersion (v : UInt64) : Attribute where
  typeName := "Kit.Since"
  entries := [("Introduced", .number (.integer 1)), ("Deprecated", .number (.ofUnsigned v))]

/-- A platform with a root and a box. -/
def boxModule : Module where
  title := some "Kit"
  types := [
    { fullName := "Kit.Root", base := none, attributes := [], members := [], enumerants := [] },
    { fullName := "Kit.Since"
      base := none
      attributes := []
      members := [{ name := "Deprecated", kind := .property, attributes := [] }]
      enumerants := [] },
    { fullName := "Kit.Version"
      base := none
      attributes := []
      members := []
      enumerants := [{ name := "v5", value := 5 }, { name := "v6", value := 6 }] },
    { fullName := "Kit.Box"
      base := some "Kit.Root"
      attributes := [sinceVersion 5]
      members := [{ name := "open", kind := .method, attributes := [sinceVersion 6] }]
      enumerants := [] }]

/-- The latest version of that platform as a target. -/
def boxTarget : Target where
  module := boxModule
  rootName := "Root"
  rootFullName := "Kit.Root"
  attributeType := "Kit.Since"
  identity := "Kit"
  versions := { marker := "v", enumerants := [⟨"v5", 5⟩, ⟨"v6", 6⟩] }
  version := 6
  defaulted := true

/-- The symbols of a program with a crate. -/
def boxTable : SymbolTable where
  symbols :=
    let type : Symbol := {
      id := ⟨1⟩, name := "Root", displayName := some "Kit.Root", kind := .namedType
      module := "Kit", containingType := none, baseType := none, declaredType := none
      isOverride := false }
    [type,
      { type with id := ⟨2⟩, name := "Box", displayName := some "Kit.Box", baseType := some ⟨1⟩ },
      { type with id := ⟨3⟩, name := "open", kind := .method, containingType := some ⟨2⟩ },
      { type with id := ⟨4⟩, name := "Crate", module := "App", baseType := some ⟨2⟩ },
      { type with
        id := ⟨5⟩, name := "open", kind := .method, module := "App", containingType := some ⟨4⟩
        isOverride := true },
      { type with
        id := ⟨6⟩, name := "crate", kind := .localVariable, module := "App"
        declaredType := some ⟨4⟩ }]

/-- A source file that overrides `open`, declares a crate, opens it, and names `open` twice. -/
def boxTree : Tree where
  path := "src/crate.x"
  text := ""
  nodes :=
    let node : Node := {
      id := ⟨0⟩, kind := .other, start := 0, length := 0, parent := none, declared := none
      symbol := none, candidates := [] }
    [node,
      { node with id := ⟨1⟩, kind := .methodDeclaration, declared := some ⟨5⟩ },
      { node with id := ⟨2⟩, kind := .variableDeclarator, declared := some ⟨6⟩ },
      { node with id := ⟨3⟩, kind := .memberAccess, symbol := some ⟨3⟩ },
      { node with id := ⟨4⟩, kind := .identifier, parent := some ⟨3⟩, symbol := some ⟨3⟩ },
      { node with id := ⟨5⟩, kind := .identifier, parent := some ⟨0⟩, candidates := [⟨3⟩] }]

/-- The findings in that file. -/
def boxSurvey : Survey where
  typeDeclarations := [⟨⟨1⟩, ⟨5⟩, 6⟩]
  variableDeclarations := [⟨⟨2⟩, ⟨4⟩, 5⟩]
  memberAccesses := [⟨⟨3⟩, ⟨3⟩, 6⟩]
  identifiers := [⟨⟨5⟩, ⟨3⟩, 6⟩]

theorem survey_box : survey boxTarget boxTable boxTree = .ok boxSurvey := by
  decide +kernel

theorem mem_survey_iff_box :
    survey boxTarget boxTable boxTree = .ok boxSurvey ∧
    OverridesMember boxTarget boxTable boxTree ⟨⟨1⟩, ⟨5⟩, 6⟩ ∧
    DeclaresVariable boxTarget boxTable boxTree ⟨⟨2⟩, ⟨4⟩, 5⟩ ∧
    AccessesMember boxTarget boxTable boxTree ⟨⟨3⟩, ⟨3⟩, 6⟩ ∧
    (NamesMember boxTarget boxTable boxTree ⟨⟨5⟩, ⟨3⟩, 6⟩ ∧
      ¬ParentIsUse boxTarget boxTable boxTree ⟨5⟩) ∧
    ¬(NamesMember boxTarget boxTable boxTree ⟨⟨4⟩, ⟨3⟩, 6⟩ ∧
      ¬ParentIsUse boxTarget boxTable boxTree ⟨4⟩) := by
  refine ⟨survey_box, (mem_survey_iff survey_box _).1.1 (by decide),
    (mem_survey_iff survey_box _).2.1.1 (by decide),
    (mem_survey_iff survey_box _).2.2.1.1 (by decide),
    (mem_survey_iff survey_box _).2.2.2.1 (by decide), fun h ↦ ?_⟩
  exact absurd ((mem_survey_iff survey_box _).2.2.2.2 h) (by decide)

end DeprecationLint
