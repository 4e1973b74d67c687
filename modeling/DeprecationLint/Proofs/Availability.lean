import DeprecationLint.Availability
import DeprecationLint.Proofs.Lineage
import DeprecationLint.Snapshot.Tree

/-!
# Availability, declared

What the lookups of the analysis are meant to find, said without walks, bounds and lists of what
was met: numbers and names stand for the last entry that has them (`Binds`, `Declares`), a type
descends from the root when following bases **some number of times** reaches it
(`DescendsFromRoot`), and the attribute that decides is the **nearest** one, first along the bases
in the program and then along the declared bases (`MemberAttribute`, `TypeAttribute`).

Each lookup is then shown to find exactly that: `isDescendant_iff`, `memberAttribute?_eq_some_iff`,
`typeAttribute?_eq_some_iff`. Bases may be missing, lead nowhere or lead in circles throughout; an
orbit copes with all three, and `mem_lineage_iff` says that the walks do as well.
-/

namespace DeprecationLint

open Platform Snapshot

/-! ### The last entry counts -/

/-- The last element of a list with a property. -/
def IsLast {α : Type} (p : α → Prop) (l : List α) (a : α) : Prop :=
  ∃ before after, l = before ++ a :: after ∧ p a ∧ ∀ b ∈ after, ¬p b

theorem find?_reverse_eq_some_iff {α : Type} {p : α → Bool} {l : List α} {a : α} :
    l.reverse.find? p = some a ↔ IsLast (fun b ↦ p b = true) l a := by
  rw [List.find?_eq_some_iff_append]
  constructor
  · rintro ⟨hp, as, bs, hsplit, hnot⟩
    refine ⟨bs.reverse, as.reverse, ?_, hp, fun b hb ↦ ?_⟩
    · rw [← List.reverse_reverse l, hsplit]
      simp
    · simpa using hnot b (List.mem_reverse.1 hb)
  · rintro ⟨before, after, rfl, hp, hnot⟩
    refine ⟨hp, after.reverse, before.reverse, by simp, fun b hb ↦ ?_⟩
    simpa using hnot b (List.mem_reverse.1 hb)

/-- There is only one last element. -/
theorem IsLast.unique {α : Type} {p : α → Prop} {l : List α} {a b : α} (ha : IsLast p l a)
    (hb : IsLast p l b) : a = b := by
  classical
  have hfind : ∀ c, l.reverse.find? (fun x ↦ decide (p x)) = some c ↔ IsLast p l c := by
    intro c
    rw [find?_reverse_eq_some_iff]
    simp only [decide_eq_true_eq]
  exact Option.some.inj (((hfind a).2 ha).symm.trans ((hfind b).2 hb))

/-- A number stands for a symbol: the last one of the table that has it. -/
def Snapshot.SymbolTable.Binds (table : SymbolTable) (id : SymbolId) (s : Symbol) : Prop :=
  IsLast (·.id = id) table.symbols s

/-- A number stands for a node: the last one of the tree that has it. -/
def Snapshot.Tree.Binds (tree : Tree) (id : NodeId) (n : Node) : Prop :=
  IsLast (·.id = id) tree.nodes n

/-- A name stands for a declaration: the last one of the module that has it. -/
def Platform.Module.Declares (m : Module) (fullName : String) (t : TypeDeclaration) : Prop :=
  IsLast (·.fullName = fullName) m.types t

theorem Snapshot.SymbolTable.get?_eq_some_iff {table : SymbolTable} {id : SymbolId} {s : Symbol} :
    table.get? id = some s ↔ table.Binds id s := by
  rw [get?, find?_reverse_eq_some_iff]
  simp only [beq_iff_eq, Binds]

theorem Snapshot.Tree.node?_eq_some_iff {tree : Tree} {id : NodeId} {n : Node} :
    tree.node? id = some n ↔ tree.Binds id n := by
  rw [node?, find?_reverse_eq_some_iff]
  simp only [beq_iff_eq, Binds]

theorem Platform.Module.type?_eq_some_iff {m : Module} {fullName : String}
    {t : TypeDeclaration} : m.type? fullName = some t ↔ m.Declares fullName t := by
  rw [type?, find?_reverse_eq_some_iff]
  simp only [beq_iff_eq, Declares]

/-! ### The walks are confined

A symbol that was looked up is found again under its own number, and a declaration under its own
name. Among such symbols a number tells all there is to know. -/

theorem Snapshot.SymbolTable.get?_id {table : SymbolTable} {id : SymbolId} {s : Symbol}
    (h : table.get? id = some s) : table.get? s.id = some s := by
  rw [id_of_get? h, h]

theorem Platform.Module.type?_fullName {m : Module} {fullName : String} {t : TypeDeclaration}
    (h : m.type? fullName = some t) : m.type? t.fullName = some t := by
  rw [fullName_of_type? h, h]

theorem Snapshot.SymbolTable.base?_confined (table : SymbolTable) :
    Confined Symbol.id table.base? (fun s ↦ table.get? s.id = some s)
      (table.symbols.map Symbol.id) where
  next_mem := fun {_ _} _ h ↦ by
    obtain ⟨id, -, hid⟩ := Option.bind_eq_some_iff.1 h
    exact get?_id hid
  key_mem := fun {_} h ↦ List.mem_map_of_mem (mem_symbols_of_get? h)
  eq_of_key_eq := fun {_ _} ha hb h ↦ by
    rw [h, hb] at ha
    exact (Option.some.inj ha).symm

theorem Platform.Module.base?_confined (m : Module) :
    Confined TypeDeclaration.fullName m.base? (fun t ↦ m.type? t.fullName = some t)
      (m.types.map TypeDeclaration.fullName) where
  next_mem := fun {_ _} _ h ↦ by
    obtain ⟨name, -, hname⟩ := Option.bind_eq_some_iff.1 h
    exact type?_fullName hname
  key_mem := fun {_} h ↦ List.mem_map_of_mem (mem_types_of_type? h)
  eq_of_key_eq := fun {_ _} ha hb h ↦ by
    rw [h, hb] at ha
    exact (Option.some.inj ha).symm

/-- What a type of the program leads to is found again under its number. -/
theorem Snapshot.SymbolTable.get?_id_of_bind {table : SymbolTable} {start : Option SymbolId}
    (s : Symbol) (h : start.bind table.get? = some s) : table.get? s.id = some s := by
  obtain ⟨id, -, hid⟩ := Option.bind_eq_some_iff.1 h
  exact get?_id hid

/-- **The bases of a type are what following bases leads to.** -/
theorem Snapshot.SymbolTable.mem_bases_iff {table : SymbolTable} {start : Option SymbolId}
    {s : Symbol} :
    s ∈ table.bases start ↔ ∃ n, orbit table.base? (start.bind table.get?) n = some s :=
  mem_lineage_iff table.base?_confined (List.length_map _).le get?_id_of_bind

/-- A search through the bases of a type gives the first answer along them. -/
theorem Snapshot.SymbolTable.findSome?_bases_eq_some_iff {β : Type} {table : SymbolTable}
    {start : Option SymbolId} {ask : Symbol → Option β} {b : β} :
    (table.bases start).findSome? ask = some b ↔
      FirstAlong table.base? (start.bind table.get?) ask b :=
  findSome?_lineage_eq_some_iff table.base?_confined (List.length_map _).le get?_id_of_bind

/-- A search through the bases of a declaration gives the first answer along them. -/
theorem Platform.Module.findSome?_bases_eq_some_iff {β : Type} {m : Module} {fullName : String}
    {t : TypeDeclaration} (ht : m.type? fullName = some t) {ask : TypeDeclaration → Option β}
    {b : β} :
    (m.bases t).findSome? ask = some b ↔ FirstAlong m.base? (some t) ask b :=
  findSome?_lineage_eq_some_iff m.base?_confined (List.length_map _).le
    fun _ h ↦ Option.some.inj h ▸ type?_fullName ht

/-! ### Descent from the root -/

/-- A type descends from the root: it is there, it is not an array, and following bases some number
of times leads to a symbol with the module and the simple name of the root. -/
def DescendsFromRoot (target : Target) (table : SymbolTable) (type : SymbolId) : Prop :=
  ∃ s, table.Binds type s ∧ s.kind ≠ .arrayType ∧
    ∃ n t, orbit table.base? (some s) n = some t ∧
      t.module = target.identity ∧ t.name = target.rootName

/-- **The test for descendants finds exactly those that descend from the root.** -/
theorem isDescendant_iff {target : Target} {table : SymbolTable} {type : Option SymbolId} :
    isDescendant target table type = true ↔
      ∃ id, type = some id ∧ DescendsFromRoot target table id := by
  cases type with
  | none => simp [isDescendant]
  | some id =>
    have hbind : (some id).bind table.get? = table.get? id := rfl
    simp only [isDescendant, hbind, Option.some.injEq, exists_eq_left', DescendsFromRoot,
      ← SymbolTable.get?_eq_some_iff]
    cases hget : table.get? id with
    | none => simp
    | some s =>
      simp only [Bool.and_eq_true, bne_iff_ne, List.any_eq_true, SymbolTable.mem_bases_iff, hbind,
        hget, Target.isRoot, beq_iff_eq, Option.some.injEq, exists_eq_left']
      refine and_congr_right fun _ ↦ ⟨?_, ?_⟩
      · rintro ⟨t, ⟨n, hn⟩, hroot⟩
        exact ⟨n, t, hn, hroot⟩
      · rintro ⟨n, t, hn, hroot⟩
        exact ⟨t, ⟨n, hn⟩, hroot⟩

/-! ### The attribute that decides -/

/-- The nearest type of the platform's module, from a symbol on along its bases. -/
def NearestPlatformType (target : Target) (table : SymbolTable) (start : Option SymbolId)
    (s : Symbol) : Prop :=
  ∃ n, orbit table.base? (start.bind table.get?) n = some s ∧ s.module = target.identity ∧
    ∀ m < n, ∀ t, orbit table.base? (start.bind table.get?) m = some t →
      t.module ≠ target.identity

/-- What a question gets as its first answer along the declared bases of the nearest platform
type. -/
def FirstDeclared (target : Target) (table : SymbolTable) (start : Option SymbolId)
    (ask : TypeDeclaration → Option Attribute) (a : Attribute) : Prop :=
  ∃ s t, NearestPlatformType target table start s ∧ target.module.Declares s.shownAs t ∧
    FirstAlong target.module.base? (some t) ask a

/-- The deprecation attribute of a member of some kind. -/
def MemberAttribute (target : Target) (table : SymbolTable) (s : Symbol) (kind : MemberKind)
    (a : Attribute) : Prop :=
  FirstDeclared target table s.containingType
    (fun t ↦ (t.member? s.name kind).bind fun m ↦ deprecationAmong? target m.attributes) a

/-- The deprecation attribute of a type. -/
def TypeAttribute (target : Target) (table : SymbolTable) (type : SymbolId) (a : Attribute) :
    Prop :=
  FirstDeclared target table (some type) (fun t ↦ deprecationAmong? target t.attributes) a

theorem nearestPlatformType?_eq_some_iff {target : Target} {table : SymbolTable}
    {start : Option SymbolId} {s : Symbol} :
    nearestPlatformType? target table start = some s ↔
      NearestPlatformType target table start s := by
  rw [nearestPlatformType?, ← List.findSome?_guard, SymbolTable.findSome?_bases_eq_some_iff]
  constructor
  · rintro ⟨n, a, ha, hask, hnone⟩
    obtain ⟨rfl, hs⟩ := Option.guard_eq_some_iff.1 hask
    refine ⟨n, ha, by simpa using hs, fun m hm t ht ↦ ?_⟩
    simpa [Option.guard] using hnone m hm t ht
  · rintro ⟨n, hn, hs, hnone⟩
    refine ⟨n, s, hn, Option.guard_eq_some_iff.2 ⟨rfl, by simpa using hs⟩, fun m hm t ht ↦ ?_⟩
    simpa [Option.guard] using hnone m hm t ht

/-- A search through the declarations that have a say gives what is declared first. -/
theorem findSome?_platformBases_eq_some_iff {target : Target} {table : SymbolTable}
    {start : Option SymbolId} {ask : TypeDeclaration → Option Attribute} {a : Attribute} :
    (platformBases target table start).findSome? ask = some a ↔
      FirstDeclared target table start ask a := by
  have hfound : ∀ t, ((nearestPlatformType? target table start).bind fun s ↦
      target.module.type? s.shownAs) = some t ↔
        ∃ s, NearestPlatformType target table start s ∧ target.module.Declares s.shownAs t := by
    intro t
    rw [Option.bind_eq_some_iff]
    simp only [nearestPlatformType?_eq_some_iff, Module.type?_eq_some_iff]
  rw [platformBases, FirstDeclared]
  split
  case h_1 t ht =>
    obtain ⟨s, hs, hst⟩ := (hfound t).1 ht
    rw [Module.findSome?_bases_eq_some_iff (Module.type?_eq_some_iff.2 hst)]
    constructor
    · intro h
      exact ⟨s, t, hs, hst, h⟩
    · rintro ⟨s', t', hs', hst', h⟩
      rw [(hfound t').2 ⟨s', hs', hst'⟩] at ht
      exact Option.some.inj ht ▸ h
  case h_2 hnone =>
    rw [List.findSome?_nil]
    constructor
    · intro h
      exact absurd h (by simp)
    · rintro ⟨s, t, hs, hst, -⟩
      exact absurd ((hfound t).2 ⟨s, hs, hst⟩) (by simp [hnone])

/-- **The lookup of a member finds its nearest deprecation attribute.** -/
theorem memberAttribute?_eq_some_iff {target : Target} {table : SymbolTable} {member : SymbolId}
    {kind : MemberKind} {a : Attribute} :
    memberAttribute? target table member kind = some a ↔
      ∃ s, table.Binds member s ∧ MemberAttribute target table s kind a := by
  rw [memberAttribute?]
  show (table.get? member).bind _ = some a ↔ _
  rw [Option.bind_eq_some_iff]
  simp only [SymbolTable.get?_eq_some_iff, findSome?_platformBases_eq_some_iff, MemberAttribute]

/-- **The lookup of a type finds its nearest deprecation attribute.** -/
theorem typeAttribute?_eq_some_iff {target : Target} {table : SymbolTable} {type : SymbolId}
    {a : Attribute} :
    typeAttribute? target table type = some a ↔ TypeAttribute target table type a :=
  findSome?_platformBases_eq_some_iff

/-! ### Versions -/

/-- An attribute carries a version: its entry for it is a whole number of 64 bits. -/
def Platform.Attribute.Carries (a : Attribute) (v : UInt64) : Prop :=
  a.carried? deprecatedEntry = some (.number (.ofUnsigned v))

theorem Value.unsigned?_eq_some_iff {x : Value} {v : UInt64} :
    x.unsigned? = some v ↔ x = .number (.ofUnsigned v) := by
  cases x <;> simp [Value.unsigned?, Number.unsigned?_eq_some_iff]

theorem Platform.Attribute.version_eq_ok_iff {a : Attribute} {v : UInt64} :
    a.version = .ok v ↔ a.Carries v := by
  have hentry : (a.carried? deprecatedEntry).bind Value.unsigned? = some v ↔ a.Carries v := by
    rw [Option.bind_eq_some_iff]
    simp only [Value.unsigned?_eq_some_iff, exists_eq_right, Carries]
  rw [← hentry, version]
  split
  case h_1 w hw => simp [hw]
  case h_2 hnone => simp [hnone]

/-- **An attribute is malformed exactly when it carries no version**, and the fault names its
type. -/
theorem Platform.Attribute.version_eq_error_iff {a : Attribute} {f : Fault} :
    a.version = .error f ↔ f = .missingVersion a.typeName ∧ ∀ v, ¬a.Carries v := by
  simp only [← version_eq_ok_iff]
  rw [version]
  split
  · simp
  · simp [eq_comm]

/-- What is found among attributes has the type that carries deprecations. -/
theorem typeName_of_deprecationAmong? {target : Target} {attributes : List Attribute}
    {a : Attribute} (h : deprecationAmong? target attributes = some a) :
    a.typeName = target.attributeType := by
  simpa using List.find?_some h

end DeprecationLint
