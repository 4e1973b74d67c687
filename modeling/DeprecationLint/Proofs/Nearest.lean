import DeprecationLint.Proofs.Uses

/-!
# The nearest declaration decides

Two searches follow each other when the deprecation of a symbol is looked up: one along the bases of
a type of the program, for the first that belongs to the platform, and one along the declared bases
from there, for the first declaration that has a word on the matter. Both look for what is **met
first along an orbit** (`FirstMet`), which may well be infinite.

`Decides` composes the two, and `attribute_is_nearest` is that both lookups give exactly what it
describes. What hides what are then rules about `FirstMet`: a word hides every later one, also if it
is a version zero (`typeDeprecation_of_zero`), and what has no word might as well not be there
(`firstMet_of_not`).
-/

namespace DeprecationLint

open Platform Snapshot

/-! ### First in a list -/

/-- The first element of a list with a property. -/
def IsFirst {α : Type} (p : α → Prop) (l : List α) (a : α) : Prop :=
  ∃ before after, l = before ++ a :: after ∧ p a ∧ ∀ b ∈ before, ¬p b

theorem find?_eq_some_iff_isFirst {α : Type} {p : α → Bool} {l : List α} {a : α} :
    l.find? p = some a ↔ IsFirst (fun b ↦ p b = true) l a := by
  rw [List.find?_eq_some_iff_append]
  constructor
  · intro h
    obtain ⟨hp, before, after, hsplit, hnot⟩ := h
    exact ⟨before, after, hsplit, hp, fun b hb ↦ by simpa using hnot b hb⟩
  · intro h
    obtain ⟨before, after, hsplit, hp, hnot⟩ := h
    exact ⟨hp, before, after, hsplit, fun b hb ↦ by simpa using hnot b hb⟩

/-- There is only one first element. -/
theorem IsFirst.unique {α : Type} {p : α → Prop} {l : List α} {a b : α} (ha : IsFirst p l a)
    (hb : IsFirst p l b) : a = b := by
  classical
  have hfind : ∀ c, l.find? (fun x ↦ decide (p x)) = some c ↔ IsFirst p l c := by
    intro c
    rw [find?_eq_some_iff_isFirst]
    simp only [decide_eq_true_eq]
  exact Option.some.inj (((hfind a).2 ha).symm.trans ((hfind b).2 hb))

/-! ### First along an orbit -/

section FirstMet

variable {α : Type} {next : α → Option α} {p : α → Prop}

/-- What has a property and is met before anything else that has it. -/
def FirstMet (next : α → Option α) (p : α → Prop) (start : Option α) (a : α) : Prop :=
  ∃ n, orbit next start n = some a ∧ p a ∧ ∀ m < n, ∀ b, orbit next start m = some b → ¬p b

/-- **What does not have the property might as well not be there.** -/
theorem firstMet_of_not {a b : α} (ha : ¬p a) :
    FirstMet next p (some a) b ↔ FirstMet next p (next a) b := by
  have hshift : ∀ n, orbit next (some a) (n + 1) = orbit next (next a) n := fun _ ↦ rfl
  constructor
  · intro h
    obtain ⟨n, hn, hp, hnone⟩ := h
    rcases n with - | n
    · obtain rfl : a = b := Option.some.inj hn
      exact absurd hp ha
    · refine ⟨n, hn, hp, fun m hm c hc ↦ ?_⟩
      exact hnone (m + 1) (by omega) c hc
  · intro h
    obtain ⟨n, hn, hp, hnone⟩ := h
    refine ⟨n + 1, hn, hp, fun m hm c hc ↦ ?_⟩
    rcases m with - | m
    · obtain rfl : a = c := Option.some.inj hc
      exact ha
    · rw [hshift] at hc
      exact hnone m (by omega) c hc

end FirstMet

/-! ### Words of declarations -/

namespace Platform.TypeDeclaration

/-- The word of a declaration on itself: the first deprecation attribute on it. -/
def WordOnItself (target : Target) (t : TypeDeclaration) (a : Attribute) : Prop :=
  IsFirst (·.typeName = target.attributeType) t.attributes a

/-- The word of a declaration on a member: the first deprecation attribute on the first member of
that name and kind. -/
def WordOnMember (target : Target) (name : String) (kind : MemberKind) (t : TypeDeclaration)
    (a : Attribute) : Prop :=
  ∃ m, IsFirst (fun x ↦ x.name = name ∧ x.kind = kind) t.members m ∧
    IsFirst (·.typeName = target.attributeType) m.attributes a

end Platform.TypeDeclaration

/-- The first word from a declaration on along the declared bases. -/
def FirstWord (m : Module) (word : TypeDeclaration → Attribute → Prop)
    (start : Option TypeDeclaration) (a : Attribute) : Prop :=
  ∃ t, FirstMet m.base? (fun u ↦ ∃ b, word u b) start t ∧ word t a

/-- Where the search in the platform's module starts: at the declaration of the nearest type, from
a type of the program on along its bases, that belongs to the module. -/
def EntersAt (target : Target) (table : SymbolTable) (start : Option SymbolId)
    (t : TypeDeclaration) : Prop :=
  ∃ s, FirstMet table.base? (·.module = target.identity) (start.bind table.get?) s ∧
    target.module.Declares s.shownAs t

/-- The attribute that decides about a type of the program, or about a member of it. -/
def Decides (target : Target) (table : SymbolTable) (start : Option SymbolId)
    (word : TypeDeclaration → Attribute → Prop) (a : Attribute) : Prop :=
  ∃ t, EntersAt target table start t ∧ FirstWord target.module word (some t) a

section Lookups

variable {target : Target} {table : SymbolTable} {start : Option SymbolId} {a : Attribute}

theorem deprecationAmong?_eq_some_iff {attributes : List Attribute} :
    deprecationAmong? target attributes = some a ↔
      IsFirst (·.typeName = target.attributeType) attributes a := by
  rw [deprecationAmong?, find?_eq_some_iff_isFirst]
  simp only [beq_iff_eq]

theorem member?_eq_some_iff {t : TypeDeclaration} {name : String} {kind : MemberKind}
    {m : Member} :
    t.member? name kind = some m ↔
      IsFirst (fun x ↦ x.name = name ∧ x.kind = kind) t.members m := by
  rw [TypeDeclaration.member?, find?_eq_some_iff_isFirst]
  simp only [Bool.and_eq_true, beq_iff_eq]

/-- The first answer to a question is the first word, if the answers are words. -/
theorem firstAlong_iff_firstWord {m : Module} {t : Option TypeDeclaration}
    {ask : TypeDeclaration → Option Attribute} {word : TypeDeclaration → Attribute → Prop}
    (hask : ∀ u b, ask u = some b ↔ word u b) :
    FirstAlong m.base? t ask a ↔ FirstWord m word t a := by
  have hnone : ∀ u, ask u = none ↔ ¬∃ b, word u b := by
    intro u
    simp only [← hask, not_exists, Option.eq_none_iff_forall_ne_some]
  constructor
  · intro h
    obtain ⟨n, u, hn, ha, hbefore⟩ := h
    have hword : word u a := (hask u a).1 ha
    exact ⟨u, ⟨n, hn, ⟨a, hword⟩, fun k hk v hv ↦ (hnone v).1 (hbefore k hk v hv)⟩, hword⟩
  · intro h
    obtain ⟨u, ⟨n, hn, -, hbefore⟩, hword⟩ := h
    exact ⟨n, u, hn, (hask u a).2 hword, fun k hk v hv ↦ (hnone v).2 (hbefore k hk v hv)⟩

/-- A search through the declarations that have a say gives what decides. -/
theorem firstDeclared_iff_decides {ask : TypeDeclaration → Option Attribute}
    {word : TypeDeclaration → Attribute → Prop} (hask : ∀ u b, ask u = some b ↔ word u b) :
    FirstDeclared target table start ask a ↔ Decides target table start word a := by
  constructor
  · intro h
    obtain ⟨s, t, hs, ht, hfirst⟩ := h
    exact ⟨t, ⟨s, hs, ht⟩, (firstAlong_iff_firstWord hask).1 hfirst⟩
  · intro h
    obtain ⟨t, ⟨s, hs, ht⟩, hfirst⟩ := h
    exact ⟨s, t, hs, ht, (firstAlong_iff_firstWord hask).2 hfirst⟩

/-- **The lookup of a member gives the attribute that decides about it.** -/
theorem memberAttribute?_eq_some_iff_decides {member : SymbolId} {kind : MemberKind} :
    memberAttribute? target table member kind = some a ↔
      ∃ s, table.Binds member s ∧ Decides target table s.containingType
        (TypeDeclaration.WordOnMember target s.name kind) a := by
  have hask : ∀ name (u : TypeDeclaration) b,
      ((u.member? name kind).bind fun m ↦ deprecationAmong? target m.attributes) = some b ↔
        u.WordOnMember target name kind b := by
    intro name u b
    rw [Option.bind_eq_some_iff, TypeDeclaration.WordOnMember]
    simp only [member?_eq_some_iff, deprecationAmong?_eq_some_iff]
  rw [memberAttribute?_eq_some_iff]
  simp only [MemberAttribute, firstDeclared_iff_decides (hask _)]

/-- **The lookup of a type gives the attribute that decides about it.** -/
theorem typeAttribute?_eq_some_iff_decides {type : SymbolId} :
    typeAttribute? target table type = some a ↔
      Decides target table (some type) (TypeDeclaration.WordOnItself target) a := by
  rw [typeAttribute?_eq_some_iff, TypeAttribute]
  exact firstDeclared_iff_decides fun u b ↦ deprecationAmong?_eq_some_iff

/-! ### What hides, and what does not -/

theorem EntersAt.unique {t u : TypeDeclaration} (ht : EntersAt target table start t)
    (hu : EntersAt target table start u) : t = u := by
  obtain ⟨s, hs, hst⟩ := ht
  obtain ⟨s', hs', hsu⟩ := hu
  have hnearest := nearestPlatformType?_eq_some_iff.2 hs
  rw [nearestPlatformType?_eq_some_iff.2 hs'] at hnearest
  obtain rfl : s' = s := Option.some.inj hnearest
  exact IsLast.unique hst hsu

/-- **A farther word never hides a nearer one**: what decides comes from a declaration that is no
farther than any that has a word. -/
theorem Decides.no_farther {word : TypeDeclaration → Attribute → Prop} {t u : TypeDeclaration}
    {i : Nat} (h : Decides target table start word a) (ht : EntersAt target table start t)
    (hu : orbit target.module.base? (some t) i = some u) (hword : ∃ b, word u b) :
    ∃ j ≤ i, ∃ v, orbit target.module.base? (some t) j = some v ∧ word v a := by
  obtain ⟨t', ht', v, ⟨j, hj, -, hbefore⟩, hv⟩ := h
  obtain rfl : t' = t := ht'.unique ht
  refine ⟨j, ?_, v, hj, hv⟩
  by_contra hlt
  exact hbefore i (by omega) u hu hword

/-- **A declaration without a word hides nothing**: what decides is the first word from its base
on. -/
theorem decides_of_silent {word : TypeDeclaration → Attribute → Prop} {t : TypeDeclaration}
    (ht : EntersAt target table start t) (hsilent : ∀ b, ¬word t b) :
    Decides target table start word a ↔
      FirstWord target.module word (target.module.base? t) a := by
  have hskip : FirstWord target.module word (some t) a ↔
      FirstWord target.module word (target.module.base? t) a := by
    have hnot : ¬∃ b, word t b := fun h ↦ h.elim hsilent
    exact exists_congr fun u ↦ and_congr_left fun _ ↦ firstMet_of_not hnot
  constructor
  · intro h
    obtain ⟨u, hu, hfirst⟩ := h
    rw [hu.unique ht] at hfirst
    exact hskip.1 hfirst
  · intro h
    exact ⟨t, ht, hskip.2 h⟩

/-- **A type of another module hides nothing**: what decides about it is what decides about its
base. -/
theorem decides_of_foreign {word : TypeDeclaration → Attribute → Prop} {type : SymbolId}
    {s : Symbol} (hs : table.Binds type s) (hforeign : s.module ≠ target.identity) :
    Decides target table (some type) word a ↔ Decides target table s.baseType word a := by
  have hstart : (some type).bind table.get? = some s := SymbolTable.get?_eq_some_iff.2 hs
  have henters : ∀ t, EntersAt target table (some type) t ↔ EntersAt target table s.baseType t := by
    intro t
    rw [EntersAt, hstart]
    exact exists_congr fun u ↦ and_congr_left fun _ ↦ firstMet_of_not hforeign
  simp only [Decides, henters]

theorem reportableVersion_of_zero (h : a.Carries 0) :
    reportableVersion target (some a) = .ok none := by
  rw [reportableVersion, Attribute.version_eq_ok_iff.2 h]
  rfl

/-- **A version zero is a word like any other**: a member that it decides about is not
deprecated. -/
theorem memberDeprecation_of_zero {member : SymbolId} {s : Symbol} {kind : MemberKind}
    (hs : table.Binds member s) (hkind : memberKind? s.kind = some kind)
    (ha : memberAttribute? target table member kind = some a) (hzero : a.Carries 0) :
    memberDeprecation target table member = .ok none := by
  have hlooked : ((table.get? member).bind fun s ↦ memberKind? s.kind) = some kind := by
    rw [SymbolTable.get?_eq_some_iff.2 hs]
    exact hkind
  rw [memberDeprecation, hlooked]
  show reportableVersion target (memberAttribute? target table member kind) = .ok none
  rw [ha, reportableVersion_of_zero hzero]

/-- **A version zero is a word like any other**: a type that it decides about is not deprecated. -/
theorem typeDeprecation_of_zero {type : SymbolId}
    (ha : typeAttribute? target table type = some a) (hzero : a.Carries 0) :
    typeDeprecation target table type = .ok none := by
  rw [typeDeprecation, ha, reportableVersion_of_zero hzero]

end Lookups

/-- **The nearest declaration decides about the deprecation of a symbol.** The lookup of a member
gives an attribute exactly when it is the first word on the member along the declared bases of the
first platform type among the bases of the type that contains the member, and the lookup of a type
does so for the type itself. So no farther word hides a nearer one, a declaration without a word and
a type of another module hide nothing, and a version zero that decides means that there is no
deprecation. -/
theorem attribute_is_nearest (target : Target) (table : SymbolTable) :
    (∀ member kind a, memberAttribute? target table member kind = some a ↔
      ∃ s, table.Binds member s ∧ Decides target table s.containingType
        (TypeDeclaration.WordOnMember target s.name kind) a) ∧
    (∀ type a, typeAttribute? target table type = some a ↔
      Decides target table (some type) (TypeDeclaration.WordOnItself target) a) ∧
    (∀ (word : TypeDeclaration → Attribute → Prop) start t a, EntersAt target table start t →
      (∀ i u, orbit target.module.base? (some t) i = some u → (∃ b, word u b) →
        Decides target table start word a →
        ∃ j ≤ i, ∃ v, orbit target.module.base? (some t) j = some v ∧ word v a) ∧
      ((∀ b, ¬word t b) → (Decides target table start word a ↔
        FirstWord target.module word (target.module.base? t) a))) ∧
    (∀ (word : TypeDeclaration → Attribute → Prop) type s a, table.Binds type s →
      s.module ≠ target.identity →
      (Decides target table (some type) word a ↔ Decides target table s.baseType word a)) ∧
    (∀ member s kind a, table.Binds member s → memberKind? s.kind = some kind →
      memberAttribute? target table member kind = some a → a.Carries 0 →
      memberDeprecation target table member = .ok none) ∧
    ∀ type a, typeAttribute? target table type = some a → a.Carries 0 →
      typeDeprecation target table type = .ok none := by
  refine ⟨?_, ?_, ?_, ?_, ?_, ?_⟩
  · intro member kind a
    exact memberAttribute?_eq_some_iff_decides
  · intro type a
    exact typeAttribute?_eq_some_iff_decides
  · intro word start t a ht
    exact ⟨fun i u hu hword h ↦ h.no_farther ht hu hword, decides_of_silent ht⟩
  · intro word type s a hs hforeign
    exact decides_of_foreign hs hforeign
  · intro member s kind a hs hkind ha hzero
    exact memberDeprecation_of_zero hs hkind ha hzero
  · intro type a ha hzero
    exact typeDeprecation_of_zero ha hzero

/-! ### A platform whose bases lead in a circle

A tin is a box that is not deprecated any more, and declares `open` anew without a word on its
deprecation. Its bases lead back to itself. -/

/-- The platform with boxes, and with tins in a circle of bases. -/
def tinModule : Module where
  title := boxModule.title
  types := boxModule.types ++ [
    { fullName := "Kit.Root", base := some "Kit.Tin", attributes := [], members := []
      enumerants := [] },
    { fullName := "Kit.Tin"
      base := some "Kit.Box"
      attributes := [sinceVersion 0]
      members := [{ name := "open", kind := .method, attributes := [] }]
      enumerants := [] }]

/-- The latest version of that platform as a target. -/
def tinTarget : Target :=
  { boxTarget with module := tinModule }

/-- The symbols of a program in which a crate is a tin. -/
def tinTable : SymbolTable where
  symbols := boxTable.symbols.map fun s ↦
    if s.name = "Box" then { s with name := "Tin", displayName := some "Kit.Tin" } else s

theorem attribute_is_nearest_tin :
    (memberAttribute? tinTarget tinTable ⟨5⟩ .method = some (sinceVersion 6) ∧
      ∃ s, tinTable.Binds ⟨5⟩ s ∧ Decides tinTarget tinTable s.containingType
        (TypeDeclaration.WordOnMember tinTarget s.name .method) (sinceVersion 6)) ∧
    (typeAttribute? tinTarget tinTable ⟨4⟩ = some (sinceVersion 0) ∧
      Decides tinTarget tinTable (some ⟨4⟩) (TypeDeclaration.WordOnItself tinTarget)
        (sinceVersion 0) ∧
      typeDeprecation tinTarget tinTable ⟨4⟩ = .ok none) := by
  obtain ⟨hmember, htype, -, -, -, hzero⟩ := attribute_is_nearest tinTarget tinTable
  have hopen : memberAttribute? tinTarget tinTable ⟨5⟩ .method = some (sinceVersion 6) := by rfl
  have hcrate : typeAttribute? tinTarget tinTable ⟨4⟩ = some (sinceVersion 0) := by rfl
  have hcarries : (sinceVersion 0).Carries 0 := rfl
  exact ⟨⟨hopen, (hmember _ _ _).1 hopen⟩, hcrate, (htype _ _).1 hcrate,
    hzero _ _ hcrate hcarries⟩

end DeprecationLint
