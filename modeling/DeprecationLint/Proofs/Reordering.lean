import DeprecationLint.Proofs.Erasure
import Mathlib.Data.List.Pairwise

/-!
# Modules in another order

Declarations are looked up in three ways. A full name stands for the **last** type that has it, a
name from the settings may stand for the **first** type that has it but for case, and a member is
the **first** of its name and kind. Where names are unambiguous (`Module.Unambiguous`) there is at
most one declaration to be found in each of these ways, and then it does not matter from which end
the search starts (`find?_eq_of_perm`).

So in a module in another order each lookup finds the declaration that it found before, at most
with its members in another order (`Module.Reordered.rel_type?`). Such a declaration answers every
question in the same way, the modules are alike, and `run_of_reordered` is that **the order of
declarations shows neither in a target nor in a run**.
-/

namespace DeprecationLint

open Platform Snapshot

/-! ### Searches -/

section Search

variable {α β γ : Type} {R : α → β → Prop}

/-- A search for what is there at most once does not depend on the order. -/
theorem find?_eq_of_perm {p : α → Bool} {l l' : List α} (hperm : l.Perm l')
    (hunique : ∀ a ∈ l, ∀ b ∈ l, p a = true → p b = true → a = b) :
    l'.find? p = l.find? p := by
  cases h : l.find? p with
  | none =>
    rw [List.find?_eq_none] at h ⊢
    exact fun a ha ↦ h a (hperm.mem_iff.2 ha)
  | some a =>
    have ha : a ∈ l := List.mem_of_find?_eq_some h
    have hpa : p a = true := List.find?_some h
    have hsome : (l'.find? p).isSome := List.find?_isSome.2 ⟨a, hperm.mem_iff.1 ha, hpa⟩
    obtain ⟨b, hb⟩ := Option.isSome_iff_exists.1 hsome
    have hbl : b ∈ l := hperm.mem_iff.2 (List.mem_of_find?_eq_some hb)
    rw [hb, hunique b hbl a ha (List.find?_some hb) hpa]

/-- What is found first or else second is alike if both are. -/
theorem rel_or {o u : Option α} {o' u' : Option β} (h : Option.Rel R o o')
    (hu : Option.Rel R u u') : Option.Rel R (o.or u) (o'.or u') := by
  cases h with
  | none => exact hu
  | some h => exact Option.Rel.some h

/-- What is alike looks the same. -/
theorem map_eq_of_rel {f : α → γ} {g : β → γ} (h : ∀ a b, R a b → g b = f a) {o : Option α}
    {o' : Option β} (ho : Option.Rel R o o') : o'.map g = o.map f := by
  cases ho with
  | none => rfl
  | some hab => exact congrArg some (h _ _ hab)

end Search

namespace Platform

/-! ### Reordering -/

/-- Two declarations differ at most in the order of their members. -/
structure TypeDeclaration.Reordered (t t' : TypeDeclaration) : Prop where
  /-- They agree in everything but their members. -/
  eq_but_members : t' = { t with members := t'.members }
  /-- They have the same members, in some order. -/
  members_perm : t.members.Perm t'.members

/-- Two modules differ at most in the order of their types and of the members of each type. -/
structure Module.Reordered (m m' : Module) : Prop where
  /-- They have the same title. -/
  title_eq : m'.title = m.title
  /-- They have the same types, in some order, each with its members in some order. -/
  types_perm : ∃ types, m.types.Perm types ∧
    List.Forall₂ TypeDeclaration.Reordered types m'.types

/-- Names in a module are unambiguous: those of types even but for case, and those of the members
of a type together with their kinds. -/
structure Module.Unambiguous (m : Module) : Prop where
  /-- No two types have names that are equal but for case. -/
  types : m.types.Pairwise fun t u ↦ equalIgnoringCase t.fullName u.fullName = false
  /-- No two members of a type have the same name and kind. -/
  members : ∀ t ∈ m.types, (t.members.map fun x ↦ (x.name, x.kind)).Nodup

theorem equalIgnoringCase_iff {a b : String} :
    equalIgnoringCase a b = true ↔ a.toList.map Char.toLower = b.toList.map Char.toLower :=
  beq_iff_eq

/-- A name stands for at most one type, even but for case. -/
theorem Module.eq_of_equalIgnoringCase {m : Module}
    (h : m.types.Pairwise fun t u ↦ equalIgnoringCase t.fullName u.fullName = false)
    {name : String} {t u : TypeDeclaration} (ht : t ∈ m.types) (hu : u ∈ m.types)
    (htname : equalIgnoringCase t.fullName name = true)
    (huname : equalIgnoringCase u.fullName name = true) : t = u := by
  have hsymm : Std.Symm fun t u : TypeDeclaration ↦
      equalIgnoringCase t.fullName u.fullName = false :=
    ⟨fun a b hab ↦ by rwa [equalIgnoringCase, BEq.comm]⟩
  by_contra hne
  have hfalse := h.forall ht hu hne
  have htrue : equalIgnoringCase t.fullName u.fullName = true := by
    rw [equalIgnoringCase_iff] at htname huname ⊢
    rw [htname, huname]
  rw [htrue] at hfalse
  exact absurd hfalse (by simp)

/-! ### Lookups -/

namespace TypeDeclaration.Reordered

variable {t t' : TypeDeclaration} (h : t.Reordered t')

include h

theorem fullName_eq : t'.fullName = t.fullName := by
  rw [h.eq_but_members]

theorem enumerants_eq : t'.enumerants = t.enumerants := by
  rw [h.eq_but_members]

theorem hasMember_eq (name : String) : t'.hasMember name = t.hasMember name :=
  h.members_perm.symm.any_eq

/-- **The order of members does not matter where their names and kinds are unambiguous.** -/
theorem alike (hnodup : (t.members.map fun x ↦ (x.name, x.kind)).Nodup) (attributeType : String) :
    t.Alike attributeType t' where
  fullName_eq := h.fullName_eq
  base_eq := by rw [h.eq_but_members]
  deprecated?_eq := by rw [h.eq_but_members]
  memberDeprecated?_eq name kind _ := by
    have hmember : t'.member? name kind = t.member? name kind := by
      refine find?_eq_of_perm h.members_perm fun x hx y hy hpx hpy ↦ ?_
      have hkey : (x.name, x.kind) = (y.name, y.kind) := by
        simp only [Bool.and_eq_true, beq_iff_eq] at hpx hpy
        rw [hpx.1, hpx.2, hpy.1, hpy.2]
      exact List.inj_on_of_nodup_map hnodup hx hy hkey
    rw [memberDeprecated?, memberDeprecated?, hmember]

end TypeDeclaration.Reordered

namespace Module.Reordered

variable {m m' : Module} (h : m.Reordered m') (hm : m.Unambiguous)

include h hm

/-- **A full name stands for the same type in whatever order.** -/
theorem rel_type? (name : String) :
    Option.Rel TypeDeclaration.Reordered (m.type? name) (m'.type? name) := by
  obtain ⟨types, hperm, hreordered⟩ := h.types_perm
  have hexact : ∀ t : TypeDeclaration, (t.fullName == name) = true →
      equalIgnoringCase t.fullName name = true := by
    intro t ht
    rw [eq_of_beq ht, equalIgnoringCase_iff]
  -- both lists are searched from the end
  have hreverse : m.types.reverse.Perm types.reverse :=
    m.types.reverse_perm.trans (hperm.trans types.reverse_perm.symm)
  have hfind : types.reverse.find? (·.fullName == name) = m.type? name :=
    find?_eq_of_perm hreverse fun t ht u hu htname huname ↦
      Module.eq_of_equalIgnoringCase hm.types (List.mem_reverse.1 ht) (List.mem_reverse.1 hu)
        (hexact t htname) (hexact u huname)
  rw [← hfind]
  refine rel_find? (fun t t' ht ↦ ?_) (List.forall₂_reverse_iff.2 hreordered)
  rw [ht.fullName_eq]

/-- A name in any case stands for the same type in whatever order. -/
theorem rel_typeIgnoringCase? (name : String) :
    Option.Rel TypeDeclaration.Reordered (m.typeIgnoringCase? name)
      (m'.typeIgnoringCase? name) := by
  obtain ⟨types, hperm, hreordered⟩ := h.types_perm
  refine rel_or (h.rel_type? hm name) ?_
  rw [← find?_eq_of_perm hperm fun t ht u hu ↦ Module.eq_of_equalIgnoringCase hm.types ht hu]
  refine rel_find? (fun t t' ht ↦ ?_) hreordered
  rw [ht.fullName_eq]

/-- **The order of declarations does not matter where names are unambiguous.** -/
theorem alike (attributeType : String) : m.Alike attributeType m' where
  length_eq := by
    obtain ⟨types, hperm, hreordered⟩ := h.types_perm
    rw [← hreordered.length_eq, hperm.length_eq]
  rel_type? name := by
    have hrel := h.rel_type? hm name
    have hmem : ∀ t, m.type? name = some t → t ∈ m.types := fun t ↦ Module.mem_types_of_type?
    generalize m.type? name = found at hrel hmem ⊢
    generalize m'.type? name = found' at hrel ⊢
    cases hrel with
    | none => exact Option.Rel.none
    | some ht => exact Option.Rel.some (ht.alike (hm.members _ (hmem _ rfl)) attributeType)

/-- **A target is resolved in a module as in the same module in another order.** -/
theorem resolve_eq (names : Names) (text : Option String) :
    Target.resolve m' names text =
      (Target.resolve m names text).map ({ · with module := m' }) := by
  refine Target.resolve_congr h.title_eq ?_ ?_ ?_ text
  · exact map_eq_of_rel (fun _ _ ht ↦ ht.fullName_eq) (h.rel_typeIgnoringCase? hm _)
  · refine map_eq_of_rel (fun t t' ht ↦ ?_) (h.rel_typeIgnoringCase? hm _)
    rw [ht.fullName_eq, ht.hasMember_eq]
  · refine map_eq_of_rel (fun t t' ht ↦ ?_) (h.rel_typeIgnoringCase? hm _)
    rw [ht.fullName_eq, ht.enumerants_eq]

end Module.Reordered

end Platform

/-! ### Runs -/

/-- **The order of declarations does not matter where names are unambiguous.** Let no two types of a
module have full names that are equal but for case, and no two members of a type the same name and
kind. If the types are put in another order, and the members of each type as well, then for all
names and versions the target has the same fault, or is the same but for the module, and a run for
it writes the same to every sink and comes to the same end. -/
theorem run_of_reordered {m m' : Module} (hm : m.Unambiguous) (h : m.Reordered m') (names : Names)
    (version : Option String) :
    (∃ f, Target.resolve m names version = .error f ∧ Target.resolve m' names version = .error f) ∨
    ∃ t t', Target.resolve m names version = .ok t ∧ Target.resolve m' names version = .ok t' ∧
      t' = { t with module := m' } ∧
      ∀ (excluded : String → Bool) (solution : Solution) (sink : Sink),
        Inspection.run { target := t', excluded } solution sink =
          Inspection.run { target := t, excluded } solution sink :=
  run_of_alike (h.resolve_eq hm names version) fun t _ ↦ h.alike hm t.attributeType

/-- The crowded platform with its types and all their members the other way round. -/
def turnedModule : Module where
  title := crowdedModule.title
  types := crowdedModule.types.reverse.map fun t ↦ { t with members := t.members.reverse }

theorem run_of_reordered_turned :
    turnedModule.types.map (·.fullName) = ["Kit.Box", "Kit.Version", "Kit.Since", "Kit.Root"] ∧
    Target.resolve crowdedModule boxNames none = .ok crowdedTarget ∧
    Target.resolve turnedModule boxNames none = .ok { crowdedTarget with module := turnedModule } ∧
    ∀ (solution : Solution) (sink : Sink),
      Inspection.run { target := { crowdedTarget with module := turnedModule } } solution sink =
        Inspection.run { target := crowdedTarget } solution sink := by
  have hunambiguous : crowdedModule.Unambiguous := ⟨by decide, by decide⟩
  have hreordered : crowdedModule.Reordered turnedModule := by
    refine ⟨rfl, crowdedModule.types.reverse, (List.reverse_perm _).symm, ?_⟩
    rw [turnedModule, List.forall₂_map_right_iff, List.forall₂_same]
    exact fun t _ ↦ ⟨rfl, (List.reverse_perm _).symm⟩
  have hresolve : Target.resolve crowdedModule boxNames none = .ok crowdedTarget := by rfl
  rcases run_of_reordered hunambiguous hreordered boxNames none with
    ⟨f, hf, -⟩ | ⟨t, t', ht, ht', rfl, hrun⟩
  · rw [hresolve] at hf
    exact absurd hf (by simp)
  · rw [hresolve] at ht
    obtain rfl := Except.ok.inj ht
    exact ⟨by decide, hresolve, ht', hrun fun _ ↦ false⟩

end DeprecationLint
