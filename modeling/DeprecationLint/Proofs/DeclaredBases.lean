import DeprecationLint.Proofs.Indexes
import DeprecationLint.Proofs.Walk
import Mathlib.Data.List.Chain

/-!
# Declared bases

The base of a declared type is a name, which stands for the last type that has it, or for none. A
step from a type to its base is therefore a partial function, `Module.DerivesFrom` is that step
without the lookup, and the bases of a type are a walk along it.

Of a walk without a bound it is shown, by induction along the walk, that each element is what comes
after the one before (`Walk.isChain`). That nothing is cut off where a walk stops is
`Module.mem_bases_iff`: a type that is found under a name has that name, so **a repeated name is a
repeated type**, and what would follow it has been listed before. The reasons for which a walk can
stop (`Module.bases_stop`) come from there, too.
-/

namespace DeprecationLint

open Platform

/-! ### What a walk lists -/

section Walk

variable {α κ : Type} {key : α → κ} {next : α → Option α} {seen : List κ} {start : Option α}
  {l : List α}

/-- A walk that lists something lists its start first. -/
theorem Walk.start_eq_of_head? (h : Walk key next seen start l) {a : α} (ha : l.head? = some a) :
    start = some a := by
  rcases h with - | - | -
  · simp at ha
  · simp at ha
  · exact ha

/-- A walk that has met nothing yet lists its start. -/
theorem Walk.head?_eq_start (h : Walk key next [] start l) : l.head? = start := by
  rcases h with - | hmet | -
  · rfl
  · exact absurd hmet List.not_mem_nil
  · rfl

/-- **Each element of a walk is what comes after the one before.** -/
theorem Walk.isChain (h : Walk key next seen start l) : l.IsChain fun a b ↦ next a = some b := by
  induction h with
  | done => exact List.IsChain.nil
  | repeated _ => exact List.IsChain.nil
  | step _ hrest ih => exact List.isChain_cons.2 ⟨fun b hb ↦ hrest.start_eq_of_head? hb, ih⟩

/-- An orbit leads where repeated steps lead. -/
theorem exists_orbit_iff_reflTransGen {a b : α} :
    (∃ n, orbit next (some a) n = some b) ↔
      Relation.ReflTransGen (fun x y ↦ next x = some y) a b := by
  constructor
  · intro h
    obtain ⟨n, hn⟩ := h
    induction n generalizing b with
    | zero =>
      obtain rfl : a = b := Option.some.inj hn
      exact Relation.ReflTransGen.refl
    | succ n ih =>
      rw [orbit_succ] at hn
      obtain ⟨c, hc, hcb⟩ := Option.bind_eq_some_iff.1 hn
      exact (ih hc).tail hcb
  · intro h
    induction h with
    | refl => exact ⟨0, rfl⟩
    | tail _ hcb ih =>
      obtain ⟨n, hn⟩ := ih
      refine ⟨n + 1, ?_⟩
      rw [orbit_succ, hn]
      exact hcb

end Walk

/-! ### Bases of a declared type -/

namespace Platform.Module

variable {m : Module} {t u : TypeDeclaration} {name : String}

/-- A declared type derives from another: it names a base, and the name stands for the other
type. -/
def DerivesFrom (m : Module) (t u : TypeDeclaration) : Prop :=
  ∃ name, t.base = some name ∧ m.Declares name u

theorem base?_eq_some_iff : m.base? t = some u ↔ m.DerivesFrom t u := by
  rw [base?, Option.bind_eq_some_iff]
  simp only [type?_eq_some_iff, DerivesFrom]

/-- A type has no base to go on to if it names none, or one that is not declared. -/
theorem base?_eq_none_iff :
    m.base? t = none ↔ t.base = none ∨ ∃ name, t.base = some name ∧
      ∀ u ∈ m.types, u.fullName ≠ name := by
  rw [base?]
  rcases t.base with - | name
  · simp
  · rw [Option.bind_some, type?_eq_none_iff]
    simp

variable (ht : m.type? name = some t)

include ht

theorem type?_fullName_of_start : ∀ u, some t = some u → m.type? u.fullName = some u := by
  intro u hu
  obtain rfl : t = u := Option.some.inj hu
  exact type?_fullName ht

/-- **The walk along the bases of a type ends, in one way, with the bases of the type.** -/
theorem walk_bases_iff {l : List TypeDeclaration} :
    Walk TypeDeclaration.fullName m.base? [] (some t) l ↔ l = m.bases t := by
  have hwalk : Walk TypeDeclaration.fullName m.base? [] (some t) (m.bases t) :=
    walk_lineage m.base?_confined (List.length_map _).le (type?_fullName_of_start ht)
  constructor
  · intro h
    exact h.unique hwalk
  · intro h
    exact h ▸ hwalk

/-- **The bases of a type are what repeated steps lead to.** -/
theorem mem_bases_iff : u ∈ m.bases t ↔ Relation.ReflTransGen m.DerivesFrom t u := by
  have hsteps : (fun x y ↦ m.base? x = some y) = m.DerivesFrom := by
    funext x y
    rw [base?_eq_some_iff]
  rw [← hsteps, ← exists_orbit_iff_reflTransGen]
  exact mem_lineage_iff m.base?_confined (List.length_map _).le (type?_fullName_of_start ht)

theorem length_bases_le :
    (m.bases t).length ≤ (m.types.map TypeDeclaration.fullName).toFinset.card := by
  rw [← length_eraseDups]
  exact length_lineage_le m.base?_confined (type?_fullName_of_start ht)

/-- **The bases of a type stop for a reason**: the last of them names no base, or one that is not
declared, or one that was listed before. -/
theorem bases_stop (hu : (m.bases t).getLast? = some u) :
    u.base = none ∨ ∃ base, u.base = some base ∧
      ((∀ v ∈ m.types, v.fullName ≠ base) ∨ ∃ v ∈ m.bases t, m.Declares base v) := by
  rcases hnext : m.base? u with - | v
  · rcases base?_eq_none_iff.1 hnext with hbase | ⟨base, hbase, hundeclared⟩
    · exact Or.inl hbase
    · exact Or.inr ⟨base, hbase, Or.inl hundeclared⟩
  · obtain ⟨base, hbase, hdeclares⟩ := base?_eq_some_iff.1 hnext
    -- one step more from what can be reached leads to what can be reached
    have hreached := (mem_bases_iff ht).1 (List.mem_of_getLast? hu)
    have hlisted := (mem_bases_iff ht).2 (hreached.tail ⟨base, hbase, hdeclares⟩)
    exact Or.inr ⟨base, hbase, Or.inr ⟨v, hlisted, hdeclares⟩⟩

end Platform.Module

/-- **The bases of a declared type are exactly the types that can be reached from it.** In every
module, also one with repeated names and with bases that are missing or lead in circles, the bases
of a type that is found under a name are what a walk without a bound lists, which ends in one way
only. They are no more than there are different names, and no name is repeated. The type itself is
the first, each of the others is what the base of the one before stands for, and a type is among
them exactly if repeated steps to a base lead to it. The last one names no base, or one that is not
declared, or one that stands for a type among them. -/
theorem bases_exactly_reachable {m : Module} {name : String} {t : TypeDeclaration}
    (ht : m.type? name = some t) :
    (∀ l, Walk TypeDeclaration.fullName m.base? [] (some t) l ↔ l = m.bases t) ∧
    (m.bases t).length ≤ (m.types.map TypeDeclaration.fullName).toFinset.card ∧
    ((m.bases t).map TypeDeclaration.fullName).Nodup ∧
    (m.bases t).head? = some t ∧
    (m.bases t).IsChain m.DerivesFrom ∧
    (∀ u, u ∈ m.bases t ↔ Relation.ReflTransGen m.DerivesFrom t u) ∧
    ∀ u, (m.bases t).getLast? = some u →
      u.base = none ∨ ∃ base, u.base = some base ∧
        ((∀ v ∈ m.types, v.fullName ≠ base) ∨ ∃ v ∈ m.bases t, m.Declares base v) := by
  have hwalk := (Module.walk_bases_iff ht).2 rfl
  refine ⟨fun l ↦ Module.walk_bases_iff ht, Module.length_bases_le ht,
    nodup_keys_lineage TypeDeclaration.fullName m.base? _ _, hwalk.head?_eq_start, ?_,
    fun u ↦ Module.mem_bases_iff ht, fun u ↦ Module.bases_stop ht⟩
  exact hwalk.isChain.imp fun _ _ ↦ Module.base?_eq_some_iff.1

/-- The bases of a tin lead in a circle, past the later of two declarations of the root. -/
theorem bases_exactly_reachable_tin :
    ∃ t, tinModule.type? "Kit.Tin" = some t ∧
      (tinModule.bases t).map (·.fullName) = ["Kit.Tin", "Kit.Box", "Kit.Root"] ∧
      (tinModule.types.map (·.fullName)).toFinset.card = 5 ∧ tinModule.types.length = 6 ∧
      (tinModule.bases t).head? = some t ∧ (tinModule.bases t).IsChain tinModule.DerivesFrom ∧
      ∀ u, u ∈ tinModule.bases t ↔ Relation.ReflTransGen tinModule.DerivesFrom t u := by
  obtain ⟨t, ht⟩ : ∃ t, tinModule.type? "Kit.Tin" = some t := ⟨_, rfl⟩
  have hnames : (tinModule.bases t).map (·.fullName) = ["Kit.Tin", "Kit.Box", "Kit.Root"] := by
    obtain rfl := Option.some.inj ht
    rfl
  obtain ⟨-, -, -, hhead, hchain, hmem, -⟩ := bases_exactly_reachable ht
  exact ⟨t, ht, hnames, by decide, rfl, hhead, hchain, hmem⟩

end DeprecationLint
