import DeprecationLint.Availability
import Mathlib.Data.Finset.Card
import Mathlib.Data.List.Forall2
import Mathlib.Data.Option.Basic
import Mathlib.Logic.Function.Iterate

/-!
# Lineages and orbits

A lineage is a bounded walk that stops at the first repetition. What it is meant to list is the
**orbit** of its start: everything that following `next` any number of times leads to. This module
shows that neither the bound nor the stop loses anything.

* `mem_lineage_iff`: a lineage lists exactly the orbit.
* `findSome?_lineage_eq_some_iff`: a search through a lineage gives the first answer along the
  orbit, where *first* counts steps (`FirstAlong`) and does not mention the lineage.
* `map_lineage`: a lineage follows any change of elements and keys that keeps keys apart.
* `forall₂_lineage`: walks over elements that are alike list elements that are alike.

The first two need the walk to stay among elements that their keys tell apart, with no more keys
than the walk has steps (`Confined`). The argument turns on the place where a lineage ends: what
would come next is missing or was met before (`mem_lineage_of_orbit_length`). Either the walk saw
that itself, or it ran out of steps and had then met every key there is.
-/

namespace DeprecationLint

variable {α β κ : Type}

/-! ### Orbits -/

/-- What a number of steps from a start leads to. -/
def orbit (next : α → Option α) (start : Option α) (n : Nat) : Option α :=
  (·.bind next)^[n] start

@[simp] theorem orbit_zero (next : α → Option α) (start : Option α) :
    orbit next start 0 = start := rfl

theorem orbit_succ (next : α → Option α) (start : Option α) (n : Nat) :
    orbit next start (n + 1) = (orbit next start n).bind next :=
  Function.iterate_succ_apply' _ _ _

/-- The first step may also be taken beforehand. -/
theorem orbit_bind (next : α → Option α) (start : Option α) (n : Nat) :
    orbit next (start.bind next) n = orbit next start (n + 1) :=
  rfl

/-- The first answer that a question gets along an orbit: some step gets it, and no earlier step
gets any. -/
def FirstAlong (next : α → Option α) (start : Option α) (ask : α → Option β) (b : β) : Prop :=
  ∃ n a, orbit next start n = some a ∧ ask a = some b ∧
    ∀ m < n, ∀ a', orbit next start m = some a' → ask a' = none

/-- An orbit stays where its start is and `next` leads. -/
theorem orbit_preserves {next : α → Option α} {P : α → Prop} {start : Option α}
    (hstart : ∀ a, start = some a → P a) (hnext : ∀ {a b}, P a → next a = some b → P b) :
    ∀ {n a}, orbit next start n = some a → P a := by
  intro n
  induction n with
  | zero => exact fun h ↦ hstart _ h
  | succ n ih =>
    intro b h
    rw [orbit_succ] at h
    obtain ⟨a, ha, hab⟩ := Option.bind_eq_some_iff.1 h
    exact hnext (ih ha) hab

/-! ### What a walk lists -/

section Walk

variable [DecidableEq κ] {key : α → κ} {next : α → Option α}

/-- What a walk lists at a position is what as many steps lead to. -/
theorem orbit_of_getElem?_lineageAfter {steps : Nat} {seen : List κ} {start : Option α} {i : Nat}
    {a : α} (h : (lineageAfter key next steps seen start)[i]? = some a) :
    orbit next start i = some a := by
  induction steps generalizing seen start i with
  | zero => simp [lineageAfter] at h
  | succ steps ih =>
    cases start with
    | none => simp at h
    | some b =>
      rw [lineageAfter] at h
      split at h
      · simp at h
      · cases i with
        | zero => simpa using h
        | succ i =>
          rw [← orbit_bind]
          exact ih (by simpa using h)

/-- A walk avoids what was met before and repeats no key. -/
theorem nodup_keys_lineageAfter (key : α → κ) (next : α → Option α) (steps : Nat) (seen : List κ)
    (start : Option α) :
    ((lineageAfter key next steps seen start).map key).Nodup ∧
      ∀ a ∈ lineageAfter key next steps seen start, key a ∉ seen := by
  induction steps generalizing seen start with
  | zero => simp [lineageAfter]
  | succ steps ih =>
    cases start with
    | none => simp
    | some b =>
      rw [lineageAfter]
      split
      · simp
      case isFalse hb =>
        obtain ⟨hnodup, hfresh⟩ := ih (key b :: seen) (next b)
        refine ⟨?_, ?_⟩
        · rw [List.map_cons, List.nodup_cons]
          refine ⟨fun hmem ↦ ?_, hnodup⟩
          obtain ⟨a, ha, hab⟩ := List.mem_map.1 hmem
          exact hfresh a ha (hab ▸ List.mem_cons_self)
        · intro a ha
          rcases List.mem_cons.1 ha with rfl | ha'
          · exact hb
          · exact fun hs ↦ hfresh a ha' (List.mem_cons_of_mem _ hs)

/-- A walk that ends with steps to spare ends for a reason: nothing comes next, or something whose
key was met. -/
theorem lineageAfter_ends {steps : Nat} {seen : List κ} {start : Option α} {a : α}
    (hspare : (lineageAfter key next steps seen start).length < steps)
    (ha : orbit next start (lineageAfter key next steps seen start).length = some a) :
    key a ∈ seen ∨ key a ∈ (lineageAfter key next steps seen start).map key := by
  induction steps generalizing seen start with
  | zero => simp at hspare
  | succ steps ih =>
    cases start with
    | none => simp at ha
    | some b =>
      rw [lineageAfter] at hspare ha ⊢
      split at hspare
      case isTrue hb =>
        rw [if_pos hb] at ha
        exact Or.inl (Option.some.inj ha ▸ hb)
      case isFalse hb =>
        rw [if_neg hb] at ha ⊢
        rcases ih (Nat.lt_of_succ_lt_succ hspare) ha with h | h
        · rcases List.mem_cons.1 h with h | h
          · exact Or.inr (by simp [h])
          · exact Or.inl h
        · exact Or.inr (by simpa using Or.inr (List.mem_map.1 h))

/-! ### Nothing is lost -/

/-- A walk is confined to `P` when it does not leave `P`, its keys come from a list, and elements
of `P` with equal keys are equal. -/
structure Confined (key : α → κ) (next : α → Option α) (P : α → Prop) (keys : List κ) : Prop where
  /-- The walk stays in `P`. -/
  next_mem : ∀ {a b}, P a → next a = some b → P b
  /-- The keys in `P` come from the list. -/
  key_mem : ∀ {a}, P a → key a ∈ keys
  /-- Keys tell the elements of `P` apart. -/
  eq_of_key_eq : ∀ {a b}, P a → P b → key a = key b → a = b

/-- A lineage repeats no key. -/
theorem nodup_keys_lineage (key : α → κ) (next : α → Option α) (steps : Nat) (start : Option α) :
    ((lineage key next steps start).map key).Nodup :=
  (nodup_keys_lineageAfter key next steps [] start).1

variable {P : α → Prop} {keys : List κ} {steps : Nat} {start : Option α}

/-- **Where a lineage ends, nothing new follows.** -/
theorem mem_lineage_of_orbit_length (hc : Confined key next P keys) (hsteps : keys.length ≤ steps)
    (hstart : ∀ a, start = some a → P a) {a : α}
    (ha : orbit next start (lineage key next steps start).length = some a) :
    a ∈ lineage key next steps start := by
  have hP : ∀ {n b}, orbit next start n = some b → P b := orbit_preserves hstart hc.next_mem
  have hmem : ∀ b ∈ lineage key next steps start, P b := fun b hb ↦ by
    obtain ⟨i, hi⟩ := List.mem_iff_getElem?.1 hb
    exact hP (orbit_of_getElem?_lineageAfter hi)
  have hkey : key a ∈ (lineage key next steps start).map key := by
    rcases Nat.lt_or_ge (lineage key next steps start).length steps with hlt | hge
    · exact (lineageAfter_ends hlt ha).resolve_left List.not_mem_nil
    · -- no step to spare: as many different keys were met as there are keys
      have hsub : ((lineage key next steps start).map key).toFinset ⊆ keys.toFinset := by
        intro k hk
        obtain ⟨b, hb, rfl⟩ := List.mem_map.1 (List.mem_toFinset.1 hk)
        exact List.mem_toFinset.2 (hc.key_mem (hmem b hb))
      have hcard : keys.toFinset.card ≤ ((lineage key next steps start).map key).toFinset.card := by
        rw [List.toFinset_card_of_nodup (nodup_keys_lineage key next steps start),
          List.length_map]
        exact (List.toFinset_card_le keys).trans (hsteps.trans hge)
      rw [← List.mem_toFinset, Finset.eq_of_subset_of_card_le hsub hcard, List.mem_toFinset]
      exact hc.key_mem (hP ha)
  obtain ⟨b, hb, hba⟩ := List.mem_map.1 hkey
  exact hc.eq_of_key_eq (hmem b hb) (hP ha) hba ▸ hb

/-- **A lineage lists exactly the orbit of its start.** -/
theorem mem_lineage_iff (hc : Confined key next P keys) (hsteps : keys.length ≤ steps)
    (hstart : ∀ a, start = some a → P a) {a : α} :
    a ∈ lineage key next steps start ↔ ∃ n, orbit next start n = some a := by
  constructor
  · intro h
    obtain ⟨i, hi⟩ := List.mem_iff_getElem?.1 h
    exact ⟨i, orbit_of_getElem?_lineageAfter hi⟩
  · rintro ⟨n, hn⟩
    -- up to its length the lineage agrees with the orbit, and one step further it is closed
    have hshort : ∀ {i b}, i ≤ (lineage key next steps start).length →
        orbit next start i = some b → b ∈ lineage key next steps start := by
      intro i b hi hb
      rcases Nat.lt_or_eq_of_le hi with hlt | rfl
      · have hget := List.getElem?_eq_getElem hlt
        rw [orbit_of_getElem?_lineageAfter hget] at hb
        exact Option.some.inj hb ▸ List.getElem_mem hlt
      · exact mem_lineage_of_orbit_length hc hsteps hstart hb
    induction n generalizing a with
    | zero => exact hshort (Nat.zero_le _) hn
    | succ n ih =>
      rw [orbit_succ] at hn
      obtain ⟨b, hb, hba⟩ := Option.bind_eq_some_iff.1 hn
      obtain ⟨i, hi⟩ := List.mem_iff_getElem?.1 (ih hb)
      have hlt : i < (lineage key next steps start).length := (List.getElem?_eq_some_iff.1 hi).1
      refine hshort hlt ?_
      rw [orbit_succ, orbit_of_getElem?_lineageAfter hi]
      exact hba

/-- **A search through a lineage gives the first answer along the orbit.** -/
theorem findSome?_lineage_eq_some_iff (hc : Confined key next P keys)
    (hsteps : keys.length ≤ steps) (hstart : ∀ a, start = some a → P a) {ask : α → Option β}
    {b : β} :
    (lineage key next steps start).findSome? ask = some b ↔ FirstAlong next start ask b := by
  have hfirst : ∀ {c}, (lineage key next steps start).findSome? ask = some c →
      FirstAlong next start ask c := by
    intro c h
    obtain ⟨before, a, after, hsplit, hask, hnone⟩ := List.findSome?_eq_some_iff.1 h
    have hget : ∀ {i a'}, (before ++ a :: after)[i]? = some a' →
        orbit next start i = some a' := by
      intro i a' hi
      exact orbit_of_getElem?_lineageAfter (hsplit ▸ hi)
    refine ⟨before.length, a, hget (by simp), hask, fun m hm a' ha' ↦ hnone a' ?_⟩
    rw [hget (i := m) (List.getElem?_append_left hm ▸ List.getElem?_eq_getElem hm)] at ha'
    exact Option.some.inj ha' ▸ List.getElem_mem hm
  constructor
  · exact hfirst
  · rintro ⟨n, a, ha, hask, hnone⟩
    have hmem := (mem_lineage_iff hc hsteps hstart).2 ⟨n, ha⟩
    have hsome : ((lineage key next steps start).findSome? ask).isSome :=
      List.findSome?_isSome_iff.2 ⟨a, hmem, by rw [hask]; rfl⟩
    obtain ⟨c, hfound⟩ := Option.isSome_iff_exists.1 hsome
    -- two first answers are given at the same step
    obtain ⟨n', a', ha', hask', hnone'⟩ := hfirst hfound
    rcases Nat.lt_trichotomy n n' with hlt | rfl | hgt
    · rw [hnone' n hlt a ha] at hask
      exact absurd hask (by simp)
    · rw [ha] at ha'
      rw [hfound, ← hask', ← Option.some.inj ha', hask]
    · rw [hnone n' hgt a' ha'] at hask'
      exact absurd hask' (by simp)

end Walk

/-! ### Change of elements and keys -/

section Map

variable {α' κ' : Type} [DecidableEq κ] [DecidableEq κ'] {key : α → κ} {next : α → Option α}
  {key' : α' → κ'} {next' : α' → Option α'} {f : α → α'} {r : κ → κ'}

theorem map_lineageAfter (hr : Function.Injective r) (hkey : ∀ a, key' (f a) = r (key a))
    (hnext : ∀ a, next' (f a) = (next a).map f) (steps : Nat) (seen : List κ)
    (start : Option α) :
    lineageAfter key' next' steps (seen.map r) (start.map f) =
      (lineageAfter key next steps seen start).map f := by
  induction steps generalizing seen start with
  | zero => rfl
  | succ steps ih =>
    cases start with
    | none => simp
    | some a =>
      have hseen : key' (f a) ∈ seen.map r ↔ key a ∈ seen := by
        rw [hkey, List.mem_map_of_injective hr]
      rw [Option.map_some, lineageAfter, lineageAfter]
      by_cases ha : key a ∈ seen
      · rw [if_pos ha, if_pos (hseen.2 ha), List.map_nil]
      · rw [if_neg ha, if_neg (mt hseen.1 ha), List.map_cons, hnext, hkey, ← List.map_cons, ih]

/-- **A lineage follows a change of elements and keys** that respects the steps and keeps different
keys different. -/
theorem map_lineage (hr : Function.Injective r) (hkey : ∀ a, key' (f a) = r (key a))
    (hnext : ∀ a, next' (f a) = (next a).map f) (steps : Nat) (start : Option α) :
    lineage key' next' steps (start.map f) = (lineage key next steps start).map f :=
  map_lineageAfter hr hkey hnext steps [] start

end Map

/-! ### Walks side by side -/

section Alike

variable {α' : Type} [DecidableEq κ] {key : α → κ} {next : α → Option α} {key' : α' → κ}
  {next' : α' → Option α'} {R : α → α' → Prop}

theorem forall₂_lineageAfter (hkey : ∀ a a', R a a' → key' a' = key a)
    (hnext : ∀ a a', R a a' → Option.Rel R (next a) (next' a')) (steps : Nat) (seen : List κ)
    {start : Option α} {start' : Option α'} (hstart : Option.Rel R start start') :
    List.Forall₂ R (lineageAfter key next steps seen start)
      (lineageAfter key' next' steps seen start') := by
  induction steps generalizing seen start start' with
  | zero => exact List.Forall₂.nil
  | succ steps ih =>
    cases hstart with
    | none => simp
    | @some a a' h =>
      rw [lineageAfter, lineageAfter, hkey a a' h]
      by_cases hseen : key a ∈ seen
      · rw [if_pos hseen, if_pos hseen]
        exact List.Forall₂.nil
      · rw [if_neg hseen, if_neg hseen]
        exact List.Forall₂.cons h (ih _ (hnext a a' h))

/-- **Walks over elements that are alike list elements that are alike**, if such elements have the
same key and lead on to such elements. -/
theorem forall₂_lineage (hkey : ∀ a a', R a a' → key' a' = key a)
    (hnext : ∀ a a', R a a' → Option.Rel R (next a) (next' a')) (steps : Nat)
    {start : Option α} {start' : Option α'} (hstart : Option.Rel R start start') :
    List.Forall₂ R (lineage key next steps start) (lineage key' next' steps start') :=
  forall₂_lineageAfter hkey hnext steps [] hstart

end Alike

end DeprecationLint
