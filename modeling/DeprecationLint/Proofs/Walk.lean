import DeprecationLint.Proofs.Availability

/-!
# Walks that end by themselves

A lineage is computed with a bound on its steps. What it stands for is a walk **without a bound**:
go on as long as something comes next that was not met before. `Walk` is that walk as a relation, so
a derivation of it is a walk that has come to an end, and for the reason it gives.

* `Walk.unique`: a walk can end in one way only.
* `walk_lineage`: it does end, also where bases lead in circles, and the lineage is what it lists.
* `length_lineage_le`: it lists no more than there are different keys.

Nothing is lost where a walk is cut short (`mem_lineage_iff`), so `isDescendant_iff_reaches_root`
can say what descent from the root means without any walk at all.
-/

namespace DeprecationLint

open Platform Snapshot

/-! ### Walks -/

section Walk

variable {α κ : Type} {key : α → κ} {next : α → Option α}

/-- A walk that has ended, with what it listed on its way: it goes from a start to what comes next,
remembers the keys it met, and ends where nothing comes next or a key was met before. -/
inductive Walk (key : α → κ) (next : α → Option α) : List κ → Option α → List α → Prop
  /-- Nothing comes next. -/
  | done {seen : List κ} : Walk key next seen none []
  /-- What comes next was met before. -/
  | repeated {seen : List κ} {a : α} (hmet : key a ∈ seen) : Walk key next seen (some a) []
  /-- What comes next is new. -/
  | step {seen : List κ} {a : α} {rest : List α} (hnew : key a ∉ seen)
      (hrest : Walk key next (key a :: seen) (next a) rest) :
      Walk key next seen (some a) (a :: rest)

/-- **A walk can end in one way only.** -/
theorem Walk.unique {seen : List κ} {start : Option α} {l l' : List α}
    (h : Walk key next seen start l) (h' : Walk key next seen start l') : l = l' := by
  induction h generalizing l' with
  | done =>
    cases h'
    rfl
  | repeated hmet =>
    cases h' with
    | repeated => rfl
    | step hnew => exact absurd hmet hnew
  | step hnew _ ih =>
    cases h' with
    | repeated hmet => exact absurd hmet hnew
    | step _ hrest => rw [ih hrest]

/-- A walk goes the same way wherever what comes next is the same. -/
theorem Walk.congr {next' : α → Option α} {P : α → Prop} {seen : List κ} {start : Option α}
    {l : List α} (h : Walk key next seen start l) (hstart : ∀ a, start = some a → P a)
    (hsame : ∀ a, P a → next' a = next a) (hnext : ∀ a b, P a → next a = some b → P b) :
    Walk key next' seen start l := by
  induction h with
  | done => exact Walk.done
  | repeated hmet => exact Walk.repeated hmet
  | @step seen a rest hnew _ ih =>
    have ha : P a := hstart a rfl
    have hrest : Walk key next' (key a :: seen) (next a) rest := ih fun b hb ↦ hnext a b ha hb
    rw [← hsame a ha] at hrest
    exact Walk.step hnew hrest

variable [DecidableEq κ]

/-- A bounded walk is one that ended by itself if nothing new would have come after it. -/
theorem walk_lineageAfter {steps : Nat} {seen : List κ} {start : Option α}
    (hends : ∀ a, orbit next start (lineageAfter key next steps seen start).length = some a →
      key a ∈ seen ∨ key a ∈ (lineageAfter key next steps seen start).map key) :
    Walk key next seen start (lineageAfter key next steps seen start) := by
  induction steps generalizing seen start with
  | zero =>
    rcases start with - | a
    · exact Walk.done
    · have hmet : key a ∈ seen := (hends a rfl).resolve_right List.not_mem_nil
      exact Walk.repeated hmet
  | succ steps ih =>
    rcases start with - | b
    · exact Walk.done
    · rw [lineageAfter] at hends ⊢
      by_cases hb : key b ∈ seen
      · rw [if_pos hb]
        exact Walk.repeated hb
      · rw [if_neg hb] at hends ⊢
        refine Walk.step hb (ih fun a ha ↦ ?_)
        -- the first key moves from what is listed to what was met
        have hmet := hends a ha
        rw [List.map_cons, List.mem_cons] at hmet
        rw [List.mem_cons]
        tauto

variable {P : α → Prop} {keys : List κ} {steps : Nat} {start : Option α}

/-- **A confined walk ends by itself**, and the lineage is what it lists. -/
theorem walk_lineage (hc : Confined key next P keys) (hsteps : keys.length ≤ steps)
    (hstart : ∀ a, start = some a → P a) :
    Walk key next [] start (lineage key next steps start) := by
  refine walk_lineageAfter fun a ha ↦ Or.inr ?_
  have hmem : a ∈ lineage key next steps start := mem_lineage_of_orbit_length hc hsteps hstart ha
  exact List.mem_map_of_mem hmem

/-- **A confined walk lists no more than there are different keys.** -/
theorem length_lineage_le (hc : Confined key next P keys) (hstart : ∀ a, start = some a → P a) :
    (lineage key next steps start).length ≤ keys.eraseDups.length := by
  have hsub : (lineage key next steps start).map key ⊆ keys.eraseDups := by
    intro k hk
    obtain ⟨a, ha, rfl⟩ := List.mem_map.1 hk
    obtain ⟨i, hi⟩ := List.mem_iff_getElem?.1 ha
    have hP : P a := orbit_preserves hstart hc.next_mem (orbit_of_getElem?_lineageAfter hi)
    exact List.mem_eraseDups.2 (hc.key_mem hP)
  have hle := (nodup_keys_lineage key next steps start).length_le_of_subset hsub
  rwa [List.length_map] at hle

end Walk

/-! ### Bases of a type -/

namespace Snapshot.SymbolTable

/-- **The walk along the bases of a type ends, in one way, with the bases of the type.** -/
theorem walk_bases_iff {table : SymbolTable} {start : Option SymbolId} {l : List Symbol} :
    Walk Symbol.id table.base? [] (start.bind table.get?) l ↔ l = table.bases start := by
  have hwalk : Walk Symbol.id table.base? [] (start.bind table.get?) (table.bases start) :=
    walk_lineage table.base?_confined (List.length_map _).le get?_id_of_bind
  constructor
  · intro h
    exact h.unique hwalk
  · intro h
    exact h ▸ hwalk

theorem nodup_ids_bases (table : SymbolTable) (start : Option SymbolId) :
    ((table.bases start).map Symbol.id).Nodup :=
  nodup_keys_lineage Symbol.id table.base? _ _

theorem length_bases_le (table : SymbolTable) (start : Option SymbolId) :
    (table.bases start).length ≤ table.size :=
  length_lineage_le table.base?_confined get?_id_of_bind

end Snapshot.SymbolTable

/-! ### Descent -/

/-- **A type passes for a descendant exactly when the root can be reached from it**: when it is
given, stands for a symbol that is not an array, and following bases some number of times leads to
a symbol with the module and the simple name of the root. The walk that decides it ends in every
table, without a bound on its steps and in one way only; it lists no number twice and no more
symbols than the table has numbers; and what it leaves out after a repetition it has listed
before. -/
theorem isDescendant_iff_reaches_root (target : Target) (table : SymbolTable)
    (type : Option SymbolId) :
    (isDescendant target table type = true ↔
      ∃ id s, type = some id ∧ table.Binds id s ∧ s.kind ≠ .arrayType ∧
        ∃ n t, orbit table.base? (some s) n = some t ∧
          t.module = target.identity ∧ t.name = target.rootName) ∧
    (∀ l, Walk Symbol.id table.base? [] (type.bind table.get?) l ↔ l = table.bases type) ∧
    ((table.bases type).map Symbol.id).Nodup ∧
    (table.bases type).length ≤ table.size ∧
    ∀ n t, orbit table.base? (type.bind table.get?) n = some t → t ∈ table.bases type := by
  refine ⟨?_, fun l ↦ SymbolTable.walk_bases_iff, table.nodup_ids_bases type,
    table.length_bases_le type, fun n t h ↦ SymbolTable.mem_bases_iff.2 ⟨n, h⟩⟩
  rw [isDescendant_iff]
  constructor
  · intro h
    obtain ⟨id, hid, s, hs, hkind, hroot⟩ := h
    exact ⟨id, s, hid, hs, hkind, hroot⟩
  · intro h
    obtain ⟨id, s, hid, hs, hkind, hroot⟩ := h
    exact ⟨id, hid, s, hs, hkind, hroot⟩

end DeprecationLint
