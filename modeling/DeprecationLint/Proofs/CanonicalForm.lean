import DeprecationLint.Proofs.CarriedData

/-!
# Canonical forms

A record in a document, and what an attribute carries, is a **map** from names to values: the order
of names means nothing, and of a repeated name only the last value counts. Trees and carried values
are kept as they were written, so one map has many spellings. The canonical form is the one in which
each name stands once, names in the order of their bytes, and the same inside of every value.

* `lastNamed?_arranged`: a name stands for the same in both spellings.
* `Value.canonical_canonical`: a canonical form is its own canonical form.
* `Json.canonical_ofValue`: the canonical form of what is written for a carried value is what is
  written for its canonical form.
* `Attribute.sameVersion_canonical`: an attribute in its canonical form has the same version, so
  a module may be brought into its canonical form without a trace in any survey.
-/

namespace DeprecationLint

open Platform Snapshot

/-! ### Entries as maps -/

section Entries

variable {α β : Type}

/-- Entries with each name once, with the last value that it has. -/
def lastEntries : List (String × α) → List (String × α)
  | [] => []
  | e :: rest => if e.1 ∈ rest.map Prod.fst then lastEntries rest else e :: lastEntries rest

/-- Entries with each name once, with the last value that it has, in the order of names. -/
def arranged (es : List (String × α)) : List (String × α) :=
  (lastEntries es).mergeSort fun e e' ↦ Text.bytesLe e.1 e'.1

theorem mem_names_lastEntries_iff {es : List (String × α)} {name : String} :
    name ∈ (lastEntries es).map Prod.fst ↔ name ∈ es.map Prod.fst := by
  induction es with
  | nil => rfl
  | cons e rest ih =>
    rw [lastEntries]
    by_cases he : e.1 ∈ rest.map Prod.fst
    · rw [if_pos he, ih, List.map_cons, List.mem_cons]
      constructor
      · exact Or.inr
      · intro h
        rcases h with rfl | h
        · exact he
        · exact h
    · rw [if_neg he, List.map_cons, List.map_cons, List.mem_cons, List.mem_cons, ih]

theorem nodup_names_lastEntries (es : List (String × α)) :
    ((lastEntries es).map Prod.fst).Nodup := by
  induction es with
  | nil => exact List.nodup_nil
  | cons e rest ih =>
    rw [lastEntries]
    by_cases he : e.1 ∈ rest.map Prod.fst
    · rw [if_pos he]
      exact ih
    · rw [if_neg he, List.map_cons, List.nodup_cons]
      exact ⟨mt mem_names_lastEntries_iff.1 he, ih⟩

/-- Where no name is repeated, every entry is the last of its name. -/
theorem lastEntries_of_nodup {es : List (String × α)} (h : (es.map Prod.fst).Nodup) :
    lastEntries es = es := by
  induction es with
  | nil => rfl
  | cons e rest ih =>
    rw [List.map_cons, List.nodup_cons] at h
    rw [lastEntries, if_neg h.1, ih h.2]

theorem lastEntries_map (f : α → β) (es : List (String × α)) :
    lastEntries (es.map (Prod.map id f)) = (lastEntries es).map (Prod.map id f) := by
  have hnames : ∀ rest : List (String × α),
      (rest.map (Prod.map id f)).map Prod.fst = rest.map Prod.fst := by
    intro rest
    rw [List.map_map]
    rfl
  induction es with
  | nil => rfl
  | cons e rest ih =>
    rw [List.map_cons, lastEntries, lastEntries, hnames, ih]
    show (if e.1 ∈ rest.map Prod.fst then _ else _) = _
    by_cases he : e.1 ∈ rest.map Prod.fst
    · rw [if_pos he, if_pos he]
    · rw [if_neg he, if_neg he, List.map_cons]

theorem arranged_perm (es : List (String × α)) : (arranged es).Perm (lastEntries es) :=
  List.mergeSort_perm _ _

theorem nodup_names_arranged (es : List (String × α)) : ((arranged es).map Prod.fst).Nodup :=
  ((arranged_perm es).map Prod.fst).nodup_iff.2 (nodup_names_lastEntries es)

/-- Where no name is repeated, arranging entries changes their order only. -/
theorem arranged_perm_of_nodup {es : List (String × α)} (h : (es.map Prod.fst).Nodup) :
    (arranged es).Perm es := by
  have hperm := arranged_perm es
  rwa [lastEntries_of_nodup h] at hperm

theorem arranged_map (f : α → β) (es : List (String × α)) :
    arranged (es.map (Prod.map id f)) = (arranged es).map (Prod.map id f) := by
  rw [arranged, arranged, lastEntries_map]
  symm
  apply List.map_mergeSort
  intro e _ e' _
  rfl

/-- Entries are arranged once and for all. -/
theorem arranged_arranged (es : List (String × α)) : arranged (arranged es) = arranged es := by
  have hsorted : (arranged es).Pairwise fun e e' ↦ Text.bytesLe e.1 e'.1 = true := by
    refine List.pairwise_mergeSort ?_ ?_ (lastEntries es)
    · exact fun _ _ _ ↦ Text.bytesLe_trans
    · exact fun e e' ↦ Text.bytesLe_total e.1 e'.1
  rw [arranged, lastEntries_of_nodup (nodup_names_arranged es)]
  exact List.mergeSort_of_pairwise hsorted

/-! ### Lookups in entries -/

theorem lookup_eq_some_iff_mem {es : List (String × α)} (h : (es.map Prod.fst).Nodup)
    {name : String} {a : α} : es.lookup name = some a ↔ (name, a) ∈ es := by
  constructor
  · intro hlookup
    obtain ⟨before, after, rfl, -⟩ := List.lookup_eq_some_iff.1 hlookup
    exact List.mem_append_right _ List.mem_cons_self
  · intro hmem
    obtain ⟨before, after, rfl⟩ := List.append_of_mem hmem
    refine List.lookup_eq_some_iff.2 ⟨before, after, rfl, fun e he ↦ bne_iff_ne.2 fun hname ↦ ?_⟩
    rw [List.map_append, List.nodup_append] at h
    exact h.2.2 e.1 (List.mem_map_of_mem he) name List.mem_cons_self hname.symm

/-- Where no name is repeated, a lookup does not depend on the order. -/
theorem lookup_eq_of_perm {es es' : List (String × α)} (hperm : es.Perm es')
    (h : (es.map Prod.fst).Nodup) (name : String) : es'.lookup name = es.lookup name := by
  have h' : (es'.map Prod.fst).Nodup := (hperm.map Prod.fst).nodup_iff.1 h
  ext a
  rw [lookup_eq_some_iff_mem h, lookup_eq_some_iff_mem h', hperm.mem_iff]

theorem lastNamed?_cons (name : String) (e : String × α) (es : List (String × α)) :
    lastNamed? name (e :: es) =
      (lastNamed? name es).or (if e.1 = name then some e.2 else none) := by
  rw [lastNamed?, lastNamed?, List.reverse_cons, List.find?_append, Option.map_or]
  by_cases he : e.1 = name
  · simp [he]
  · simp [he]

theorem lastNamed?_eq_none_iff {name : String} {es : List (String × α)} :
    lastNamed? name es = none ↔ name ∉ es.map Prod.fst := by
  rw [lastNamed?, Option.map_eq_none_iff, List.find?_eq_none]
  constructor
  · intro h hmem
    obtain ⟨e, he, hname⟩ := List.mem_map.1 hmem
    exact h e (List.mem_reverse.2 he) (beq_iff_eq.2 hname)
  · intro h e he hname
    exact h (List.mem_map.2 ⟨e, List.mem_reverse.1 he, beq_iff_eq.1 hname⟩)

/-- Where no name is repeated, the last value of a name is the one that a lookup finds. -/
theorem lastNamed?_eq_lookup {es : List (String × α)} (h : (es.map Prod.fst).Nodup)
    (name : String) : lastNamed? name es = es.lookup name := by
  induction es with
  | nil => rfl
  | cons e rest ih =>
    rw [List.map_cons, List.nodup_cons] at h
    rw [lastNamed?_cons, List.lookup_cons, ih h.2]
    by_cases he : e.1 = name
    · obtain rfl := he
      rw [← ih h.2, lastNamed?_eq_none_iff.2 h.1]
      simp
    · rw [if_neg he, Option.or_none, beq_eq_false_iff_ne.2 (Ne.symm he)]

theorem lastNamed?_lastEntries (name : String) (es : List (String × α)) :
    lastNamed? name (lastEntries es) = lastNamed? name es := by
  induction es with
  | nil => rfl
  | cons e rest ih =>
    rw [lastEntries, lastNamed?_cons]
    by_cases he : e.1 ∈ rest.map Prod.fst
    · rw [if_pos he, ih]
      -- if the entry that is left out has the name, the name has a later value
      by_cases hname : e.1 = name
      · rcases hlast : lastNamed? name rest with - | a
        · exact absurd (hname ▸ he) (lastNamed?_eq_none_iff.1 hlast)
        · rfl
      · rw [if_neg hname, Option.or_none]
    · rw [if_neg he, lastNamed?_cons, ih]

/-- **A name stands for the same value in arranged entries.** -/
theorem lastNamed?_arranged (name : String) (es : List (String × α)) :
    lastNamed? name (arranged es) = lastNamed? name es := by
  have hnodup := nodup_names_lastEntries es
  rw [lastNamed?_eq_lookup (nodup_names_arranged es),
    lookup_eq_of_perm (arranged_perm es).symm hnodup, ← lastNamed?_eq_lookup hnodup,
    lastNamed?_lastEntries]

theorem lastNamed?_map (f : α → β) (name : String) (es : List (String × α)) :
    lastNamed? name (es.map (Prod.map id f)) = (lastNamed? name es).map f := by
  induction es with
  | nil => rfl
  | cons e rest ih =>
    rw [List.map_cons, lastNamed?_cons, lastNamed?_cons, ih, Option.map_or]
    by_cases he : e.1 = name
    · simp [he]
    · simp [he]

end Entries

/-! ### Values and trees -/

namespace Value

mutual

/-- The canonical form of a carried value: names stand once in each record, and in order. -/
def canonical : Value → Value
  | .null => .null
  | .bool b => .bool b
  | .number n => .number n
  | .text s => .text s
  | .list items => .list (canonicalItems items)
  | .record entries => .record (arranged (canonicalEntries entries))

/-- The canonical forms of the items of a list. -/
def canonicalItems : List Value → List Value
  | [] => []
  | v :: rest => canonical v :: canonicalItems rest

/-- The canonical forms of the values of entries. -/
def canonicalEntries : List (String × Value) → List (String × Value)
  | [] => []
  | (name, v) :: rest => (name, canonical v) :: canonicalEntries rest

end

theorem canonicalEntries_eq_map (es : List (String × Value)) :
    canonicalEntries es = es.map (Prod.map id canonical) := by
  induction es with
  | nil => rfl
  | cons e rest ih => rw [canonicalEntries, ih, List.map_cons, Prod.map_apply', id]

mutual

/-- **The canonical form of a value is its own canonical form.** -/
theorem canonical_canonical : ∀ v : Value, v.canonical.canonical = v.canonical
  | .null => rfl
  | .bool _ => rfl
  | .number _ => rfl
  | .text _ => rfl
  | .list items => by
    rw [canonical, canonical, canonicalItems_canonicalItems items]
  | .record entries => by
    rw [canonical, canonical, canonicalEntries_eq_map, ← arranged_map, ← canonicalEntries_eq_map,
      canonicalEntries_canonicalEntries entries, arranged_arranged]

theorem canonicalItems_canonicalItems :
    ∀ vs : List Value, canonicalItems (canonicalItems vs) = canonicalItems vs
  | [] => rfl
  | v :: rest => by
    rw [canonicalItems, canonicalItems, canonical_canonical v, canonicalItems_canonicalItems rest]

theorem canonicalEntries_canonicalEntries :
    ∀ es : List (String × Value), canonicalEntries (canonicalEntries es) = canonicalEntries es
  | [] => rfl
  | (name, v) :: rest => by
    rw [canonicalEntries, canonicalEntries, canonical_canonical v,
      canonicalEntries_canonicalEntries rest]

end

theorem unsigned?_canonical (v : Value) : v.canonical.unsigned? = v.unsigned? := by
  rcases v <;> rfl

end Value

namespace Json

mutual

/-- The canonical form of a tree: names stand once in each object, and in order. -/
def canonical : Json → Json
  | .null => .null
  | .bool b => .bool b
  | .number n => .number n
  | .text s => .text s
  | .list items => .list (canonicalItems items)
  | .object members => .object (arranged (canonicalMembers members))
  | .unreadable => .unreadable

/-- The canonical forms of the items of an array. -/
def canonicalItems : List Json → List Json
  | [] => []
  | j :: rest => canonical j :: canonicalItems rest

/-- The canonical forms of the values of an object. -/
def canonicalMembers : List (String × Json) → List (String × Json)
  | [] => []
  | (name, j) :: rest => (name, canonical j) :: canonicalMembers rest

end

theorem canonicalItems_eq_map (items : List Json) : canonicalItems items = items.map canonical := by
  induction items with
  | nil => rfl
  | cons j rest ih => rw [canonicalItems, ih, List.map_cons]

theorem canonicalMembers_eq_map (members : List (String × Json)) :
    canonicalMembers members = members.map (Prod.map id canonical) := by
  induction members with
  | nil => rfl
  | cons m rest ih => rw [canonicalMembers, ih, List.map_cons, Prod.map_apply', id]

theorem ofEntries_eq_map (es : List (String × Value)) :
    ofEntries es = es.map (Prod.map id ofValue) := by
  induction es with
  | nil => rfl
  | cons e rest ih => rw [ofEntries, ih, List.map_cons, Prod.map_apply', id]

theorem ofEntries_arranged (es : List (String × Value)) :
    ofEntries (arranged es) = arranged (ofEntries es) := by
  rw [ofEntries_eq_map, ofEntries_eq_map, arranged_map]

mutual

/-- **The canonical form of what is written for a value is written for its canonical form.** -/
theorem canonical_ofValue : ∀ v : Value, (ofValue v).canonical = ofValue v.canonical
  | .null => rfl
  | .bool _ => rfl
  | .number _ => rfl
  | .text _ => rfl
  | .list items => by
    rw [ofValue, canonical, canonicalItems_ofValues items, Value.canonical, ofValue]
  | .record entries => by
    rw [ofValue, canonical, canonicalMembers_ofEntries entries, Value.canonical, ofValue,
      ofEntries_arranged]

theorem canonicalItems_ofValues :
    ∀ vs : List Value, canonicalItems (ofValues vs) = ofValues (Value.canonicalItems vs)
  | [] => rfl
  | v :: rest => by
    rw [ofValues, canonicalItems, canonical_ofValue v, canonicalItems_ofValues rest,
      Value.canonicalItems, ofValues]

theorem canonicalMembers_ofEntries :
    ∀ es : List (String × Value),
      canonicalMembers (ofEntries es) = ofEntries (Value.canonicalEntries es)
  | [] => rfl
  | (name, v) :: rest => by
    rw [ofEntries, canonicalMembers, canonical_ofValue v, canonicalMembers_ofEntries rest,
      Value.canonicalEntries, ofEntries]

end

end Json

/-! ### Declarations -/

namespace Platform

/-- What an attribute carries, in its canonical form. -/
def canonicalEntries (es : List (String × Value)) : List (String × Value) :=
  arranged (Value.canonicalEntries es)

/-- An attribute that carries the canonical form of what it carried. -/
def Attribute.canonical (a : Attribute) : Attribute :=
  { a with entries := canonicalEntries a.entries }

/-- An attribute carries under each name the canonical form of what it carried. -/
theorem Attribute.carried?_canonical (a : Attribute) (name : String) :
    a.canonical.carried? name = (a.carried? name).map Value.canonical := by
  rw [carried?, carried?, canonical, canonicalEntries, lastNamed?_arranged,
    Value.canonicalEntries_eq_map, lastNamed?_map]

theorem Attribute.canonical_canonical (a : Attribute) : a.canonical.canonical = a.canonical := by
  have hentries : canonicalEntries (canonicalEntries a.entries) = canonicalEntries a.entries := by
    rw [canonicalEntries, canonicalEntries, Value.canonicalEntries_eq_map, ← arranged_map,
      ← Value.canonicalEntries_eq_map, Value.canonicalEntries_canonicalEntries, arranged_arranged]
  rw [canonical, canonical, hentries]

/-- **An attribute has the same version in its canonical form.** -/
theorem Attribute.sameVersion_canonical : Attribute.SameVersion Attribute.canonical where
  typeName_eq _ := rfl
  version_eq a := by
    rw [version, version, carried?_canonical, Option.bind_map]
    have hsame : Value.unsigned? ∘ Value.canonical = Value.unsigned? :=
      funext Value.unsigned?_canonical
    rw [hsame]
    rfl

/-- A type whose attributes are in their canonical form. -/
def TypeDeclaration.canonical (t : TypeDeclaration) : TypeDeclaration :=
  t.mapAttributes Attribute.canonical

/-- A type is brought into its canonical form once and for all. -/
theorem TypeDeclaration.canonical_canonical (t : TypeDeclaration) :
    t.canonical.canonical = t.canonical := by
  have hattribute : Attribute.canonical ∘ Attribute.canonical = Attribute.canonical :=
    funext Attribute.canonical_canonical
  rw [canonical, canonical, mapAttributes_mapAttributes, hattribute]

/-- A module whose attributes are in their canonical form. -/
def Module.canonical (m : Module) : Module :=
  m.mapAttributes Attribute.canonical

end Platform

end DeprecationLint
