import DeprecationLint.Proofs.CanonicalForm
import DeprecationLint.Snapshot.Solution

/-!
# Reading what was written

Declarations, symbols and nodes have a JSON form, in which a field that has nothing to say is left
out (`TypeDeclaration.writes`, `Symbol.writes`, `Node.writes`). Reading the form gives back the
record.

There is more than one way to hand over a form. It can be passed on as it was written, or as a map,
which is its canonical form. A `Json.Spelling` is what both have in common: leaves and arrays stand
as they are, and the members of an object with distinct names may change their places. Each kind of
record is read back once, for every spelling, and the rest of this module puts the two ways in.

* `Json.Spelling.exists_fields`: a spelled record has the fields that were written, and no others.
* `TypeDeclaration.read?_spell`, `Symbol.read?_spell`, `Node.read?_spell`: a record is read back.
* `Module.answersFor_canonical`: a module that went through its canonical form gives the answers of
  the module itself.
-/

namespace DeprecationLint

open Document Platform Snapshot

namespace Json

/-- The names of the members of an object, in written order. -/
def names : Json → List String
  | .object members => members.map Prod.fst
  | _ => []

/-- A way to hand over the trees of records. -/
structure Spelling where
  /-- The tree that is handed over. -/
  spell : Json → Json
  /-- What is left of carried entries. -/
  keep : List (String × Value) → List (String × Value)
  /-- Flags stand as they are. -/
  spell_bool : ∀ b, spell (.bool b) = .bool b
  /-- Numbers stand as they are. -/
  spell_number : ∀ n, spell (.number n) = .number n
  /-- Texts stand as they are. -/
  spell_text : ∀ s, spell (.text s) = .text s
  /-- The items of an array stand in order. -/
  spell_list : ∀ items, spell (.list items) = .list (items.map spell)
  /-- The members of an object with distinct names stand in some order. -/
  spell_object : ∀ members : List (String × Json), (members.map Prod.fst).Nodup →
    ∃ spelled, spell (.object members) = .object spelled ∧
      spelled.Perm (members.map (Prod.map id spell))
  /-- Carried entries are read as what is left of them. -/
  entries?_spell : ∀ es, entries? (spell (.object (ofEntries es))) = some (keep es)

namespace Spelling

/-- Trees as they are written. -/
def written : Spelling where
  spell := id
  keep := id
  spell_bool _ := rfl
  spell_number _ := rfl
  spell_text _ := rfl
  spell_list items := by rw [List.map_id, id]
  spell_object members _ := by
    refine ⟨members, rfl, ?_⟩
    rw [Prod.map_id, List.map_id]
  entries?_spell := entryValues?_ofEntries

/-- Trees in their canonical forms. -/
def canonical : Spelling where
  spell := Json.canonical
  keep := canonicalEntries
  spell_bool _ := rfl
  spell_number _ := rfl
  spell_text _ := rfl
  spell_list items := by rw [Json.canonical, canonicalItems_eq_map]
  spell_object members hnodup := by
    refine ⟨_, rfl, ?_⟩
    rw [canonicalMembers_eq_map, arranged_map]
    exact (arranged_perm_of_nodup hnodup).map _
  entries?_spell es := by
    show entryValues? (arranged (canonicalMembers (ofEntries es))) = _
    rw [canonicalMembers_ofEntries, ← ofEntries_arranged, entryValues?_ofEntries, canonicalEntries]

/-- Fields are what becomes of the members of a written object. -/
def Spells (w : Spelling) (members fields : Fields Json) : Prop :=
  ∀ name, fields.lookup name = (members.lookup name).map w.spell

/-- **A spelled record has the fields that were written.** What is written must be fields of the
record, each at most once and in their order. -/
theorem exists_fields (w : Spelling) (j : Json) (fieldNames : List String)
    {members : List (String × Json)} (hj : j = .object members) (hnames : fieldNames.Nodup)
    (hmembers : j.names.Sublist fieldNames) :
    ∃ fields : Fields Json, Document.fields? fieldNames (w.spell j) = some fields ∧
      w.Spells members fields := by
  obtain rfl := hj
  have hnodup : (members.map Prod.fst).Nodup := hnames.sublist hmembers
  obtain ⟨spelled, hspell, hperm⟩ := w.spell_object members hnodup
  have hkeys : (members.map (Prod.map id w.spell)).map Prod.fst = members.map Prod.fst := by
    rw [List.map_map]
    rfl
  have hspelled : (spelled.map Prod.fst).Perm (members.map Prod.fst) :=
    hkeys ▸ hperm.map Prod.fst
  -- no member is skipped, because all of them are fields of the record
  have hknown : (spelled.filter fun m ↦ fieldNames.contains m.1) = spelled := by
    refine List.filter_eq_self.2 fun m hm ↦ List.contains_iff_mem.2 (hmembers.subset ?_)
    exact hspelled.subset (List.mem_map_of_mem hm)
  refine ⟨spelled, ?_, fun name ↦ ?_⟩
  · show fields? fieldNames _ = _
    rw [hspell, fields?, hknown, if_pos (hspelled.nodup_iff.2 hnodup)]
  · rw [lookup_eq_of_perm hperm.symm (hkeys ▸ hnodup), ← lastNamed?_eq_lookup (hkeys ▸ hnodup),
      lastNamed?_map, lastNamed?_eq_lookup hnodup]

/-! ### Leaves and arrays -/

section Parts

variable (w : Spelling) {α β : Type}

theorem text?_spell (s : String) : Document.text? (w.spell (.text s)) = some s := by
  rw [w.spell_text]
  rfl

theorem choice?_spell (s : String) : Document.choice? (w.spell (.text s)) = some s := by
  rw [w.spell_text]
  rfl

theorem bool?_spell (b : Bool) : bool? (w.spell (.bool b)) = some b := by
  rw [w.spell_bool]
  rfl

theorem natural?_spell (n : Nat) :
    Document.natural? (w.spell (.number (.integer n))) = some n := by
  rw [w.spell_number]
  show (if (0 : Int) ≤ n then some (n : Int).toNat else none) = some n
  rw [if_pos (by omega), Int.toNat_natCast]

theorem word64?_spell (n : UInt64) : word64? (w.spell (.number (.ofUnsigned n))) = some n := by
  rw [word64?, Number.ofUnsigned, w.natural?_spell, Option.bind_some, if_pos n.toNat_lt]
  simp

theorem word32?_spell (n : UInt32) :
    word32? (w.spell (.number (.integer n.toNat))) = some n := by
  rw [word32?, w.natural?_spell, Option.bind_some, if_pos n.toNat_lt]
  simp

/-- The items of an array are read back if each of them is. -/
theorem listOf?_spell {write : α → Json} {read : Json → Option β} {f : α → β}
    (hread : ∀ a, read (w.spell (write a)) = some (f a)) (items : List α) :
    listOf? read (w.spell (.list (items.map write))) = some (items.map f) := by
  have hitem : read ∘ (w.spell ∘ write) = fun a ↦ pure (f a) := funext hread
  rw [w.spell_list, List.map_map]
  show (items.map (w.spell ∘ write)).mapM read = some (items.map f)
  rw [List.mapM_map, hitem, List.mapM_pure]
  rfl

theorem listOf?_spell_self {write : α → Json} {read : Json → Option α}
    (hread : ∀ a, read (w.spell (write a)) = some a) (items : List α) :
    listOf? read (w.spell (.list (items.map write))) = some items := by
  rw [w.listOf?_spell hread, List.map_id']

end Parts

/-! ### Fields -/

section Fields

variable {w : Spelling} {members fields : Fields Json} {name : String} {α : Type}

/-- A field that is always written is read back. -/
theorem Spells.required? (h : w.Spells members fields) {read : Json → Option α} {j : Json} {a : α}
    (hread : read (w.spell j) = some a) (hname : members.lookup name = some j) :
    fields.required? name read = some a := by
  rw [Fields.required?, h name, hname, Option.map_some, Option.bind_some, hread]

/-- A field that has a default and is always written is read back. -/
theorem Spells.defaulted? (h : w.Spells members fields) {default : α} {read : Json → Option α}
    {j : Json} {a : α} (hread : read (w.spell j) = some a)
    (hname : members.lookup name = some j) : fields.defaulted? name default read = some a := by
  rw [Fields.defaulted?, h name, hname, Option.map_some]
  exact hread

/-- A field that is left out where it has no value is read back. -/
theorem Spells.optional? (h : w.Spells members fields) {write : α → Json} {read : Json → Option α}
    (hread : ∀ a, read (w.spell (write a)) = some a) (hnull : read .null = none) {o : Option α}
    (hname : members.lookup name = o.map write) : fields.optional? name read = some o := by
  rw [Fields.optional?, Fields.defaulted?, h name, hname]
  rcases o with - | a
  · rfl
  · -- what was written for a value is not the literal that stands for none
    have hpresent : isNull (w.spell (write a)) = false := by
      rcases hspell : w.spell (write a) with - | _ | _ | _ | _ | _ | -
      · exact absurd (hread a) (by rw [hspell, hnull]; simp)
      all_goals rfl
    show (if isNull (w.spell (write a)) = true then _ else _) = _
    rw [hpresent, if_neg Bool.false_ne_true, hread, Option.map_some]

/-- A list that is left out where it is empty is read back. -/
theorem Spells.unlessEmpty? (h : w.Spells members fields) {write : α → Json}
    {read : Json → Option α} (hread : ∀ a, read (w.spell (write a)) = some a) {items : List α}
    (hname : members.lookup name =
      if items.isEmpty then none else some (.list (items.map write))) :
    fields.defaulted? name [] (listOf? read) = some items := by
  rcases items with - | ⟨a, rest⟩
  · rw [Fields.defaulted?, h name, hname]
    rfl
  · exact h.defaulted? (w.listOf?_spell_self hread (a :: rest)) hname

end Fields

end Spelling

end Json

/-! ### Lookups in what is written -/

section Written

variable {α β : Type}

@[simp] theorem lookup_ofOption (name key : String) (o : Option α) (write : α → β) :
    (o.map fun a ↦ (key, write a)).toList.lookup name =
      if name = key then o.map write else none := by
  rcases o with - | a
  · simp
  · by_cases h : name = key
    · simp [h]
    · simp [h]

@[simp] theorem lookup_unless (name key : String) (empty : Prop) [Decidable empty] (b : β) :
    (if empty then [] else [(key, b)]).lookup name =
      if name = key then (if empty then none else some b) else none := by
  by_cases hempty : empty
  · simp [hempty]
  · by_cases h : name = key
    · simp [hempty, h]
    · simp [hempty, h]

end Written

/-! ### Declarations -/

namespace Platform

/-- An attribute that carries what a spelling leaves of its entries. -/
def Attribute.keptBy (w : Json.Spelling) (a : Attribute) : Attribute :=
  { a with entries := w.keep a.entries }

theorem Attribute.read?_spell (w : Json.Spelling) (a : Attribute) :
    read? (w.spell a.toJson) = some (a.keptBy w) := by
  obtain ⟨fields, hfields, h⟩ :=
    w.exists_fields a.toJson ["type", "fields"] rfl (by decide) (List.Sublist.refl _)
  have htype : fields.required? "type" text? = some a.typeName :=
    h.required? (w.text?_spell _) rfl
  have hentries : fields.defaulted? "fields" [] entries? = some (w.keep a.entries) :=
    h.defaulted? (w.entries?_spell _) rfl
  rw [read?, hfields]
  simp only [Option.bind_eq_bind, Option.bind_some, htype, hentries]
  rfl

theorem MemberKind.read?_spell (w : Json.Spelling) (k : MemberKind) :
    read? (w.spell (.text k.name)) = some k := by
  rw [read?, w.choice?_spell, Option.bind_some, ofName?_name]

theorem Member.read?_spell (w : Json.Spelling) (m : Member) :
    read? (w.spell m.toJson) = some (m.mapAttributes (Attribute.keptBy w)) := by
  obtain ⟨fields, hfields, h⟩ :=
    w.exists_fields m.toJson ["name", "kind", "attributes"] rfl (by decide) (List.Sublist.refl _)
  have hname : fields.required? "name" text? = some m.name :=
    h.required? (w.text?_spell _) rfl
  have hkind : fields.required? "kind" MemberKind.read? = some m.kind :=
    h.required? (MemberKind.read?_spell w _) rfl
  have hattributes : fields.defaulted? "attributes" [] (listOf? Attribute.read?) =
      some (m.attributes.map (Attribute.keptBy w)) :=
    h.defaulted? (w.listOf?_spell (Attribute.read?_spell w) _) rfl
  rw [read?, hfields]
  simp only [Option.bind_eq_bind, Option.bind_some, hname, hkind, hattributes]
  rfl

theorem Enumerant.read?_spell (w : Json.Spelling) (e : Enumerant) :
    read? (w.spell e.toJson) = some e := by
  obtain ⟨fields, hfields, h⟩ :=
    w.exists_fields e.toJson ["name", "value"] rfl (by decide) (List.Sublist.refl _)
  have hname : fields.required? "name" text? = some e.name :=
    h.required? (w.text?_spell _) rfl
  have hvalue : fields.required? "value" word64? = some e.value :=
    h.required? (w.word64?_spell _) rfl
  rw [read?, hfields]
  simp only [Option.bind_eq_bind, Option.bind_some, hname, hvalue]
  rfl

namespace TypeDeclaration

/-- The fields of a type, in the order of their declaration. -/
def fieldNames : List String :=
  ["full_name", "base", "attributes", "members", "enumerants"]

/-- Is a field of a type written? A base that is missing and enumerants that are empty are not. -/
def writes (t : TypeDeclaration) : String → Bool
  | "base" => t.base.isSome
  | "enumerants" => !t.enumerants.isEmpty
  | _ => true

theorem names_toJson (t : TypeDeclaration) : t.toJson.names = fieldNames.filter t.writes := by
  obtain ⟨_, base, _, _, enumerants⟩ := t
  rcases base with - | b <;> rcases enumerants with - | ⟨e, rest⟩ <;> rfl

/-- **A type is read back**, with what is left of what its attributes carry. -/
theorem read?_spell (w : Json.Spelling) (t : TypeDeclaration) :
    read? (w.spell t.toJson) = some (t.mapAttributes (Attribute.keptBy w)) := by
  obtain ⟨fields, hfields, h⟩ := w.exists_fields t.toJson fieldNames rfl (by decide)
    (t.names_toJson ▸ List.filter_sublist)
  have hfullName : fields.required? "full_name" text? = some t.fullName :=
    h.required? (w.text?_spell _) rfl
  have hbase : fields.optional? "base" text? = some t.base :=
    h.optional? w.text?_spell rfl (by simp [List.lookup_append, List.lookup_cons])
  have hattributes : fields.defaulted? "attributes" [] (listOf? Attribute.read?) =
      some (t.attributes.map (Attribute.keptBy w)) :=
    h.defaulted? (w.listOf?_spell (Attribute.read?_spell w) _)
      (by simp [List.lookup_append, List.lookup_cons])
  have hmembers : fields.defaulted? "members" [] (listOf? Member.read?) =
      some (t.members.map (Member.mapAttributes (Attribute.keptBy w))) :=
    h.defaulted? (w.listOf?_spell (Member.read?_spell w) _)
      (by simp [List.lookup_append, List.lookup_cons])
  have henumerants : fields.defaulted? "enumerants" [] (listOf? Enumerant.read?) =
      some t.enumerants :=
    h.unlessEmpty? (Enumerant.read?_spell w) (by simp [List.lookup_append, List.lookup_cons])
  rw [fieldNames] at hfields
  rw [read?, hfields]
  simp only [Option.bind_eq_bind, Option.bind_some, hfullName, hbase, hattributes, hmembers,
    henumerants]
  rfl

end TypeDeclaration

/-- The JSON form of a module; a title that is missing is left out. -/
def Module.toJson (m : Module) : Json :=
  .object (
    (m.title.map fun t ↦ ("title", .text t)).toList
    ++ [("types", .list (m.types.map TypeDeclaration.toJson))])

/-- **A module is read back**, with what is left of what its attributes carry. -/
theorem Module.read?_spell (w : Json.Spelling) (m : Module) :
    read? (w.spell m.toJson) = some (m.mapAttributes (Attribute.keptBy w)) := by
  have hnames : m.toJson.names.Sublist ["title", "types"] := by
    obtain ⟨title, types⟩ := m
    rcases title with - | t
    · exact List.Sublist.cons _ (List.Sublist.refl _)
    · exact List.Sublist.refl _
  obtain ⟨fields, hfields, h⟩ :=
    w.exists_fields m.toJson ["title", "types"] rfl (by decide) hnames
  have htitle : fields.optional? "title" text? = some m.title :=
    h.optional? w.text?_spell rfl (by simp [List.lookup_append, List.lookup_cons])
  have htypes : fields.defaulted? "types" [] (listOf? TypeDeclaration.read?) =
      some (m.types.map (TypeDeclaration.mapAttributes (Attribute.keptBy w))) :=
    h.defaulted? (w.listOf?_spell (TypeDeclaration.read?_spell w) _)
      (by simp [List.lookup_append])
  rw [read?, hfields]
  simp only [Option.bind_eq_bind, Option.bind_some, htitle, htypes]
  rfl

end Platform

/-! ### Snapshots -/

namespace Snapshot

theorem SymbolId.read?_spell (w : Json.Spelling) (id : SymbolId) :
    read? (w.spell id.toJson) = some id := by
  rw [read?, toJson, w.word32?_spell, Option.map_some]

theorem NodeId.read?_spell (w : Json.Spelling) (id : NodeId) :
    read? (w.spell id.toJson) = some id := by
  rw [read?, toJson, w.word32?_spell, Option.map_some]

theorem SymbolKind.read?_spell (w : Json.Spelling) (k : SymbolKind) :
    read? (w.spell (.text k.name)) = some k := by
  rw [read?, w.choice?_spell, Option.map_some, ofName_name]

theorem NodeKind.read?_spell (w : Json.Spelling) (k : NodeKind) :
    read? (w.spell (.text k.name)) = some k := by
  rw [read?, w.choice?_spell, Option.map_some, ofName_name]

namespace Symbol

/-- Is a field of a symbol written? What the symbol does not have is not. -/
def writes (s : Symbol) : String → Bool
  | "display_name" => s.displayName.isSome
  | "containing_type" => s.containingType.isSome
  | "base_type" => s.baseType.isSome
  | "declared_type" => s.declaredType.isSome
  | _ => true

theorem names_toJson (s : Symbol) : s.toJson.names = fieldNames.filter s.writes := by
  obtain ⟨_, _, displayName, _, _, containingType, baseType, declaredType, _⟩ := s
  rcases displayName with - | _ <;> rcases containingType with - | _ <;>
    rcases baseType with - | _ <;> rcases declaredType with - | _ <;> rfl

/-- **A symbol is read back.** -/
theorem read?_spell (w : Json.Spelling) (s : Symbol) : read? (w.spell s.toJson) = some s := by
  obtain ⟨fields, hfields, h⟩ := w.exists_fields s.toJson fieldNames rfl (by decide)
    (s.names_toJson ▸ List.filter_sublist)
  have hid : fields.required? "id" SymbolId.read? = some s.id :=
    h.required? (SymbolId.read?_spell w _) rfl
  have hname : fields.required? "name" text? = some s.name :=
    h.required? (w.text?_spell _) rfl
  have hdisplayName : fields.optional? "display_name" text? = some s.displayName :=
    h.optional? w.text?_spell rfl (by simp [List.lookup_append, List.lookup_cons])
  have hkind : fields.required? "kind" SymbolKind.read? = some s.kind :=
    h.required? (SymbolKind.read?_spell w _) (by simp [List.lookup_append, List.lookup_cons])
  have hmodule : fields.required? "module" text? = some s.module :=
    h.required? (w.text?_spell _) (by simp [List.lookup_append, List.lookup_cons])
  have hcontainingType : fields.optional? "containing_type" SymbolId.read? =
      some s.containingType :=
    h.optional? (SymbolId.read?_spell w) rfl (by simp [List.lookup_append, List.lookup_cons])
  have hbaseType : fields.optional? "base_type" SymbolId.read? = some s.baseType :=
    h.optional? (SymbolId.read?_spell w) rfl (by simp [List.lookup_append, List.lookup_cons])
  have hdeclaredType : fields.optional? "declared_type" SymbolId.read? = some s.declaredType :=
    h.optional? (SymbolId.read?_spell w) rfl (by simp [List.lookup_append, List.lookup_cons])
  have hisOverride : fields.defaulted? "is_override" false Json.bool? = some s.isOverride :=
    h.defaulted? (w.bool?_spell _) (by simp [List.lookup_append, List.lookup_cons])
  rw [read?, hfields]
  simp only [Option.bind_eq_bind, Option.bind_some, hid, hname, hdisplayName, hkind, hmodule,
    hcontainingType, hbaseType, hdeclaredType, hisOverride]
  rfl

end Symbol

namespace Node

/-- Is a field of a node written? What the node does not have is not. -/
def writes (n : Node) : String → Bool
  | "parent" => n.parent.isSome
  | "declared" => n.declared.isSome
  | "symbol" => n.symbol.isSome
  | "candidates" => !n.candidates.isEmpty
  | _ => true

theorem names_toJson (n : Node) : n.toJson.names = fieldNames.filter n.writes := by
  obtain ⟨_, _, _, _, parent, declared, symbol, candidates⟩ := n
  rcases parent with - | _ <;> rcases declared with - | _ <;> rcases symbol with - | _ <;>
    rcases candidates with - | ⟨_, _⟩ <;> rfl

/-- **A node is read back.** -/
theorem read?_spell (w : Json.Spelling) (n : Node) : read? (w.spell n.toJson) = some n := by
  obtain ⟨fields, hfields, h⟩ := w.exists_fields n.toJson fieldNames rfl (by decide)
    (n.names_toJson ▸ List.filter_sublist)
  have hid : fields.required? "id" NodeId.read? = some n.id :=
    h.required? (NodeId.read?_spell w _) rfl
  have hkind : fields.required? "kind" NodeKind.read? = some n.kind :=
    h.required? (NodeKind.read?_spell w _) rfl
  have hstart : fields.required? "start" word64? = some n.start :=
    h.required? (w.word64?_spell _) rfl
  have hlength : fields.required? "length" word64? = some n.length :=
    h.required? (w.word64?_spell _) rfl
  have hparent : fields.optional? "parent" NodeId.read? = some n.parent :=
    h.optional? (NodeId.read?_spell w) rfl (by simp [List.lookup_append, List.lookup_cons])
  have hdeclared : fields.optional? "declared" SymbolId.read? = some n.declared :=
    h.optional? (SymbolId.read?_spell w) rfl (by simp [List.lookup_append, List.lookup_cons])
  have hsymbol : fields.optional? "symbol" SymbolId.read? = some n.symbol :=
    h.optional? (SymbolId.read?_spell w) rfl (by simp [List.lookup_append, List.lookup_cons])
  have hcandidates : fields.defaulted? "candidates" [] (listOf? SymbolId.read?) =
      some n.candidates :=
    h.unlessEmpty? (SymbolId.read?_spell w) (by simp [List.lookup_append, List.lookup_cons])
  rw [read?, hfields]
  simp only [Option.bind_eq_bind, Option.bind_some, hid, hkind, hstart, hlength, hparent,
    hdeclared, hsymbol, hcandidates]
  rfl

end Node

/-- The JSON form of a source file. -/
def Tree.toJson (tree : Tree) : Json :=
  .object [("path", .text tree.path), ("text", .text tree.text),
    ("nodes", .list (tree.nodes.map Node.toJson))]

/-- The JSON form of a project. -/
def Project.toJson (p : Project) : Json :=
  .object [("name", .text p.name), ("symbols", .list (p.symbols.symbols.map Symbol.toJson)),
    ("trees", .list (p.trees.map Tree.toJson))]

/-- The JSON form of a solution. -/
def Solution.toJson (s : Solution) : Json :=
  .object [("projects", .list (s.projects.map Project.toJson))]

theorem Tree.read?_spell (w : Json.Spelling) (tree : Tree) :
    read? (w.spell tree.toJson) = some tree := by
  obtain ⟨fields, hfields, h⟩ :=
    w.exists_fields tree.toJson ["path", "text", "nodes"] rfl (by decide) (List.Sublist.refl _)
  have hpath : fields.required? "path" text? = some tree.path :=
    h.required? (w.text?_spell _) rfl
  have htext : fields.defaulted? "text" "" text? = some tree.text :=
    h.defaulted? (w.text?_spell _) rfl
  have hnodes : fields.defaulted? "nodes" [] (listOf? Node.read?) = some tree.nodes :=
    h.defaulted? (w.listOf?_spell_self (Node.read?_spell w) _) rfl
  rw [read?, hfields]
  simp only [Option.bind_eq_bind, Option.bind_some, hpath, htext, hnodes]
  rfl

theorem Project.read?_spell (w : Json.Spelling) (p : Project) :
    read? (w.spell p.toJson) = some p := by
  obtain ⟨fields, hfields, h⟩ :=
    w.exists_fields p.toJson ["name", "symbols", "trees"] rfl (by decide) (List.Sublist.refl _)
  have hname : fields.required? "name" text? = some p.name :=
    h.required? (w.text?_spell _) rfl
  have htable : SymbolTable.read? (w.spell (.list (p.symbols.symbols.map Symbol.toJson))) =
      some p.symbols := by
    rw [SymbolTable.read?, w.listOf?_spell_self (Symbol.read?_spell w), Option.map_some]
  have hsymbols : fields.defaulted? "symbols" ⟨[]⟩ SymbolTable.read? = some p.symbols :=
    h.defaulted? htable rfl
  have htrees : fields.defaulted? "trees" [] (listOf? Tree.read?) = some p.trees :=
    h.defaulted? (w.listOf?_spell_self (Tree.read?_spell w) _) rfl
  rw [read?, hfields]
  simp only [Option.bind_eq_bind, Option.bind_some, hname, hsymbols, htrees]
  rfl

/-- **A solution is read back.** -/
theorem Solution.read?_spell (w : Json.Spelling) (s : Solution) :
    read? (w.spell s.toJson) = some s := by
  obtain ⟨fields, hfields, h⟩ :=
    w.exists_fields s.toJson ["projects"] rfl (by decide) (List.Sublist.refl _)
  have hprojects : fields.defaulted? "projects" [] (listOf? Project.read?) =
      some s.projects :=
    h.defaulted? (w.listOf?_spell_self (Project.read?_spell w) _) rfl
  rw [read?, hfields]
  simp only [Option.bind_eq_bind, Option.bind_some, hprojects]
  rfl

end Snapshot

/-! ### The two ways to hand over a record -/

theorem Platform.Attribute.keptBy_written : Attribute.keptBy Json.Spelling.written = id := rfl

/-- A module gives the answers of another one: its lookups find the canonical forms of what they
find there, and for all names and versions its target has the same fault, or leads to the same
run. -/
structure Platform.Module.AnswersFor (m' m : Module) : Prop where
  /-- The title is the same. -/
  title_eq : m'.title = m.title
  /-- A full name stands for the same type. -/
  type?_eq : ∀ name, m'.type? name = (m.type? name).map TypeDeclaration.canonical
  /-- A name in any case stands for the same type. -/
  typeIgnoringCase?_eq : ∀ name,
    m'.typeIgnoringCase? name = (m.typeIgnoringCase? name).map TypeDeclaration.canonical
  /-- The target has the same fault, or is the same but for the module. -/
  resolve_eq : ∀ (names : Names) (version : Option String),
    Target.resolve m' names version =
      (Target.resolve m names version).map ({ · with module := m' })
  /-- A run writes the same to every sink and comes to the same end. -/
  run_eq : ∀ (names : Names) (version : Option String) (excluded : String → Bool)
    (solution : Solution) (sink : Sink),
    (Target.resolve m' names version).map
        (fun target ↦ Inspection.run { target, excluded } solution sink) =
      (Target.resolve m names version).map
        (fun target ↦ Inspection.run { target, excluded } solution sink)

/-- **The canonical form of a module gives the answers of the module.** -/
theorem Platform.Module.answersFor_canonical (m : Module) : m.canonical.AnswersFor m where
  title_eq := rfl
  type?_eq := m.type?_map (f := TypeDeclaration.canonical) fun _ ↦ rfl
  typeIgnoringCase?_eq := m.typeIgnoringCase?_map (f := TypeDeclaration.canonical) fun _ ↦ rfl
  resolve_eq := Target.resolve_mapAttributes Attribute.canonical m
  run_eq names version excluded solution sink := by
    have halike : ∀ attributeType, m.Alike attributeType m.canonical := fun _ ↦
      m.alike_map (TypeDeclaration.alike_mapAttributes Attribute.sameVersion_canonical)
    rcases run_of_alike (Target.resolve_mapAttributes Attribute.canonical m names version)
      fun _ _ ↦ halike _ with ⟨f, hf, hf'⟩ | ⟨t, t', ht, ht', -, hrun⟩
    · rw [hf, canonical, hf']
    · rw [ht, canonical, ht']
      exact congrArg Except.ok (hrun excluded solution sink)

/-- **What is written is read back.** The form of a type, a symbol or a node leaves out what the
record does not have, and nothing else. Handed over as it was written, it is read back as the
record. Handed over in its canonical form, a symbol or a node is read back as it was, and a type
with what its attributes carry in canonical form. So a module whose types are written gives the same
answers when it is read back, and a solution whose symbols and nodes are written is read back as it
was. -/
theorem records_read_back :
    (∀ t : TypeDeclaration,
      t.toJson.names = TypeDeclaration.fieldNames.filter t.writes ∧
      TypeDeclaration.read? t.toJson = some t ∧
      TypeDeclaration.read? t.toJson.canonical = some t.canonical ∧
      t.canonical.canonical = t.canonical) ∧
    (∀ s : Symbol,
      s.toJson.names = Symbol.fieldNames.filter s.writes ∧
      Symbol.read? s.toJson = some s ∧ Symbol.read? s.toJson.canonical = some s) ∧
    (∀ n : Node,
      n.toJson.names = Node.fieldNames.filter n.writes ∧
      Node.read? n.toJson = some n ∧ Node.read? n.toJson.canonical = some n) ∧
    (∀ m : Module,
      Module.read? m.toJson = some m ∧
      ∃ m', Module.read? m.toJson.canonical = some m' ∧ m'.AnswersFor m) ∧
    ∀ solution : Solution,
      Solution.read? solution.toJson = some solution ∧
      Solution.read? solution.toJson.canonical = some solution := by
  refine ⟨fun t ↦ ?_, fun s ↦ ?_, fun n ↦ ?_, fun m ↦ ?_, fun solution ↦ ?_⟩
  · have hwritten := t.read?_spell .written
    rw [Attribute.keptBy_written, TypeDeclaration.mapAttributes_id] at hwritten
    exact ⟨t.names_toJson, hwritten, t.read?_spell .canonical, t.canonical_canonical⟩
  · exact ⟨s.names_toJson, s.read?_spell .written, s.read?_spell .canonical⟩
  · exact ⟨n.names_toJson, n.read?_spell .written, n.read?_spell .canonical⟩
  · have hwritten := m.read?_spell .written
    rw [Attribute.keptBy_written, Module.mapAttributes_id] at hwritten
    exact ⟨hwritten, m.canonical, m.read?_spell .canonical, m.answersFor_canonical⟩
  · exact ⟨solution.read?_spell .written, solution.read?_spell .canonical⟩

end DeprecationLint
