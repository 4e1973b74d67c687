import DeprecationLint.Proofs.Paths
import Mathlib.Data.List.Forall2
import Mathlib.Data.List.Nodup
import Mathlib.Data.List.Perm.Basic
import Mathlib.Tactic.SplitIfs

/-!
# Trees that a file system holds

A file system gives the entries of a directory different names, and hands them out in an order of
its own choice. `FileTree.WellFormed` is the first, and `FileTree.Shuffled` is that two trees differ
in the second only.

Following a path is a walk with one step per piece, so what holds of it is shown for one step:
`WellFormed.of_enter` and from it `WellFormed.of_follow`, that a path stays among well-formed trees;
`Shuffled.enter` and from it `Shuffled.follow`, that in shuffled trees a path **leads to shuffled
trees or fails in both, for the same reason**.
-/

namespace DeprecationLint.FileTree

/-- Entries of a directory have names, and no two have the same. -/
inductive WellFormed : FileTree → Prop
  /-- A file. -/
  | file (content : List UInt8) : WellFormed (.file content)
  /-- A directory. -/
  | directory {entries : List (String × FileTree)} (nodup : (entries.map Prod.fst).Nodup)
      (isName : ∀ e ∈ entries, Path.IsName e.1) (inner : ∀ e ∈ entries, WellFormed e.2) :
      WellFormed (.directory entries)

/-- The same tree, with the entries of each directory in some order. -/
inductive Shuffled : FileTree → FileTree → Prop
  /-- A file. -/
  | file (content : List UInt8) : Shuffled (.file content) (.file content)
  /-- A directory: the names are the same, and what has the same name is the same. -/
  | directory {entries entries' : List (String × FileTree)}
      (names : (entries.map Prod.fst).Perm (entries'.map Prod.fst))
      (inner : ∀ name t t', (name, t) ∈ entries → (name, t') ∈ entries' → Shuffled t t') :
      Shuffled (.directory entries) (.directory entries')

/-! ### Entries -/

theorem mem_of_entryOf {name : String} {entries : List (String × FileTree)} {t : FileTree}
    (h : entryOf name entries = some t) : (name, t) ∈ entries := by
  obtain ⟨before, after, rfl, -⟩ := List.lookup_eq_some_iff.1 h
  exact List.mem_append_right _ List.mem_cons_self

theorem entryOf_eq_none_iff {name : String} {entries : List (String × FileTree)} :
    entryOf name entries = none ↔ name ∉ entries.map Prod.fst := by
  simp only [entryOf, List.lookup_eq_none_iff, bne_iff_ne, List.mem_map, not_exists, not_and]
  exact forall₂_congr fun _ _ ↦ ne_comm

/-- Where names are different, a name leads to each entry that has it. -/
theorem entryOf_of_mem {entries : List (String × FileTree)}
    (hnodup : (entries.map Prod.fst).Nodup) {name : String} {t : FileTree}
    (h : (name, t) ∈ entries) : entryOf name entries = some t := by
  obtain ⟨before, after, rfl⟩ := List.append_of_mem h
  refine List.lookup_eq_some_iff.2 ⟨before, after, rfl, fun e he ↦ bne_iff_ne.2 fun hname ↦ ?_⟩
  rw [List.map_append, List.nodup_append] at hnodup
  exact hnodup.2.2 e.1 (List.mem_map_of_mem he) name List.mem_cons_self hname.symm

theorem follow_name_eq_ok_iff {entries : List (String × FileTree)}
    (hnodup : (entries.map Prod.fst).Nodup) {name : String} (hname : Path.IsName name)
    {rest : List String} (hrest : ∀ name ∈ rest, Path.IsName name) {there : FileTree} :
    follow [] (.directory entries) (name :: rest) = .ok there ↔
      ∃ t, (name, t) ∈ entries ∧ follow [] t rest = .ok there := by
  have habove := follow_congr_above (Path.dots_notMem_of_isName hrest) [.directory entries] []
  rw [follow_name hname]
  constructor
  · intro h
    cases ht : entryOf name entries with
    | none =>
      rw [ht] at h
      cases h
    | some t =>
      rw [ht] at h
      exact ⟨t, mem_of_entryOf ht, (habove t).symm.trans h⟩
  · rintro ⟨t, hmem, h⟩
    rw [entryOf_of_mem hnodup hmem]
    exact (habove t).trans h

/-! ### Well-formed trees -/

/-- A piece of a path leads from well-formed trees to well-formed trees. -/
theorem WellFormed.of_enter {above : List FileTree} {here : FileTree} {piece : String}
    {place : List FileTree × FileTree} (h : ∀ t ∈ here :: above, WellFormed t)
    (hplace : enter above here piece = .ok place) : ∀ t ∈ place.2 :: place.1, WellFormed t := by
  cases here with
  | file content => cases hplace
  | directory entries =>
    rw [enter] at hplace
    split_ifs at hplace with hskip hup
    · cases hplace
      exact h
    · cases hplace
      cases above with
      | nil => simpa using h
      | cons up more => exact fun t ht ↦ h t (List.mem_cons_of_mem _ ht)
    · cases hentry : entryOf piece entries with
      | none =>
        rw [hentry] at hplace
        cases hplace
      | some next =>
        rw [hentry] at hplace
        cases hplace
        cases h _ List.mem_cons_self with
        | directory _ _ inner =>
        exact List.forall_mem_cons.2 ⟨inner _ (mem_of_entryOf hentry), h⟩

theorem WellFormed.of_follow {pieces : List String} {above : List FileTree}
    {here there : FileTree} (h : ∀ t ∈ here :: above, WellFormed t)
    (hthere : follow above here pieces = .ok there) : there.WellFormed := by
  induction pieces generalizing above here with
  | nil =>
    rw [follow] at hthere
    exact Except.ok.inj hthere ▸ h here List.mem_cons_self
  | cons piece rest ih =>
    rw [follow_cons] at hthere
    cases hplace : enter above here piece with
    | error fault =>
      rw [hplace] at hthere
      cases hthere
    | ok place =>
      rw [hplace] at hthere
      exact ih (of_enter h hplace) hthere

theorem WellFormed.of_at? {root t : FileTree} (hroot : root.WellFormed) {current path : String}
    (h : root.at? current path = .ok t) : t.WellFormed := by
  rw [at?] at h
  split_ifs at h
  exact of_follow (by simpa using hroot) h

/-! ### Shuffled trees -/

/-- Two attempts fail alike, or succeed with related results. -/
inductive SameEnd {α : Type} (r : α → α → Prop) :
    Except AccessFault α → Except AccessFault α → Prop
  /-- Both succeed. -/
  | ok {a a' : α} (h : r a a') : SameEnd r (.ok a) (.ok a')
  /-- Both fail. -/
  | error (fault : AccessFault) : SameEnd r (.error fault) (.error fault)

theorem SameEnd.bind {α β : Type} {r : α → α → Prop} {q : β → β → Prop}
    {x x' : Except AccessFault α} {f f' : α → Except AccessFault β} (h : SameEnd r x x')
    (hf : ∀ a a', r a a' → SameEnd q (f a) (f' a')) : SameEnd q (x >>= f) (x' >>= f') := by
  cases h with
  | ok h => exact hf _ _ h
  | error fault => exact .error fault

theorem SameEnd.file_iff {x x' : Except AccessFault FileTree} (h : SameEnd Shuffled x x')
    {content : List UInt8} : x = .ok (.file content) ↔ x' = .ok (.file content) := by
  cases h with
  | ok h => cases h <;> simp
  | error fault => simp

theorem Shuffled.enter {above above' : List FileTree} {here here' : FileTree}
    (habove : List.Forall₂ Shuffled above above') (h : here.Shuffled here') (piece : String) :
    SameEnd (fun place place' ↦ List.Forall₂ Shuffled place.1 place'.1 ∧
      place.2.Shuffled place'.2) (enter above here piece) (enter above' here' piece) := by
  cases id h with
  | file content => exact .error _
  | @directory entries entries' names inner =>
    rw [FileTree.enter, FileTree.enter]
    split_ifs with hskip hup
    · exact .ok ⟨habove, h⟩
    · cases habove with
      | nil => exact .ok ⟨.nil, h⟩
      | cons hup hmore => exact .ok ⟨hmore, hup⟩
    · cases hentry : entryOf piece entries with
      | none =>
        have hentry' : entryOf piece entries' = none :=
          entryOf_eq_none_iff.2 fun hmem ↦ entryOf_eq_none_iff.1 hentry (names.mem_iff.2 hmem)
        rw [hentry']
        exact .error _
      | some next =>
        cases hentry' : entryOf piece entries' with
        | none =>
          rw [entryOf_eq_none_iff, ← names.mem_iff, ← entryOf_eq_none_iff, hentry] at hentry'
          cases hentry'
        | some next' =>
          exact .ok ⟨.cons h habove, inner _ _ _ (mem_of_entryOf hentry) (mem_of_entryOf hentry')⟩

/-- **The order of entries does not matter to a path.** -/
theorem Shuffled.follow {above above' : List FileTree} {here here' : FileTree}
    (habove : List.Forall₂ Shuffled above above') (h : here.Shuffled here')
    (pieces : List String) :
    SameEnd Shuffled (follow above here pieces) (follow above' here' pieces) := by
  induction pieces generalizing above above' here here' with
  | nil =>
    rw [FileTree.follow, FileTree.follow]
    exact .ok h
  | cons piece rest ih =>
    rw [follow_cons, follow_cons]
    exact (h.enter habove piece).bind fun _ _ hplace ↦ ih hplace.1 hplace.2

theorem Shuffled.at? {root root' : FileTree} (h : root.Shuffled root') (current path : String) :
    SameEnd Shuffled (root.at? current path) (root'.at? current path) := by
  rw [FileTree.at?, FileTree.at?]
  split
  · exact .error _
  · exact h.follow .nil _

theorem WellFormed.shuffled_self {t : FileTree} (h : t.WellFormed) : t.Shuffled t := by
  induction h with
  | file content => exact .file content
  | directory hnodup _ _ ih =>
    refine .directory (List.Perm.refl _) fun name t t' ht ht' ↦ ?_
    have hsame : some t = some t' :=
      (entryOf_of_mem hnodup ht).symm.trans (entryOf_of_mem hnodup ht')
    exact Option.some.inj hsame ▸ ih _ ht

/-- A directory with its entries in another order is shuffled. -/
theorem WellFormed.shuffled_of_perm {entries entries' : List (String × FileTree)}
    (h : WellFormed (.directory entries)) (hperm : entries.Perm entries') :
    Shuffled (.directory entries) (.directory entries') := by
  cases h.shuffled_self with
  | directory _ inner =>
  exact .directory (hperm.map _) fun name t t' ht ht' ↦ inner name t t' ht (hperm.mem_iff.2 ht')

theorem Shuffled.wellFormed {t t' : FileTree} (h : t.Shuffled t') (ht : t.WellFormed) :
    t'.WellFormed := by
  induction h with
  | file content => exact ht
  | @directory entries entries' names _ ih =>
    cases ht with
    | directory hnodup hisName hinner =>
    have hentry : ∀ e' ∈ entries', ∃ t, (e'.1, t) ∈ entries := by
      intro e' he'
      obtain ⟨⟨_, t⟩, he, rfl⟩ := List.mem_map.1 (names.mem_iff.2 (List.mem_map_of_mem he'))
      exact ⟨t, he⟩
    refine .directory (names.nodup_iff.1 hnodup) (fun e' he' ↦ ?_) fun e' he' ↦ ?_
    · obtain ⟨t, ht⟩ := hentry e' he'
      exact hisName (e'.1, t) ht
    · obtain ⟨t, ht⟩ := hentry e' he'
      exact ih _ _ _ ht he' (hinner (e'.1, t) ht)

end DeprecationLint.FileTree
