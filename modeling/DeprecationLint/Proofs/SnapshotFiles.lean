import DeprecationLint.Proofs.FileTree

/-!
# The snapshot files below a directory

Snapshots are collected by going down a tree of directories and sorting what was met. The result,
`snapshots_exactly_visible`, is stated without the way down: a path is listed **exactly if a file
that shows is at that path**, and paths are listed in the order of their parts. Two listings in
order with the same elements are equal, so it does not matter in which order a directory hands out
its entries.

`FileTree.mem_snapshotsAmong_iff` compares the way down with following a path, by induction along
the names of the path; `FileTree.pairwise_precedes_snapshotsBelow` is the order.
-/

namespace DeprecationLint

theorem Text.bytes_injective : Function.Injective Text.bytes := by
  intro s t h
  have hsome : some s = some t := by rw [← Text.ofBytes?_bytes, h, Text.ofBytes?_bytes]
  exact Option.some.inj hsome

/-- Paths in strict order, part by part, each part by its bytes. -/
def Path.Precedes (p q : String) : Prop :=
  (Path.parts p).map Text.bytes < (Path.parts q).map Text.bytes

namespace FileTree

/-- Names on the way down to a snapshot file that shows: the last one has the ending, and none
before it starts with a dot. -/
def Shows (names : List String) : Prop :=
  ∃ directories stem, names = directories ++ [stem ++ ".snapshot.json"] ∧
    ∀ d ∈ directories, ∀ rest, d ≠ "." ++ rest

/-! ### The way down -/

theorem snapshotsAmong_eq_flatMap (entries : List (String × FileTree)) :
    snapshotsAmong entries = entries.flatMap fun e ↦ snapshotsAt e.1 e.2 := by
  induction entries with
  | nil => rw [snapshotsAmong, List.flatMap_nil]
  | cons e entries ih => rw [snapshotsAmong, List.flatMap_cons, ih]

theorem mem_snapshotsAt_iff {name : String} {t : FileTree} {names : List String} :
    names ∈ snapshotsAt name t ↔
      (∃ content, t = .file content ∧ isSnapshotName name = true ∧ names = [name]) ∨
      ∃ entries rest, t = .directory entries ∧ isHidden name = false ∧
        rest ∈ snapshotsAmong entries ∧ names = name :: rest := by
  cases t with
  | file content => cases hending : isSnapshotName name <;> simp [snapshotsAt, hending]
  | directory entries =>
    cases hhidden : isHidden name <;> simp [snapshotsAt, hhidden, @eq_comm _ names]

theorem head?_of_mem_snapshotsAt {name : String} {t : FileTree} {names : List String}
    (h : names ∈ snapshotsAt name t) : names.head? = some name := by
  obtain ⟨_, -, -, rfl⟩ | ⟨_, _, -, -, -, rfl⟩ := mem_snapshotsAt_iff.1 h <;> rfl

theorem mem_snapshotsAmong_cons_iff {name : String} {rest : List String}
    {entries : List (String × FileTree)} :
    name :: rest ∈ snapshotsAmong entries ↔
      ∃ t, (name, t) ∈ entries ∧
        ((∃ content, t = .file content ∧ isSnapshotName name = true ∧ rest = []) ∨
        ∃ inner, t = .directory inner ∧ isHidden name = false ∧ rest ∈ snapshotsAmong inner) := by
  rw [snapshotsAmong_eq_flatMap, List.mem_flatMap]
  simp only [mem_snapshotsAt_iff, List.cons.injEq]
  constructor
  · rintro ⟨⟨_, t⟩, hmem, ⟨content, ht, hending, rfl, hrest⟩ |
      ⟨inner, _, ht, hhidden, hrest, rfl, rfl⟩⟩
    · exact ⟨t, hmem, .inl ⟨content, ht, hending, hrest⟩⟩
    · exact ⟨t, hmem, .inr ⟨inner, ht, hhidden, hrest⟩⟩
  · rintro ⟨t, hmem, ⟨content, ht, hending, hrest⟩ | ⟨inner, ht, hhidden, hrest⟩⟩
    · exact ⟨(name, t), hmem, .inl ⟨content, ht, hending, rfl, hrest⟩⟩
    · exact ⟨(name, t), hmem, .inr ⟨inner, rest, ht, hhidden, hrest, rfl, rfl⟩⟩

theorem isSnapshotName_iff {name : String} :
    isSnapshotName name = true ↔ ∃ stem, name = stem ++ ".snapshot.json" := by
  rw [isSnapshotName, List.isSuffixOf_iff_suffix]
  constructor
  · rintro ⟨stem, hstem⟩
    exact ⟨String.ofList stem, String.toList_injective (by simp [← hstem, snapshotEnding])⟩
  · rintro ⟨stem, rfl⟩
    exact ⟨stem.toList, by simp [snapshotEnding]⟩

theorem isHidden_eq_false_iff {name : String} :
    isHidden name = false ↔ ∀ rest, name ≠ "." ++ rest := by
  rw [isHidden, beq_eq_false_iff_ne]
  constructor
  · rintro h rest rfl
    exact h (by simp)
  · intro h hhead
    obtain ⟨rest, hrest⟩ := List.head?_eq_some_iff.1 hhead
    exact h (String.ofList rest) (String.toList_injective (by simp [hrest]))

theorem not_shows_nil : ¬Shows [] := by
  rintro ⟨directories, stem, h, -⟩
  simp at h

theorem shows_cons_iff {name : String} {rest : List String} :
    Shows (name :: rest) ↔
      isSnapshotName name = true ∧ rest = [] ∨ isHidden name = false ∧ Shows rest := by
  rw [isSnapshotName_iff, isHidden_eq_false_iff]
  constructor
  · rintro ⟨directories, stem, h, hvisible⟩
    cases directories with
    | nil =>
      obtain ⟨rfl, rfl⟩ := List.cons.inj h
      exact .inl ⟨⟨stem, rfl⟩, rfl⟩
    | cons d directories =>
      obtain ⟨rfl, rfl⟩ := List.cons.inj h
      rw [List.forall_mem_cons] at hvisible
      exact .inr ⟨hvisible.1, directories, stem, rfl, hvisible.2⟩
  · rintro (⟨⟨stem, rfl⟩, rfl⟩ | ⟨hname, directories, stem, rfl, hvisible⟩)
    · exact ⟨[], stem, rfl, by simp⟩
    · exact ⟨name :: directories, stem, rfl, List.forall_mem_cons.2 ⟨hname, hvisible⟩⟩

/-- **The way down meets exactly the files that show**, each by the names that lead to it. -/
theorem mem_snapshotsAmong_iff {entries : List (String × FileTree)}
    (h : WellFormed (.directory entries)) {names : List String} :
    names ∈ snapshotsAmong entries ↔
      (∀ name ∈ names, Path.IsName name) ∧ Shows names ∧
        ∃ content, follow [] (.directory entries) names = .ok (.file content) := by
  induction names generalizing entries with
  | nil =>
    have hnil : [] ∉ snapshotsAmong entries := by
      rw [snapshotsAmong_eq_flatMap, List.mem_flatMap]
      rintro ⟨e, -, he⟩
      exact absurd (head?_of_mem_snapshotsAt he) (by simp)
    exact iff_of_false hnil fun h ↦ not_shows_nil h.2.1
  | cons name rest ih =>
    cases h with
    | directory hnodup hisName hinner =>
    rw [mem_snapshotsAmong_cons_iff, shows_cons_iff, List.forall_mem_cons]
    constructor
    · rintro ⟨t, hmem, ⟨content, rfl, hending, rfl⟩ | ⟨inner, rfl, hhidden, hrest⟩⟩
      · have hname : Path.IsName name := hisName _ hmem
        refine ⟨⟨hname, by simp⟩, .inl ⟨hending, rfl⟩, content, ?_⟩
        exact (follow_name_eq_ok_iff hnodup hname (by simp)).2 ⟨_, hmem, rfl⟩
      · have hname : Path.IsName name := hisName _ hmem
        obtain ⟨hnames, hshows, content, hfollow⟩ := (ih (hinner _ hmem)).1 hrest
        refine ⟨⟨hname, hnames⟩, .inr ⟨hhidden, hshows⟩, content, ?_⟩
        exact (follow_name_eq_ok_iff hnodup hname hnames).2 ⟨_, hmem, hfollow⟩
    · rintro ⟨⟨hname, hnames⟩, hshows, content, hfollow⟩
      obtain ⟨t, hmem, hfollow⟩ := (follow_name_eq_ok_iff hnodup hname hnames).1 hfollow
      refine ⟨t, hmem, ?_⟩
      rcases hshows with ⟨hending, rfl⟩ | ⟨hhidden, hshows⟩
      · cases t <;> cases hfollow
        exact .inl ⟨content, rfl, hending, rfl⟩
      · cases t with
        | directory inner =>
          exact .inr ⟨inner, rfl, hhidden, (ih (hinner _ hmem)).2 ⟨hnames, hshows, _, hfollow⟩⟩
        | file =>
          -- no name leads on from a file, and some name has to follow
          cases rest with
          | nil => exact absurd hshows not_shows_nil
          | cons => cases hfollow

/-- The way down meets no file twice. -/
theorem WellFormed.nodup_snapshotsAt {t : FileTree} (h : t.WellFormed) (name : String) :
    (snapshotsAt name t).Nodup := by
  induction h generalizing name with
  | file content =>
    rw [snapshotsAt]
    split <;> simp
  | @directory entries hnodup _ _ ih =>
    rw [snapshotsAt]
    split
    · exact List.nodup_nil
    · refine List.Nodup.map List.cons_injective ?_
      rw [snapshotsAmong_eq_flatMap, List.nodup_flatMap]
      refine ⟨fun e he ↦ ih e he e.1, (List.pairwise_map.1 hnodup).imp ?_⟩
      -- entries of different names have paths that start differently
      intro e e' hne names hnames hnames'
      have hhead := (head?_of_mem_snapshotsAt hnames).symm.trans (head?_of_mem_snapshotsAt hnames')
      exact hne (Option.some.inj hhead)

theorem WellFormed.nodup_snapshotsAmong {entries : List (String × FileTree)}
    (h : WellFormed (.directory entries)) : (snapshotsAmong entries).Nodup := by
  have hnodup := h.nodup_snapshotsAt ""
  rw [snapshotsAt, if_neg (by decide)] at hnodup
  exact hnodup.of_map _

/-! ### The order -/

theorem partsLe_antisymm {a b : List String} (hab : partsLe a b = true)
    (hba : partsLe b a = true) : a = b :=
  Text.bytes_injective.list_map
    (List.le_antisymm (of_decide_eq_true hab) (of_decide_eq_true hba))

theorem pairwise_partsLe_mergeSort (l : List (List String)) :
    (l.mergeSort partsLe).Pairwise fun a b ↦ partsLe a b = true := by
  have htrans : ∀ a b c, partsLe a b = true → partsLe b c = true → partsLe a c = true :=
    fun _ _ _ ↦ partsLe_trans
  exact List.pairwise_mergeSort htrans partsLe_total l

/-- **Sorted paths without repetitions are in strict order.** -/
theorem pairwise_mergeSort_partsLe {l : List (List String)} (hl : l.Nodup) :
    (l.mergeSort partsLe).Pairwise fun a b ↦ a.map Text.bytes < b.map Text.bytes := by
  have hle := pairwise_partsLe_mergeSort l
  have hne : (l.mergeSort partsLe).Nodup := (List.mergeSort_perm l partsLe).nodup_iff.2 hl
  refine (hle.and hne).imp ?_
  rintro a b ⟨hab, hne⟩
  by_contra hlt
  exact hne (partsLe_antisymm hab (decide_eq_true (List.not_lt.1 hlt)))

/-- Sorting does not see the order it started from. -/
theorem mergeSort_partsLe_of_perm {l l' : List (List String)} (h : l.Perm l') :
    l.mergeSort partsLe = l'.mergeSort partsLe := by
  refine List.Perm.eq_of_pairwise (fun _ _ _ _ ↦ partsLe_antisymm)
    (pairwise_partsLe_mergeSort l) (pairwise_partsLe_mergeSort l') ?_
  exact (List.mergeSort_perm l _).trans (h.trans (List.mergeSort_perm l' _).symm)

/-- What is collected below a directory is in strict order. -/
theorem pairwise_precedes_snapshotsBelow {entries : List (String × FileTree)}
    (h : WellFormed (.directory entries)) (path : String) :
    (snapshotsBelow path entries).Pairwise Path.Precedes := by
  have hnames : ∀ names ∈ (snapshotsAmong entries).mergeSort partsLe,
      ∀ name ∈ names, Path.IsName name := fun names hmem ↦
    ((mem_snapshotsAmong_iff h).1 (List.mem_mergeSort.1 hmem)).1
  rw [snapshotsBelow, List.pairwise_map]
  refine (pairwise_mergeSort_partsLe h.nodup_snapshotsAmong).imp_of_mem ?_
  intro a b ha hb hab
  -- the parts of the directory stand before those of both
  rw [Path.Precedes, Path.parts_foldl_join (hnames a ha), Path.parts_foldl_join (hnames b hb),
    List.map_append, List.map_append]
  exact List.append_left_lt hab

/-- **The order of entries does not matter to the way down**, once what it met is sorted. -/
theorem Shuffled.snapshotsBelow_eq {entries entries' : List (String × FileTree)}
    (h : Shuffled (.directory entries) (.directory entries'))
    (hentries : WellFormed (.directory entries)) (path : String) :
    snapshotsBelow path entries' = snapshotsBelow path entries := by
  have hentries' := h.wellFormed hentries
  have hsame : ∀ names, names ∈ snapshotsAmong entries' ↔ names ∈ snapshotsAmong entries := by
    intro names
    rw [mem_snapshotsAmong_iff hentries, mem_snapshotsAmong_iff hentries']
    refine and_congr_right fun _ ↦ and_congr_right fun _ ↦ exists_congr fun content ↦ ?_
    exact (h.follow .nil names).file_iff.symm
  have hperm : (snapshotsAmong entries').Perm (snapshotsAmong entries) :=
    (List.perm_ext_iff_of_nodup hentries'.nodup_snapshotsAmong
      hentries.nodup_snapshotsAmong).2 hsame
  rw [snapshotsBelow, snapshotsBelow, mergeSort_partsLe_of_perm hperm]

theorem Shuffled.snapshots_eq {root root' : FileTree} (h : root.Shuffled root')
    (hroot : root.WellFormed) (current path : String) :
    root'.snapshots current path = root.snapshots current path := by
  have hend := h.at? current path
  have hformed : ∀ t, root.at? current path = .ok t → t.WellFormed := fun _ ↦ hroot.of_at?
  rw [snapshots, snapshots]
  generalize root.at? current path = x, root'.at? current path = x' at hend hformed
  cases hend with
  | error fault => rfl
  | ok ht =>
    cases id ht with
    | file content => rfl
    | directory => exact congrArg _ (ht.snapshotsBelow_eq (hformed _ rfl) path)

end FileTree

/-- **The snapshots of a directory are exactly the snapshot files that show, in order.** If a path
leads to a directory, the paths that are collected are in strict order, part by part. A path is one
of them exactly if it leads from the directory by names, the last with the ending of snapshots and
none before it starting with a dot, and there is a file at it. The order in which directories have
their entries does not matter. If a path leads to a file, it is itself collected, whatever its name;
and if it leads nowhere, collecting fails for that reason. -/
theorem snapshots_exactly_visible {root : FileTree} (hroot : root.WellFormed)
    (current path : String) :
    (∀ entries, root.at? current path = .ok (.directory entries) →
      ∃ paths, root.snapshots current path = .ok paths ∧ paths.Pairwise Path.Precedes ∧
        ∀ p, p ∈ paths ↔ ∃ names : List String, p = names.foldl Path.join path ∧
          (∀ name ∈ names, Path.IsName name) ∧ FileTree.Shows names ∧
          ∃ content, root.at? current p = .ok (.file content)) ∧
    (∀ root', root.Shuffled root' →
      root'.snapshots current path = root.snapshots current path) ∧
    (∀ content, root.at? current path = .ok (.file content) →
      root.snapshots current path = .ok [path]) ∧
    ∀ fault, root.at? current path = .error fault →
      root.snapshots current path = .error fault := by
  refine ⟨fun entries hat ↦ ?_, fun root' hshuffled ↦ ?_, fun content hat ↦ ?_,
    fun fault hat ↦ ?_⟩
  · have hentries := hroot.of_at? hat
    have hpath : path ≠ "" := by
      rintro rfl
      cases hat
    refine ⟨FileTree.snapshotsBelow path entries, by rw [FileTree.snapshots, hat], ?_, fun p ↦ ?_⟩
    · exact FileTree.pairwise_precedes_snapshotsBelow hentries path
    · rw [FileTree.snapshotsBelow, List.mem_map]
      simp only [List.mem_mergeSort, FileTree.mem_snapshotsAmong_iff hentries]
      constructor
      · rintro ⟨names, ⟨hnames, hshows, content, hfollow⟩, rfl⟩
        refine ⟨names, rfl, hnames, hshows, content, ?_⟩
        rw [FileTree.at?_foldl_join hnames hpath, hat]
        exact hfollow
      · rintro ⟨names, rfl, hnames, hshows, content, hfile⟩
        rw [FileTree.at?_foldl_join hnames hpath, hat] at hfile
        exact ⟨names, ⟨hnames, hshows, content, hfile⟩, rfl⟩
  · exact hshuffled.snapshots_eq hroot current path
  · rw [FileTree.snapshots, hat]
  · rw [FileTree.snapshots, hat]

/-- A directory with snapshots in it and below it, one of them in a hidden directory. -/
def partsEntries : List (String × FileTree) :=
  [("b", .directory [("app.snapshot.json", .file [])]),
    (".cache", .directory [("old.snapshot.json", .file [])]),
    ("notes.json", .file []),
    ("a.snapshot.json", .file []),
    (".snapshot.json", .file []),
    ("a", .directory [("x.snapshot.json", .file [])])]

/-- The paths of the snapshots that show there. -/
def partsPaths : List String :=
  ["./.snapshot.json", "./a/x.snapshot.json", "./a.snapshot.json", "./b/app.snapshot.json"]

theorem wellFormed_partsEntries : FileTree.WellFormed (.directory partsEntries) := by
  have hfile : ∀ name, Path.IsName name → FileTree.WellFormed (.directory [(name, .file [])]) :=
    fun name hname ↦ .directory (List.nodup_singleton _)
      (by simpa using hname) (by simpa using FileTree.WellFormed.file [])
  refine .directory (by decide) (by decide) ?_
  simp only [partsEntries, List.forall_mem_cons]
  exact ⟨hfile _ (by decide), hfile _ (by decide), .file _, .file _, .file _,
    hfile _ (by decide), by simp⟩

theorem snapshotsBelow_partsEntries :
    FileTree.snapshotsBelow "." partsEntries = partsPaths := by
  have hmet : FileTree.snapshotsAmong partsEntries =
      [["b", "app.snapshot.json"], ["a.snapshot.json"], [".snapshot.json"],
        ["a", "x.snapshot.json"]] := by decide +kernel
  have hperm : (FileTree.snapshotsAmong partsEntries).Perm
      [[".snapshot.json"], ["a", "x.snapshot.json"], ["a.snapshot.json"],
        ["b", "app.snapshot.json"]] := by
    rw [hmet]
    decide
  rw [FileTree.snapshotsBelow, FileTree.mergeSort_partsLe_of_perm hperm,
    List.mergeSort_of_pairwise (by decide +kernel)]
  decide +kernel

/-- What is below `a` comes before `a.snapshot.json`, what is in `.cache` does not show, and the
file `.snapshot.json` does. -/
theorem snapshots_exactly_visible_parts :
    (FileTree.directory partsEntries).snapshots "/" "." = .ok partsPaths ∧
    partsPaths.Pairwise Path.Precedes ∧
    (FileTree.directory partsEntries.reverse).snapshots "/" "." = .ok partsPaths ∧
    (FileTree.directory partsEntries).snapshots "/" "notes.json" = .ok ["notes.json"] ∧
    (FileTree.directory partsEntries).snapshots "/" "lids" = .error .notFound := by
  have hroot := wellFormed_partsEntries
  have hat : (FileTree.directory partsEntries).at? "/" "." = .ok (.directory partsEntries) := rfl
  have hlist : (FileTree.directory partsEntries).snapshots "/" "." = .ok partsPaths := by
    rw [FileTree.snapshots, hat, ← snapshotsBelow_partsEntries]
  have hreverse := hroot.shuffled_of_perm partsEntries.reverse_perm.symm
  obtain ⟨paths, hpaths, hordered, -⟩ := (snapshots_exactly_visible hroot "/" ".").1 _ hat
  cases hlist.symm.trans hpaths
  exact ⟨hlist, hordered, ((snapshots_exactly_visible hroot "/" ".").2.1 _ hreverse).trans hlist,
    (snapshots_exactly_visible hroot "/" "notes.json").2.2.1 [] rfl,
    (snapshots_exactly_visible hroot "/" "lids").2.2.2 .notFound rfl⟩

end DeprecationLint
