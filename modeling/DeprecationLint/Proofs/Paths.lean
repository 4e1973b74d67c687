import DeprecationLint.FileTree
import Mathlib.Data.List.Basic

/-!
# Paths below a place

A path to something below a place is made from the path of the place by joining names, one after
the other. Two things have to be known about it.

* Its parts are the parts of the place and then the names (`Path.parts_foldl_join`).
* It leads where the names lead **from the place** (`FileTree.at?_foldl_join`), whatever the path of
  the place is: relative or not, through parents, or with a slash at its end.

Both need that what is joined is a name, not a piece that a path reads in its own way; that is
`Path.IsName`.
-/

namespace DeprecationLint

namespace Path

/-- A text that an entry of a directory can have as its name. -/
structure IsName (name : String) : Prop where
  /-- It is not empty. -/
  ne_empty : name ≠ ""
  /-- It does not stand for the directory itself. -/
  ne_dot : name ≠ "."
  /-- It does not stand for the directory above. -/
  ne_dots : name ≠ ".."
  /-- It is one piece of a path. -/
  slash : '/' ∉ name.toList

instance (name : String) : Decidable (IsName name) :=
  decidable_of_iff (name ≠ "" ∧ name ≠ "." ∧ name ≠ ".." ∧ '/' ∉ name.toList)
    ⟨fun h ↦ ⟨h.1, h.2.1, h.2.2.1, h.2.2.2⟩, fun h ↦ ⟨h.ne_empty, h.ne_dot, h.ne_dots, h.slash⟩⟩

theorem IsName.isAbsolute_eq_false {name : String} (h : IsName name) : isAbsolute name = false := by
  rw [isAbsolute, beq_eq_false_iff_ne]
  exact fun hhead ↦ h.slash (List.mem_of_mem_head? hhead)

theorem dots_notMem_of_isName {names : List String} (h : ∀ name ∈ names, IsName name) :
    ".." ∉ names :=
  fun hup ↦ (h _ hup).ne_dots rfl

/-! ### Joining -/

/-- What stands between a path and what is joined to it. -/
def divider (path : String) : String :=
  if path = "" ∨ path.toList.getLast? = some '/' then "" else "/"

theorem join_of_relative {path : String} (h : isAbsolute path = false) (directory : String) :
    join directory path = directory ++ divider directory ++ path := by
  rw [join, h, if_neg Bool.false_ne_true, divider]
  split
  · rw [String.append_empty]
  · rfl

theorem join_of_absolute {path : String} (h : isAbsolute path = true) (directory : String) :
    join directory path = path := by
  rw [join, if_pos h]

theorem divider_append (directory : String) {path : String} (h : path ≠ "") :
    divider (directory ++ path) = divider path := by
  have hlist : path.toList ≠ [] := by simpa using h
  rw [divider, divider, String.toList_append, List.getLast?_append_of_ne_nil _ hlist]
  simp [h]

theorem isAbsolute_append {path : String} (h : path ≠ "") (rest : String) :
    isAbsolute (path ++ rest) = isAbsolute path := by
  have hlist : path.toList ≠ [] := by simpa using h
  rw [isAbsolute, isAbsolute, String.toList_append, List.head?_append_of_ne_nil _ hlist]

theorem join_ne_empty (directory : String) {path : String} (h : path ≠ "") :
    join directory path ≠ "" := by
  rw [join]
  split
  · exact h
  · split <;> simp [h]

/-- A name can be joined to a path before or after the path is joined to a directory. -/
theorem join_join {path name : String} (hpath : path ≠ "") (hname : IsName name)
    (directory : String) :
    join directory (join path name) = join (join directory path) name := by
  have hrelative := hname.isAbsolute_eq_false
  have hhead : isAbsolute (path ++ divider path ++ name) = isAbsolute path := by
    rw [String.append_assoc, isAbsolute_append hpath]
  rw [join_of_relative hrelative, join_of_relative hrelative]
  cases habsolute : isAbsolute path with
  | true => rw [join_of_absolute (hhead.trans habsolute), join_of_absolute habsolute]
  | false =>
    rw [join_of_relative (hhead.trans habsolute), join_of_relative habsolute,
      divider_append _ hpath]
    simp only [String.append_assoc]

/-! ### Pieces -/

theorem splitAll_of_notMem {separator : Char} {l : List Char} (h : separator ∉ l) :
    splitAll separator l = [l] := by
  induction l with
  | nil => rfl
  | cons c l ih =>
    rw [List.mem_cons, not_or] at h
    rw [splitAll, if_neg (Ne.symm h.1), ih h.2]

theorem splitAll_ne_nil (separator : Char) (l : List Char) : splitAll separator l ≠ [] := by
  cases l with
  | nil => exact List.cons_ne_nil _ _
  | cons c l =>
    rw [splitAll]
    split
    · exact List.cons_ne_nil _ _
    · split <;> exact List.cons_ne_nil _ _

theorem splitAll_append_cons (separator : Char) (l l' : List Char) :
    splitAll separator (l ++ separator :: l') =
      splitAll separator l ++ splitAll separator l' := by
  induction l with
  | nil => simp [splitAll]
  | cons c l ih =>
    rw [List.cons_append, splitAll, splitAll, ih]
    split
    · rfl
    · obtain ⟨piece, rest, hl⟩ := List.exists_cons_of_ne_nil (splitAll_ne_nil separator l)
      rw [hl, List.cons_append, List.cons_append]

/-- **A name that is joined becomes the last piece.** A slash at the end of the path before it
leaves an empty piece there, and the name takes its place. -/
theorem exists_pieces_join (path : String) {name : String} (hname : IsName name) :
    ∃ base, (pieces path = base ∨ pieces path = base ++ [""]) ∧
      pieces (join path name) = base ++ [name] := by
  have hlast : (splitAll '/' name.toList).map String.ofList = [name] := by
    rw [splitAll_of_notMem hname.slash, List.map_singleton, String.ofList_toList]
  rw [join, hname.isAbsolute_eq_false, if_neg Bool.false_ne_true]
  split
  case isTrue hend =>
    rcases hend with rfl | hslash
    · exact ⟨[], Or.inr rfl, by simp [pieces, hlast]⟩
    · obtain ⟨before, hbefore⟩ := List.getLast?_eq_some_iff.1 hslash
      refine ⟨(splitAll '/' before).map String.ofList, Or.inr ?_, ?_⟩
      · rw [pieces, hbefore, splitAll_append_cons, List.map_append]
        rfl
      · rw [pieces, String.toList_append, hbefore, List.append_assoc, List.singleton_append,
          splitAll_append_cons, List.map_append, hlast]
  case isFalse =>
    refine ⟨pieces path, Or.inl rfl, ?_⟩
    have htext : (path ++ "/" ++ name).toList = path.toList ++ '/' :: name.toList := by
      simp
    rw [pieces, htext, splitAll_append_cons, List.map_append, hlast, pieces]

/-! ### Parts -/

theorem parts_join (path : String) {name : String} (hname : IsName name) :
    parts (join path name) = parts path ++ [name] := by
  obtain ⟨base, hbase, hjoin⟩ := exists_pieces_join path hname
  have hkept : [name].filter (fun p ↦ decide (p ≠ "" ∧ p ≠ ".")) = [name] := by
    simp [hname.ne_empty, hname.ne_dot]
  rw [parts, parts, hjoin, List.filter_append, hkept]
  rcases hbase with hbase | hbase
  · rw [hbase]
  · rw [hbase, List.filter_append]
    simp

/-- **Below a place, the parts of a path are those of the place and then the names.** -/
theorem parts_foldl_join {names : List String} (hnames : ∀ name ∈ names, IsName name)
    (path : String) : parts (names.foldl join path) = parts path ++ names := by
  induction names generalizing path with
  | nil => simp
  | cons name names ih =>
    rw [List.forall_mem_cons] at hnames
    rw [List.foldl_cons, ih hnames.2, parts_join path hnames.1, List.append_assoc,
      List.singleton_append]

end Path

namespace FileTree

/-! ### Where paths lead -/

/-- One piece of a path, from the directories above a place and the place on. -/
def enter (above : List FileTree) (here : FileTree) (piece : String) :
    Except AccessFault (List FileTree × FileTree) :=
  match here with
  | .file _ => .error .notDirectory
  | .directory entries =>
    if piece = "" ∨ piece = "." then .ok (above, here)
    else if piece = ".." then .ok (above.tail, above.headD here)
    else
      match entryOf piece entries with
      | some next => .ok (here :: above, next)
      | none => .error .notFound

theorem follow_cons (above : List FileTree) (here : FileTree) (piece : String)
    (rest : List String) :
    follow above here (piece :: rest) =
      enter above here piece >>= fun place ↦ follow place.1 place.2 rest := by
  cases here with
  | file content => rfl
  | directory entries =>
    cases above <;> rw [follow, enter] <;> split_ifs
    all_goals first | rfl | cases entryOf piece entries <;> rfl

/-- What is above a place does not matter to a piece that does not lead there. -/
theorem enter_eq_map {piece : String} (h : piece ≠ "..") (above : List FileTree)
    (here : FileTree) :
    enter above here piece =
      (enter [] here piece).map fun place ↦ (place.1 ++ above, place.2) := by
  cases here with
  | file content => rfl
  | directory entries =>
    simp only [enter, if_neg h]
    split
    · rfl
    · cases entryOf piece entries <;> rfl

theorem follow_congr_above {pieces : List String} (h : ".." ∉ pieces)
    (above above' : List FileTree) (here : FileTree) :
    follow above here pieces = follow above' here pieces := by
  induction pieces generalizing above above' here with
  | nil => cases here <;> rfl
  | cons piece rest ih =>
    rw [List.mem_cons, not_or] at h
    rw [follow_cons, follow_cons, enter_eq_map (Ne.symm h.1) above,
      enter_eq_map (Ne.symm h.1) above']
    cases enter [] here piece with
    | error fault => rfl
    | ok place => exact ih h.2 _ _ _

/-- **Pieces lead from where the pieces before them led.** -/
theorem follow_append {more : List String} (hmore : ".." ∉ more) (above : List FileTree)
    (here : FileTree) (pieces : List String) :
    follow above here (pieces ++ more) = follow above here pieces >>= (follow [] · more) := by
  induction pieces generalizing above here with
  | nil => exact follow_congr_above hmore above [] here
  | cons piece rest ih =>
    rw [List.cons_append, follow_cons, follow_cons, bind_assoc]
    exact congrArg _ (funext fun place ↦ ih place.1 place.2)

theorem follow_name {name : String} (hname : Path.IsName name) (above : List FileTree)
    (entries : List (String × FileTree)) (rest : List String) :
    follow above (.directory entries) (name :: rest) =
      match entryOf name entries with
      | some next => follow (.directory entries :: above) next rest
      | none => .error .notFound := by
  have hskip : ¬(name = "" ∨ name = ".") := not_or.2 ⟨hname.ne_empty, hname.ne_dot⟩
  rw [follow_cons, enter, if_neg hskip, if_neg hname.ne_dots]
  cases entryOf name entries <;> rfl

theorem at?_join {path name : String} (hpath : path ≠ "") (hname : Path.IsName name)
    (root : FileTree) (current : String) :
    root.at? current (Path.join path name) = root.at? current path >>= (follow [] · [name]) := by
  have hup : ".." ∉ [name] := by simpa using Ne.symm hname.ne_dots
  obtain ⟨base, hbase, hjoin⟩ := Path.exists_pieces_join (Path.join current path) hname
  rw [at?, at?, if_neg (Path.join_ne_empty path hname.ne_empty), if_neg hpath,
    Path.join_join hpath hname, hjoin, follow_append hup]
  rcases hbase with hbase | hbase
  · rw [hbase]
  · -- a slash at the end only asks for a directory, and so does the name
    rw [hbase, follow_append (by decide), bind_assoc]
    refine congrArg _ (funext fun here ↦ ?_)
    cases here with
    | file content => rfl
    | directory entries => rfl

/-- **Below a place, a path leads where its names lead from the place.** -/
theorem at?_foldl_join {names : List String} (hnames : ∀ name ∈ names, Path.IsName name)
    {path : String} (hpath : path ≠ "") (root : FileTree) (current : String) :
    root.at? current (names.foldl Path.join path) =
      root.at? current path >>= (follow [] · names) := by
  induction names generalizing path with
  | nil => exact (bind_pure _).symm
  | cons name names ih =>
    rw [List.forall_mem_cons] at hnames
    have hup : ".." ∉ names := Path.dots_notMem_of_isName hnames.2
    rw [List.foldl_cons, ih hnames.2 (Path.join_ne_empty path hnames.1.ne_empty),
      at?_join hpath hnames.1, bind_assoc]
    exact congrArg _ (funext fun here ↦ (follow_append hup [] here [name]).symm)

end FileTree

end DeprecationLint
