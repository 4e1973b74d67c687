import DeprecationLint.Fault
import DeprecationLint.Path
import DeprecationLint.Text.Bytes

/-!
# File trees

A tree of directories and files, without links. Paths lead through it part by part: every part but
the last has to be a directory, and so has the last if a slash follows it.

Snapshots are collected from a directory and all directories below it, except those whose name
starts with a dot, in the order of their paths part by part.
-/

namespace DeprecationLint

/-- A file, or a directory with named entries. -/
inductive FileTree where
  /-- A file with its content. -/
  | file (content : List UInt8)
  /-- A directory. -/
  | directory (entries : List (String × FileTree))

namespace FileTree

/-- The entry of a name. -/
def entryOf (name : String) (entries : List (String × FileTree)) : Option FileTree :=
  entries.lookup name

/-- Where pieces of a path lead from a place, given the directories above it, the nearest first.
Above the topmost directory is that directory itself. -/
def follow : List FileTree → FileTree → List String → Except AccessFault FileTree
  | _, here, [] => .ok here
  | _, .file _, _ :: _ => .error .notDirectory
  | above, .directory entries, piece :: rest =>
    let here := FileTree.directory entries
    if piece = "" ∨ piece = "." then follow above here rest
    else if piece = ".." then
      match above with
      | [] => follow [] here rest
      | up :: more => follow more up rest
    else
      match entryOf piece entries with
      | some next => follow (here :: above) next rest
      | none => .error .notFound

/-- What is at a path, from a current directory on. -/
def at? (root : FileTree) (current path : String) : Except AccessFault FileTree :=
  if path = "" then .error .notFound
  else follow [] root (Path.pieces (Path.join current path))

/-- Is there a file at a path? -/
def isFile (root : FileTree) (current path : String) : Bool :=
  match root.at? current path with
  | .ok (.file _) => true
  | _ => false

/-- The text of the file at a path. -/
def readText (root : FileTree) (current path : String) : Except AccessFault String :=
  match root.at? current path with
  | .ok (.file content) =>
    match Text.ofBytes? content with
    | some text => .ok text
    | none => .error .notText
  | .ok (.directory _) => .error .isDirectory
  | .error fault => .error fault

/-! ### Snapshots -/

/-- How the name of a snapshot file ends. -/
def snapshotEnding : String := ".snapshot.json"

/-- Is this the name of a snapshot file? -/
def isSnapshotName (name : String) : Bool :=
  snapshotEnding.toList.isSuffixOf name.toList

/-- Is this the name of a hidden directory? -/
def isHidden (name : String) : Bool :=
  name.toList.head? == some '.'

mutual

/-- The snapshot files below an entry of a name, each by the parts of its path. -/
def snapshotsAt (name : String) : FileTree → List (List String)
  | .file _ => if isSnapshotName name then [[name]] else []
  | .directory entries =>
    if isHidden name then [] else (snapshotsAmong entries).map (name :: ·)

/-- The snapshot files below the entries of a directory. -/
def snapshotsAmong : List (String × FileTree) → List (List String)
  | [] => []
  | (name, t) :: rest => snapshotsAt name t ++ snapshotsAmong rest

end

/-- Paths in order, part by part, each part by its bytes. -/
def partsLe (a b : List String) : Bool :=
  decide (a.map Text.bytes ≤ b.map Text.bytes)

theorem partsLe_total (a b : List String) : (partsLe a b || partsLe b a) = true := by
  simp only [partsLe, Bool.or_eq_true, decide_eq_true_eq]
  exact List.le_total _ _

theorem partsLe_trans {a b c : List String} (hab : partsLe a b = true) (hbc : partsLe b c = true) :
    partsLe a c = true := by
  simp only [partsLe, decide_eq_true_eq] at *
  exact List.le_trans hab hbc

/-- The paths of the snapshot files below the entries of a directory, in order. -/
def snapshotsBelow (path : String) (entries : List (String × FileTree)) : List String :=
  ((snapshotsAmong entries).mergeSort partsLe).map (·.foldl Path.join path)

/-- The snapshot files that a path stands for: those below it, or the path itself if it is no
directory. -/
def snapshots (root : FileTree) (current path : String) : Except AccessFault (List String) :=
  match root.at? current path with
  | .ok (.directory entries) => .ok (snapshotsBelow path entries)
  | .ok (.file _) => .ok [path]
  | .error fault => .error fault

/-! ### Building trees -/

/-- Puts a tree at the end of a path, with directories on the way. A directory that is already
there stays. -/
def insert (t : FileTree) : List String → FileTree → FileTree
  | [], old =>
    match t, old with
    | .directory [], .directory entries => .directory entries
    | t, _ => t
  | part :: rest, old =>
    let entries :=
      match old with
      | .directory entries => entries
      | .file _ => []
    let inner := t.insert rest ((entryOf part entries).getD (.directory []))
    .directory ((part, inner) :: entries.filter (·.1 != part))

end FileTree

end DeprecationLint
