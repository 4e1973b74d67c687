/-!
# Paths

A path is a text whose parts are divided by slashes. Empty parts and parts that are a single dot
say nothing, so they are left out; two dots stand for the directory above. The last part, unless
it is two dots, is the name of the file.
-/

namespace DeprecationLint.Path

/-- The pieces between separators; there is always at least one. -/
def splitAll (separator : Char) : List Char → List (List Char)
  | [] => [[]]
  | c :: rest =>
    if c = separator then [] :: splitAll separator rest
    else
      match splitAll separator rest with
      | [] => [[c]]
      | piece :: pieces => (c :: piece) :: pieces

/-- The pieces of a path between its slashes, whatever they say. -/
def pieces (path : String) : List String :=
  (splitAll '/' path.toList).map String.ofList

/-- The parts of a path. -/
def parts (path : String) : List String :=
  (pieces path).filter fun p ↦ p ≠ "" ∧ p ≠ "."

/-- Does a path start at the root? -/
def isAbsolute (path : String) : Bool :=
  path.toList.head? == some '/'

/-- The name of the file that a path leads to. -/
def fileName? (path : String) : Option String :=
  (parts path).getLast?.filter (· ≠ "..")

/-- The extension of a file name: what follows its last dot, if something stands before that. -/
def extensionOf? (name : String) : Option String :=
  match name.toList.reverse.span (· ≠ '.') with
  | (ending, '.' :: _ :: _) => some (String.ofList ending.reverse)
  | _ => none

/-- The extension of the file that a path leads to. -/
def extension? (path : String) : Option String :=
  (fileName? path).bind extensionOf?

/-- A path below a directory, or the path itself if it starts at the root. -/
def join (directory path : String) : String :=
  if isAbsolute path then path
  else if directory = "" ∨ directory.toList.getLast? = some '/' then directory ++ path
  else directory ++ "/" ++ path

end DeprecationLint.Path
