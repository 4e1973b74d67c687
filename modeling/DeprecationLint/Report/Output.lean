import DeprecationLint.Finding.Basic
import DeprecationLint.Path
import DeprecationLint.Platform.Target

/-!
# What is reported, and where to

A sink holds what has been written to it. It may have room for a fixed number of bytes only: a
text that does not fit is written as far as it fits, and then writing fails. Everything that writes
is an `Emit`, which may also fail for other reasons; what was written before a failure stays
written.

A finding is reported by one line: the name of the file and the line on which the node starts, the
name of the symbol, and the version that deprecated it. Lines are counted from zero. Before anything
is analysed, a banner says what a session will work with.
-/

namespace DeprecationLint

open Platform Snapshot

/-! ### Sinks -/

/-- How much a sink takes, and the reason it gives for taking no more. -/
structure SinkLimit where
  /-- The number of bytes that the sink takes in all. -/
  capacity : Nat
  /-- The reason for taking no more. -/
  reason : String
  deriving DecidableEq, Repr

/-- Where a report is written. -/
structure Sink where
  /-- The bytes written so far. -/
  written : List UInt8 := []
  /-- The limit of the sink, if it has one. -/
  limit : Option SinkLimit := none
  deriving DecidableEq, Repr

/-- Something that writes to a sink and may fail. -/
abbrev Emit := EStateM Fault Sink

namespace Emit

/-- Writes bytes, as far as they fit. -/
def putBytes (bs : List UInt8) : Emit Unit := fun sink ↦
  let all := sink.written ++ bs
  match sink.limit with
  | none => .ok () { sink with written := all }
  | some l =>
    if all.length ≤ l.capacity then .ok () { sink with written := all }
    else .error (.unwritable l.reason) { sink with written := all.take l.capacity }

/-- Writes a text. -/
def put (text : String) : Emit Unit :=
  putBytes (Text.bytes text)

/-- Writes a text and ends the line. -/
def putLine (text : String) : Emit Unit :=
  put (text ++ "\n")

/-- Goes on with a result, or fails with a fault. -/
def ofExcept {α : Type} : Except Fault α → Emit α
  | .ok a => pure a
  | .error f => throw f

@[simp] theorem ofExcept_ok {α : Type} (a : α) : ofExcept (.ok a) = pure a := rfl

@[simp] theorem ofExcept_error {α : Type} (f : Fault) :
    ofExcept (.error f : Except Fault α) = throw f := rfl

end Emit

/-! ### Warnings -/

/-- The name under which a source file is reported: the last part of its path, or the whole path
if that has no name of a file. -/
def Snapshot.Tree.fileName (tree : Tree) : String :=
  (Path.fileName? tree.path).getD tree.path

/-- The line on which the node of a finding starts. -/
def Finding.line (f : Finding) (tree : Tree) : Nat :=
  match tree.node? f.node with
  | some n => tree.lineOf n.start.toNat
  | none => 0

/-- The name of the symbol of a finding. -/
def Finding.symbolName (f : Finding) (table : SymbolTable) : String :=
  match table.get? f.symbol with
  | some s => s.name
  | none => "<unknown>"

/-- The warning about a finding. -/
def Finding.warning (f : Finding) (target : Target) (table : SymbolTable) (tree : Tree) : String :=
  "\x7b" ++ tree.fileName ++ ", " ++ toString (f.line tree) ++ "\x7d WARNING: "
    ++ f.symbolName table ++ " has been deprecated in " ++ target.versions.format f.version

/-- Writes the warnings about findings, one line each. -/
def writeWarnings (target : Target) (table : SymbolTable) (tree : Tree) (fs : Findings) :
    Emit Unit :=
  fs.forM fun f ↦ Emit.putLine (f.warning target table tree)

/-! ### The banner -/

/-- The width of the line below the banner. -/
def bannerWidth : Nat := 90

/-- The banner of a session with a platform module and a solution, given by their paths. -/
def banner (target : Target) (modulePath solutionPath : String) : String :=
  "The following parameters will be used for this session:\n"
    ++ "\tDLL='" ++ modulePath ++ "'\n"
    ++ "\tSLN='" ++ solutionPath ++ "'\n"
    ++ "\tSDK=" ++ target.versionText ++ "\n"
    ++ String.ofList (List.replicate bannerWidth '=') ++ "\n"

end DeprecationLint
