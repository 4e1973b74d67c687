import DeprecationLint.Command
import DeprecationLint.FileTree
import DeprecationLint.Log
import DeprecationLint.Readers
import DeprecationLint.Report.Run

/-!
# Sessions

A session does what a command asks for: it reads the settings, finds and loads the platform module,
resolves the target, collects the snapshots of the solution, and runs over them in order.

A session is refused, with a complaint and no banner, if something is wrong before the analysis
starts; it fails if something goes wrong later. Either ends it. What it had written by then stays
written.

Files are reached through a `FileAccess`, so that a session can be run on a `FileTree` as well as
on a disk, and their texts are read by a `Readers`.
-/

namespace DeprecationLint

open Platform Snapshot

/-- How a session reaches files. -/
structure FileAccess (m : Type → Type) where
  /-- Is there a file at a path? -/
  isFile : String → m Bool
  /-- The text of the file at a path. -/
  readText : String → m (Except AccessFault String)
  /-- The snapshot files that a path stands for. -/
  snapshots : String → m (Except AccessFault (List String))
  /-- The directory that the session runs in. -/
  currentDirectory : String
  /-- The directory in which the user keeps data of this program. -/
  dataDirectory : Option String

/-- The data directory below the home directory of a user. -/
def dataDirectoryBelow (home : String) : String :=
  Path.join home ".local/share/deprecheck"

/-- Access to the files of a tree, for a user with a home directory. -/
def FileTree.access (root : FileTree) (current home : String) : FileAccess Id where
  isFile path := root.isFile current path
  readText path := root.readText current path
  snapshots path := root.snapshots current path
  currentDirectory := current
  dataDirectory := some (dataDirectoryBelow home)

/-- What ends a session that had begun its analysis. -/
inductive Failure where
  /-- The analysis cannot go on. -/
  | fault (f : Fault)
  /-- The patterns in the settings cannot be used. -/
  | pattern (wording : String)
  deriving DecidableEq, Repr

/-- The wording of a failure. -/
def Failure.message : Failure → String
  | .fault f => f.message
  | .pattern wording => wording

/-- The wording of a failure followed by its causes, as it is shown at the end of a program. -/
def Failure.fullMessage : Failure → String
  | .fault (.unreadable path reason) =>
    (Fault.unreadable path reason).message ++ ": " ++ reason.message
  | .fault (.unwritable reason) => (Fault.unwritable reason).message ++ ": " ++ reason
  | f => f.message

/-- What a session that came to its end says by its exit code. -/
inductive Verdict where
  /-- There was nothing to report. -/
  | clean
  /-- There were findings. -/
  | found
  /-- The session was refused. -/
  | refused
  deriving DecidableEq, Repr

/-- The exit code of a verdict. -/
def Verdict.code : Verdict → Nat
  | .clean => 0
  | .found => 1
  | .refused => 2

/-- How a session ends before its time. -/
inductive Stop where
  /-- It is refused with a complaint, and perhaps with a hint at the help. -/
  | refused (complaint : String) (hinted : Bool)
  /-- It fails. -/
  | failed (failure : Failure)

/-- What a session writes. -/
structure Channels where
  /-- The standard output. -/
  out : Sink := {}
  /-- The log. -/
  log : List LogEvent := []

/-- A step of a session. -/
abbrev SessionT (m : Type → Type) := ExceptT Stop (StateT Channels m)

/-- How a session went. -/
structure SessionReport where
  /-- What it wrote to the standard output. -/
  stdout : List UInt8
  /-- What it wrote to the standard error. -/
  stderr : String
  /-- Its log. -/
  log : List LogEvent
  /-- How it ended. -/
  outcome : Except Failure Verdict

namespace Session

variable {m : Type → Type} [Monad m]

/-! ### Steps -/

/-- Adds an event to the log. -/
def log (e : LogEvent) : SessionT m Unit :=
  modify fun c ↦ { c with log := c.log ++ [e] }

/-- Writes to the standard output; a fault makes the session fail. -/
def emit {α : Type} (x : Emit α) : SessionT m α := do
  let c ← get
  match x c.out with
  | .ok a out => set { c with out }; return a
  | .error f out => set { c with out }; throw (.failed (.fault f))

/-- Writes a notice. -/
def notice (text : String) : SessionT m Unit :=
  emit (Emit.putLine text)

/-- Refuses the session. -/
def refuse {α : Type} (complaint : String) (hinted : Bool) : SessionT m α :=
  throw (.refused complaint hinted)

/-- Asks for files. -/
def ask {α : Type} (x : m α) : SessionT m α :=
  liftM (n := SessionT m) x

/-! ### Finding files -/

/-- The names of settings files, in the order of preference. -/
def settingsNames : List String :=
  ["deprecheck.yaml", ".deprecheck.yaml"]

/-- The names of platform modules, in the order of preference. -/
def moduleNames : List String :=
  ["platform-metadata.json", "platform-metadata.yaml", "platform-metadata.yml"]

/-- The settings file of a directory. -/
def findSettings (files : FileAccess m) (directory : String) : m (Option String) :=
  (settingsNames.map (Path.join directory)).findM? fun path ↦ files.isFile path

/-- The platform module of a directory, or else of the user. -/
def findModule (files : FileAccess m) (directory : String) : m (Option String) :=
  let directories := directory :: files.dataDirectory.toList
  (directories.flatMap fun d ↦ moduleNames.map (Path.join d)).findM? fun path ↦ files.isFile path

/-! ### Parts of a session -/

variable (readers : Readers) (files : FileAccess m)

/-- The settings at a path. -/
def readSettings (path : String) : SessionT m Settings := do
  let complain := fun (f : SettingsFault) ↦
    refuse (α := Settings) ("invalid settings: " ++ f.message) false
  log (.loadingSettings path)
  match ← ask (files.readText path) with
  | .error reason => complain (.unreadable reason)
  | .ok text =>
    match readers.settings? text with
    | none => complain .malformed
    | some s =>
      match s.blankField? with
      | some field => complain (.blankName field)
      | none => return s

/-- The settings of a session; without a file for them, all have their defaults. -/
def loadSettings (command : Command) : SessionT m Settings := do
  match command.config with
  | some path => readSettings readers files path
  | none =>
    match ← ask (findSettings files files.currentDirectory) with
    | some path => readSettings readers files path
    | none => return {}

/-- The path of the platform module. -/
def chooseModule (command : Command) (settings : Settings) : SessionT m String := do
  match command.reference.or settings.reference with
  | some path => return path
  | none =>
    notice "Option -r not supplied.  Will attempt to auto-locate the platform metadata module"
    match ← ask (findModule files files.currentDirectory) with
    | some path =>
      log (.moduleLocated path)
      return path
    | none =>
      refuse (Fault.moduleNotFound (String.intercalate ", " moduleNames)).message true

/-- The platform module at a path. -/
def loadModule (path : String) : SessionT m Module := do
  let complain := fun (f : Fault) ↦
    refuse (α := Module) ("could not load the metadata module: " ++ f.message) true
  match ← ask (files.readText path) with
  | .error reason => complain (.unreadable path reason)
  | .ok text =>
    match readers.module? (.ofPath path) text with
    | none => complain (.malformed path)
    | some module =>
      log (.moduleLoaded path)
      return module

/-- The target of a session. -/
def resolveTarget (module : Module) (command : Command) (settings : Settings) :
    SessionT m Target := do
  match Target.resolve module settings.names (command.version.or settings.version) with
  | .ok target =>
    log (.targetResolved target.version)
    if target.defaulted then
      notice "Option -v not supplied.  Defaulting to max available SDK version"
    return target
  | .error (.invalidVersion text) => refuse (Fault.invalidVersion text).message true
  | .error f => refuse f.message false

/-- The snapshot files of the solution. -/
def collect (solution : String) : SessionT m (List String) := do
  match ← ask (files.snapshots solution) with
  | .ok paths => return paths
  | .error reason =>
    refuse ("cannot access solution " ++ Text.quotePath solution ++ ": " ++ reason.message) false

/-- The solution at a path. -/
def loadSolution (path : String) : SessionT m Solution := do
  match ← ask (files.readText path) with
  | .error reason => throw (.failed (.fault (.unreadable path reason)))
  | .ok text =>
    match readers.solution? text with
    | none => throw (.failed (.fault (.malformed path)))
    | some solution =>
      log (.solutionLoaded path)
      return solution

/-- The projects of a solution that have source files but no symbols. -/
def bareProjects (solution : Solution) : List Project :=
  solution.projects.filter fun p ↦ p.symbols.isEmpty && !p.trees.isEmpty

/-- Runs over the solution at a path, and adds up what was done. -/
def stepFile (inspection : Inspection) (done : Summary) (path : String) : SessionT m Summary := do
  let solution ← loadSolution readers files path
  (bareProjects solution).forM fun p ↦ log (.symbolsMissing p.name)
  let summary ← emit (inspection.run solution)
  log (.runFinished summary)
  return done.merge summary

/-- What a session has settled before it looks at the solution. -/
structure Preparation where
  /-- The settings. -/
  settings : Settings
  /-- The path of the platform module. -/
  modulePath : String
  /-- The target. -/
  target : Target

/-- What comes before the solution: the path for the report is turned down, the platform module is
loaded, and the target is resolved in it. -/
def prepare (command : Command) (settings : Settings) : SessionT m Preparation := do
  if let some path := command.out then
    log (.outputIgnored path)
    notice "Option -o is not implemented yet.  Warnings are written to standard output"
  let modulePath ← chooseModule files command settings
  let module ← loadModule readers files modulePath
  let target ← resolveTarget module command settings
  return { settings, modulePath, target }

/-- Runs over the solutions at paths, in order; findings make the difference. -/
def inspectFiles (p : Preparation) (paths : List String) : SessionT m Verdict := do
  match p.settings.exclusions readers.patterns with
  | .error wording => throw (.failed (.pattern wording))
  | .ok excluded =>
    let summary ← paths.foldlM (stepFile readers files { target := p.target, excluded }) {}
    return if summary.findings = 0 then .clean else .found

/-- The analysis of the solution at a path. -/
def analyse (p : Preparation) (solutionPath : String) : SessionT m Verdict := do
  let paths ← collect files solutionPath
  emit (Emit.put (banner p.target p.modulePath solutionPath))
  if paths.isEmpty then
    notice "No snapshot files to analyze"
    return .clean
  inspectFiles readers files p paths

/-- What a command asks for, step by step. -/
def steps (command : Command) : SessionT m Verdict := do
  let settings ← loadSettings readers files command
  match command.solution with
  | none => refuse "missing required option -s" true
  | some solutionPath =>
    let preparation ← prepare readers files command settings
    analyse readers files preparation solutionPath

/-- The hint at the help. -/
def hint : String := "Try 'deprecheck --help' for more information.\n"

/-- The report on a session that came to a result. -/
def report (result : Except Stop Verdict) (channels : Channels) : SessionReport :=
  let stdout := channels.out.written
  let log := channels.log
  match result with
  | .ok verdict => { stdout, stderr := "", log, outcome := .ok verdict }
  | .error (.refused complaint hinted) =>
    let stderr := "Error: " ++ complaint ++ "\n" ++ if hinted then hint else ""
    { stdout, stderr, log, outcome := .ok .refused }
  | .error (.failed failure) => { stdout, stderr := "", log, outcome := .error failure }

/-- Runs a session. -/
def run (command : Command) : m SessionReport := do
  let (result, channels) ← (steps readers files command).run.run {}
  return report result channels

end Session

namespace SessionReport

/-- The exit code of a program that runs the session. -/
def exitCode (r : SessionReport) : Nat :=
  match r.outcome with
  | .ok verdict => verdict.code
  | .error _ => 2

/-- What a program that runs the session writes to the standard error, its log apart. -/
def programStderr (r : SessionReport) : String :=
  match r.outcome with
  | .ok _ => r.stderr
  | .error failure => r.stderr ++ "Error: " ++ failure.fullMessage ++ "\n"

end SessionReport

end DeprecationLint
