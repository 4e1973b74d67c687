import DeprecationLint.Report.Run

/-!
# The log of a session

Beside its report a session keeps a log of what it does, for those who look into its workings. A
filter says which events are shown.
-/

namespace DeprecationLint

/-- How much an event matters, the least first. -/
inductive LogLevel where
  | trace
  | debug
  | info
  | warn
  | error
  deriving DecidableEq, Repr

/-- A number that grows with how much an event matters. -/
def LogLevel.severity : LogLevel → Nat
  | .trace => 0
  | .debug => 1
  | .info => 2
  | .warn => 3
  | .error => 4

/-- The level that a word stands for, whatever its case. -/
def LogLevel.ofName? (name : String) : Option LogLevel :=
  match String.ofList (name.toList.map Char.toLower) with
  | "trace" => some .trace
  | "debug" => some .debug
  | "info" => some .info
  | "warn" => some .warn
  | "error" => some .error
  | _ => none

/-- Something that a session does. -/
inductive LogEvent where
  /-- Settings are read from a path. -/
  | loadingSettings (path : String)
  /-- The path for the report is not heeded. -/
  | outputIgnored (path : String)
  /-- The platform module was found at a path. -/
  | moduleLocated (path : String)
  /-- The platform module was read from a path. -/
  | moduleLoaded (path : String)
  /-- The target was resolved, for a version. -/
  | targetResolved (version : UInt64)
  /-- A solution was read from a path. -/
  | solutionLoaded (path : String)
  /-- A project has source files but no symbols. -/
  | symbolsMissing (project : String)
  /-- A run came to its end. -/
  | runFinished (summary : Summary)
  deriving DecidableEq, Repr

namespace LogEvent

/-- How much an event matters. -/
def level : LogEvent → LogLevel
  | .outputIgnored _ => .warn
  | .symbolsMissing _ => .warn
  | .runFinished _ => .info
  | _ => .debug

/-- The wording of an event. -/
def message : LogEvent → String
  | .loadingSettings path => "loading settings path=" ++ path
  | .outputIgnored path => "--out is not implemented; ignoring path=" ++ path
  | .moduleLocated path => "auto-located metadata module path=" ++ path
  | .moduleLoaded path => "loaded metadata module path=" ++ path
  | .targetResolved version => "resolved target context target_version=" ++ toString version.toNat
  | .solutionLoaded path => "loaded snapshot path=" ++ path
  | .symbolsMissing project => "project carries no symbols project=" ++ project
  | .runFinished s =>
    "analysis complete projects=" ++ toString s.projects ++ " trees=" ++ toString s.treesScanned
      ++ " findings=" ++ toString s.findings

end LogEvent

/-- Which events are shown: those that matter at least this much, or none. -/
structure LogFilter where
  /-- The least level that is shown. -/
  threshold : Option LogLevel
  deriving DecidableEq, Repr

namespace LogFilter

/-- The filter that a text stands for: a level, alone or assigned to this program by its name. Any
other text shows errors only, of which the log has none. -/
def ofText (text : String) : LogFilter :=
  let name := "deprecheck="
  let word := (name.toList.isPrefixOf? text.toList).elim text String.ofList
  if word = "off" then ⟨none⟩ else ⟨some ((LogLevel.ofName? word).getD .error)⟩

/-- The variables of the environment that may hold a filter; the first one that is set counts. -/
def variableNames : List String :=
  ["DEPRECHECK_LOG", "RUST_LOG"]

/-- The filter that an environment gives; without one nothing is shown. -/
def ofEnvironment (setting : String → Option String) : LogFilter :=
  (variableNames.findSome? setting).elim ⟨none⟩ ofText

/-- Is an event shown? -/
def shows (f : LogFilter) (e : LogEvent) : Bool :=
  f.threshold.any fun t ↦ t.severity ≤ e.level.severity

end LogFilter

end DeprecationLint
