import DeprecationLint.Fault
import DeprecationLint.Platform.Module
import DeprecationLint.Platform.Versions

/-!
# The target of an analysis

A target fixes everything that the analysis of a program needs to know about the platform: the
root type whose descendants are looked at, the attribute that carries deprecations, the title of
the module, the platform's versions, and the version that the program is meant for.

`Target.resolve` finds all of it in a module. It checks the root, attribute and platform types,
then the title, the member of the attribute type, the enumeration and last the version, and stops
at the first that fails.
-/

namespace DeprecationLint.Platform

/-- The names by which the types that matter are found. -/
structure Names where
  /-- The root of all types that are looked at. -/
  rootType : String := "Foundation.NSObject"
  /-- The attribute that carries the version of a deprecation. -/
  attributeType : String := "ObjCRuntime.AvailabilityAttribute"
  /-- The enumeration of the platform's versions. -/
  platformType : String := "ObjCRuntime.Platform"
  /-- How the name of a version starts. -/
  versionMarker : String := "iOS_"
  deriving DecidableEq, Repr

/-- The entry of an attribute, and member of its type, that holds the version. -/
def deprecatedEntry : String := "Deprecated"

/-- What a program is analysed against. -/
structure Target where
  /-- The platform module. -/
  module : Module
  /-- The simple name of the root type. -/
  rootName : String
  /-- The full name of the root type, as declared. -/
  rootFullName : String
  /-- The full name of the attribute type, as declared. -/
  attributeType : String
  /-- The title of the module, by which symbols refer to it. -/
  identity : String
  /-- The platform's versions. -/
  versions : Versions
  /-- The version that the program is meant for. -/
  version : UInt64
  /-- Was the version chosen for want of a given one? -/
  defaulted : Bool
  deriving Repr

namespace Target

/-- A value that must be there, and the fault if it is not. -/
def orFault {α : Type} (fault : Fault) : Option α → Except Fault α
  | some a => .ok a
  | none => .error fault

/-- The title of a module, unless it is missing or empty. -/
def title? (m : Module) : Option String :=
  m.title.filter (· ≠ "")

/-- The version to analyse for, and whether it is a default: the one that a text names, or the
greatest if no text is given. -/
def chooseVersion (versions : Versions) (platformType : String) (text : Option String) :
    Except Fault (UInt64 × Bool) :=
  match text with
  | some t => do return (← orFault (.invalidVersion t) (versions.parse? t), false)
  | none => do return (← orFault (.noVersions platformType) versions.max?, true)

/-- The target that the names and the version determine in a module. -/
def resolve (module : Module) (names : Names) (version : Option String) : Except Fault Target := do
  let root ← orFault (.missingType names.rootType) (module.typeIgnoringCase? names.rootType)
  let attributeType ←
    orFault (.missingType names.attributeType) (module.typeIgnoringCase? names.attributeType)
  let platform ←
    orFault (.missingType names.platformType) (module.typeIgnoringCase? names.platformType)
  let identity ← orFault .missingTitle (title? module)
  unless attributeType.hasMember deprecatedEntry do
    throw (.missingMember attributeType.fullName)
  let versions : Versions := { marker := names.versionMarker, enumerants := platform.enumerants }
  if versions.isEmpty then
    throw (.noVersions platform.fullName)
  let (version, defaulted) ← chooseVersion versions platform.fullName version
  return {
    module
    rootName := root.simpleName
    rootFullName := root.fullName
    attributeType := attributeType.fullName
    identity
    versions
    version
    defaulted }

/-- The text of the target version. -/
def versionText (t : Target) : String :=
  t.versions.format t.version

/-- Is something deprecated in a version worth a report? Version zero means that it is not
deprecated, and a later version than the target's that it is not deprecated yet. -/
def isReportable (t : Target) (version : UInt64) : Bool :=
  version ≠ 0 && version ≤ t.version

theorem isReportable_iff {t : Target} {version : UInt64} :
    t.isReportable version = true ↔ version ≠ 0 ∧ version ≤ t.version := by
  simp [isReportable]

end Target

end DeprecationLint.Platform
