import DeprecationLint.Text.CharClass

/-!
# Faults

Why an analysis cannot go on. A fault holds its cause; its wording is given once, by
`Fault.message`. Names inside a message are quoted, paths are not.
-/

namespace DeprecationLint

/-- Why the content of a path cannot be had as text. -/
inductive AccessFault where
  /-- Nothing is there. -/
  | notFound
  /-- The path is a directory. -/
  | isDirectory
  /-- Something on the way to the path is a file. -/
  | notDirectory
  /-- The content is not UTF-8. -/
  | notText
  deriving DecidableEq, Repr

/-- The wording of an access fault. -/
def AccessFault.message : AccessFault → String
  | .notFound => "No such file or directory (os error 2)"
  | .isDirectory => "Is a directory (os error 21)"
  | .notDirectory => "Not a directory (os error 20)"
  | .notText => "stream did not contain valid UTF-8"

/-- Why an analysis cannot go on. -/
inductive Fault where
  /-- A file cannot be read. -/
  | unreadable (path : String) (reason : AccessFault)
  /-- A file was read but is not a document of the expected records. -/
  | malformed (path : String)
  /-- There is no platform module in any of the usual places. -/
  | moduleNotFound (names : String)
  /-- A configured type is not declared. -/
  | missingType (name : String)
  /-- The platform module has no title, or an empty one. -/
  | missingTitle
  /-- The attribute type does not declare the member that holds the version. -/
  | missingMember (typeName : String)
  /-- An attribute carries no unsigned version. -/
  | missingVersion (typeName : String)
  /-- A text names none of the platform's versions. -/
  | invalidVersion (text : String)
  /-- The platform type enumerates no versions. -/
  | noVersions (typeName : String)
  /-- The report could not be written. -/
  | unwritable (reason : String)
  deriving DecidableEq, Repr

/-- The wording of a fault. -/
def Fault.message : Fault → String
  | .unreadable path reason => "cannot read " ++ path ++ ": " ++ reason.message
  | .malformed path => "cannot parse " ++ path ++ ": not a document of the expected form"
  | .moduleNotFound names => "metadata module not found (looked for " ++ names ++ ")"
  | .missingType name =>
    "unable to load expected type " ++ Text.quote name ++ " from the metadata module"
  | .missingTitle => "metadata module carries no title; its identity cannot be determined"
  | .missingMember typeName =>
    "attribute type " ++ Text.quote typeName ++ " does not declare a Deprecated member"
  | .missingVersion typeName =>
    "attribute " ++ Text.quote typeName ++ " has no unsigned Deprecated value"
  | .invalidVersion text => "invalid SDK version value " ++ Text.quote text
  | .noVersions typeName => "platform type " ++ Text.quote typeName ++ " enumerates no versions"
  | .unwritable reason => "write failed: " ++ reason

end DeprecationLint
