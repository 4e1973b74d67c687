import DeprecationLint.Fault
import DeprecationLint.Glob.Pattern
import DeprecationLint.Platform.Target
import DeprecationLint.Text.CharClass
import DeprecationLint.Yaml.Document

/-!
# Settings

A YAML file may say where the platform module is, which version a program is meant for, by which
names the platform's types are found, and which source files are left out. All of it has defaults,
but a name that is given may not be blank.
-/

namespace DeprecationLint

open Document Platform

/-- The settings of a session. -/
structure Settings where
  /-- The path of the platform module. -/
  reference : Option String := none
  /-- The version that the program is meant for. -/
  version : Option String := none
  /-- The names by which the platform's types are found. -/
  names : Names := {}
  /-- The patterns of paths that are left out. -/
  excludedPaths : List String := []
  deriving DecidableEq, Repr

/-- Why settings cannot be used. -/
inductive SettingsFault where
  /-- The file cannot be read. -/
  | unreadable (reason : AccessFault)
  /-- The file is not a document of settings. -/
  | malformed
  /-- A name is blank. -/
  | blankName (field : String)
  deriving DecidableEq, Repr

/-- The wording of a fault in settings. -/
def SettingsFault.message : SettingsFault → String
  | .unreadable reason => reason.message
  | .malformed => "not a document of the expected form"
  | .blankName field => "metadata." ++ field ++ " must not be empty"

/-- The names in a document; each of them may be missing. -/
def Platform.Names.read? {σ : Type} [Document σ] (s : σ) : Option Names := do
  let fields ← fields? ["root_type", "attribute_type", "platform_type", "platform_prefix"] s
  let d : Names := {}
  return {
    rootType := ← fields.defaulted? "root_type" d.rootType text?
    attributeType := ← fields.defaulted? "attribute_type" d.attributeType text?
    platformType := ← fields.defaulted? "platform_type" d.platformType text?
    versionMarker := ← fields.defaulted? "platform_prefix" d.versionMarker text? }

namespace Settings

/-- The settings in a document; each of them may be missing. -/
def read? {σ : Type} [Document σ] (s : σ) : Option Settings := do
  let fields ← fields? ["reference", "version", "metadata", "excluded_paths"] s
  return {
    reference := ← fields.optional? "reference" text?
    version := ← fields.optional? "version" text?
    names := ← fields.defaulted? "metadata" {} Names.read?
    excludedPaths := ← fields.defaulted? "excluded_paths" [] (listOf? text?) }

/-- The settings that a YAML text describes. -/
def parse? (text : String) : Option Settings :=
  (Yaml.Node.parse? text).bind Settings.read?

/-- The names that settings give, each with the field that gives it, in the order in which they
are checked. -/
def namedFields (s : Settings) : List (String × String) :=
  [("root_type", s.names.rootType), ("attribute_type", s.names.attributeType),
    ("platform_type", s.names.platformType), ("platform_prefix", s.names.versionMarker)]

/-- The first field that gives a blank name. -/
def blankField? (s : Settings) : Option String :=
  (s.namedFields.find? fun f ↦ Text.isBlank f.2).map (·.1)

/-- The paths that are left out, given what texts match that are taken as patterns. Without such
texts nothing is left out. -/
def exclusions (s : Settings) (patterns : List String → Except String (String → Bool)) :
    Except String (String → Bool) :=
  if s.excludedPaths.isEmpty then .ok fun _ ↦ false else patterns s.excludedPaths

end Settings

end DeprecationLint
