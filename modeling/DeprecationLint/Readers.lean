import DeprecationLint.Json.Reader
import DeprecationLint.Path
import DeprecationLint.Platform.Module
import DeprecationLint.Settings
import DeprecationLint.Snapshot.Solution

/-!
# Readers of texts

A session takes what it works with from texts: its settings, the platform module, the solutions, and
the patterns of the paths that are left out. How a text is read is a matter of its format, and the
session asks only what the text stands for, or that it stands for nothing. So it is given a
`Readers`, as it is given a `FileAccess` for the files.

The readers of this library are `Readers.standard`. They take YAML for settings, JSON for solutions,
and either for platform modules: a module is written in YAML if the extension of its file says so.
-/

namespace DeprecationLint

open Platform Snapshot

/-- How a platform module is written. -/
inductive Platform.Format where
  | json
  | yaml
  deriving DecidableEq, Repr

/-- The format that a path stands for. -/
def Platform.Format.ofPath (path : String) : Format :=
  match Path.extension? path with
  | some "yaml" => .yaml
  | some "yml" => .yaml
  | _ => .json

/-- The module that a text in a format describes. -/
def Platform.Module.parse? (format : Format) (text : String) : Option Module :=
  match format with
  | .json => (Json.parse? text).bind Module.read?
  | .yaml => (Yaml.Node.parse? text).bind Module.read?

/-- What texts stand for. -/
structure Readers where
  /-- The settings that a text describes. -/
  settings? : String → Option Settings
  /-- The platform module that a text in a format describes. -/
  module? : Format → String → Option Module
  /-- The solution that a text describes. -/
  solution? : String → Option Solution
  /-- The paths that are matched by texts taken as patterns, or the wording of what is wrong with
  the texts. -/
  patterns : List String → Except String (String → Bool)

/-- The readers of this library. -/
def Readers.standard : Readers where
  settings? := Settings.parse?
  module? := Module.parse?
  solution? := Solution.parse?
  patterns := Glob.compile

@[simp] theorem Readers.standard_settings? : standard.settings? = Settings.parse? := rfl

@[simp] theorem Readers.standard_module? : standard.module? = Module.parse? := rfl

@[simp] theorem Readers.standard_solution? : standard.solution? = Solution.parse? := rfl

@[simp] theorem Readers.standard_patterns : standard.patterns = Glob.compile := rfl

end DeprecationLint
