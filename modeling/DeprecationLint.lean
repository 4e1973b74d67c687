import DeprecationLint.Availability
import DeprecationLint.Command
import DeprecationLint.Fault
import DeprecationLint.FileTree
import DeprecationLint.Finding.Basic
import DeprecationLint.Finding.Candidate
import DeprecationLint.Finding.Survey
import DeprecationLint.Glob.Expr
import DeprecationLint.Glob.Pattern
import DeprecationLint.Glob.Token
import DeprecationLint.Json.Basic
import DeprecationLint.Json.Document
import DeprecationLint.Json.Reader
import DeprecationLint.Log
import DeprecationLint.Main
import DeprecationLint.Path
import DeprecationLint.Platform.Declaration
import DeprecationLint.Platform.Module
import DeprecationLint.Platform.Target
import DeprecationLint.Platform.Versions
import DeprecationLint.Readers
import DeprecationLint.Record
import DeprecationLint.Report.Output
import DeprecationLint.Report.Run
import DeprecationLint.Session
import DeprecationLint.Settings
import DeprecationLint.Snapshot.Solution
import DeprecationLint.Snapshot.Symbol
import DeprecationLint.Snapshot.Tree
import DeprecationLint.Text.Bytes
import DeprecationLint.Text.CharClass
import DeprecationLint.Value
import DeprecationLint.Yaml.Cursor
import DeprecationLint.Yaml.Document
import DeprecationLint.Yaml.Node
import DeprecationLint.Yaml.Plain
import DeprecationLint.Yaml.Scalar
import DeprecationLint.Yaml.Token
import DeprecationLint.Proofs.Availability
import DeprecationLint.Proofs.Scan
import DeprecationLint.Proofs.Uses
import DeprecationLint.Proofs.Target
import DeprecationLint.Proofs.TargetVersion
import DeprecationLint.Proofs.Emission
import DeprecationLint.Proofs.Run
import DeprecationLint.Proofs.RenamedRun
import DeprecationLint.Proofs.Erasure
import DeprecationLint.Proofs.Report
import DeprecationLint.Proofs.Session
import DeprecationLint.Proofs.Composition
import DeprecationLint.Proofs.Exclusion
import DeprecationLint.Proofs.Repetition
import DeprecationLint.Proofs.Reordering
import DeprecationLint.Proofs.SessionContract
import DeprecationLint.Proofs.Walk
import DeprecationLint.Proofs.Nearest
import DeprecationLint.Proofs.Grouping
import DeprecationLint.Proofs.Coverage
import DeprecationLint.Proofs.Pruning
import DeprecationLint.Proofs.LineIndex
import DeprecationLint.Proofs.VersionText
import DeprecationLint.Proofs.TargetChecks
import DeprecationLint.Proofs.Recasing
import DeprecationLint.Proofs.Insertion
import DeprecationLint.Proofs.Warnings
import DeprecationLint.Proofs.Paths
import DeprecationLint.Proofs.SnapshotFiles
import DeprecationLint.Proofs.DeclaredBases
import DeprecationLint.Proofs.Rereading
