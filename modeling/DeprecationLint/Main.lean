import DeprecationLint.Session

/-!
# The program

Runs a session on the files of the disk: reads the arguments and the environment, writes what the
session wrote, and exits with its code.
-/

namespace DeprecationLint.Program

/-- Why the disk could not give what was asked for. -/
def accessFault : IO.Error → AccessFault
  | .noFileOrDirectory .. => .notFound
  | .inappropriateType _ code _ => if code = 21 then .isDirectory else .notDirectory
  | _ => .notFound

/-- The bytes of the file at a path. -/
def readBytes (path : String) : IO (Except AccessFault ByteArray) := do
  try
    return .ok (← IO.FS.readBinFile path)
  catch e => return .error (accessFault e)

/-- The names below a directory of the disk, files without their content. -/
partial def namesBelow (path : String) : IO FileTree := do
  try
    let entries ← ((← IO.currentDir) / path).readDir
    let inner ← entries.toList.mapM fun e ↦ do
      return (e.fileName, ← namesBelow (Path.join path e.fileName))
    return .directory inner
  catch _ => return .file []

/-- Access to the files of the disk. -/
def disk (currentDirectory : String) (dataDirectory : Option String) : FileAccess IO where
  isFile path := return (← readBytes path).isOk
  readText path := do
    match ← readBytes path with
    | .error fault => return .error fault
    | .ok bytes => return (Text.ofBytes? bytes.data.toList).elim (.error .notText) .ok
  snapshots path := do
    match ← namesBelow path, ← readBytes path with
    | .directory entries, _ => return .ok (FileTree.snapshotsBelow path entries)
    | .file _, .ok _ => return .ok [path]
    | .file _, .error fault => return .error fault
  currentDirectory := currentDirectory
  dataDirectory := dataDirectory

/-- The data directory that the environment gives. -/
def dataDirectory? : IO (Option String) := do
  match ← IO.getEnv "XDG_DATA_HOME" with
  | some d => if Path.isAbsolute d then return some (Path.join d "deprecheck")
  | none => pure ()
  return (← IO.getEnv "HOME").map dataDirectoryBelow

/-- The filter of the log that the environment gives. -/
def logFilter : IO LogFilter := do
  let values ← LogFilter.variableNames.mapM fun name ↦ return (name, ← IO.getEnv name)
  return .ofEnvironment fun name ↦ (values.lookup name).join

/-- Runs a session and writes what it wrote. -/
def runSession (command : Command) : IO UInt32 := do
  let files := disk (← IO.currentDir).toString (← dataDirectory?)
  let report ← Session.run .standard files command
  let filter ← logFilter
  let stderr ← IO.getStderr
  for event in report.log do
    if filter.shows event then
      stderr.putStrLn event.message
  let stdout ← IO.getStdout
  stdout.write ⟨report.stdout.toArray⟩
  stdout.flush
  stderr.putStr report.programStderr
  return report.exitCode.toUInt32

end DeprecationLint.Program

open DeprecationLint in
/-- Does what the arguments ask for. -/
def main (args : List String) : IO UInt32 := do
  match Command.parse args with
  | .ok command => Program.runSession command
  | .error .helpWanted =>
    IO.print Command.usage
    return 0
  | .error fault =>
    IO.eprintln ("error: " ++ fault.message)
    IO.eprint Session.hint
    return 2
