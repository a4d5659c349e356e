import DriverClasses.CommandLine.Basic
import Std.Time.Format

/-!
# The program

`main` hands a call of the program to `CommandLine.run`.  Before that it fetches the files that the
call may ask for, and afterwards it writes what the call has added to the log file.
-/

namespace DriverClasses.CommandLine

open DriverClasses.ClassFile DriverClasses.Files DriverClasses.Loading DriverClasses.Location
open DriverClasses.Settings DriverClasses.Text

/-- The variables that mean something. -/
def variableNames : List String :=
  ["DRIVER_LOADER_CONFIG", "DRIVER_LOADER_MAX_CLASS_VERSION", "DRIVER_LOADER_MAX_ENTRY_BYTES",
    "DRIVER_LOADER_REQUIRED_INTERFACE", "DRIVER_LOADER_LOG_LEVEL", "DRIVER_LOADER_LOG_FORMAT",
    "DRIVER_LOADER_LOG_FILE"]

def environmentNow : IO Environment :=
  variableNames.filterMapM fun name => do
    return (← IO.getEnv name).map fun value => (name, utf8 value)

/-- The number by which the operating system says that a path leads to a directory. -/
def directoryCode : UInt32 := 21

/-- What stands at the end of a path now. -/
def itemNow? (path : String) : IO (Option Item) := do
  try
    let bytes ← IO.FS.readBinFile path
    return some (.file bytes.toList)
  catch
    | .inappropriateType _ code _ => return if code = directoryCode then some .directory else none
    | _ => return none

/-- The beginnings of a path that end before a slash, and the path itself. -/
def stations (path : Bytes) : List Bytes :=
  let ends := (List.range path.length).filter fun n => path[n]? = some slash ∧ n ≠ 0
  ends.map path.take ++ [path]

/-- The files with what now stands on the way along a path. -/
def fetch (files : FileTree) (path : Bytes) : IO FileTree :=
  (stations path).foldlM (fun files station => do
    match ofUtf8? station with
    | none => return files
    | some name =>
      match ← itemNow? name with
      | some item => return files.write station item
      | none => return files) files

/-- The paths of the files that a probe of a class may look at. -/
def probePaths (driverPath driverClass : String) : List Bytes :=
  (splitPathList driverPath).flatMap fun raw =>
    match Location.parse raw with
    | .ok location => [location.path, entryPath location.path (entryName driverClass)]
    | .error _ => []

/-- The files that a call may ask for. -/
def fetchFor (arguments : List String) (environment : Environment) (files : FileTree) :
    IO FileTree := do
  let files ← match environment.value? fileVariable with
    | some path => fetch files (utf8 path)
    | none => pure files
  match arguments with
  | "probe" :: driverPath :: driverClass :: _ =>
    let logFile := ((layered files environment).toOption.bind (·.log.file)).map utf8
    (logFile.toList ++ probePaths driverPath driverClass).foldlM fetch files
  | _ => return files

/-- Writes what a call has added to the log file. -/
def keepLog (environment : Environment) (before after : FileTree) : IO Unit := do
  match (layered before environment).toOption.bind (·.log.file) with
  | none => return
  | some path =>
    let old := ((before.read (utf8 path)).toOption.map (·.length)).getD 0
    match after.read (utf8 path) with
    | .error _ => return
    | .ok bytes =>
      let handle ← IO.FS.Handle.mk path .append
      handle.write (ByteArray.mk (bytes.drop old).toArray)

/-- The time of day and the date, without an offset. -/
def timeNow : IO String := do
  let wall := Std.Time.WallTime.ofTimestamp (← Std.Time.Timestamp.now) Std.Time.TimeZone.Offset.zero
  return toString (Std.Time.PlainDateTime.ofWallTime wall) ++ "Z"

/-- Answers a call with these arguments in the present surroundings. -/
def answer (arguments : List String) : IO UInt32 := do
  let environment ← environmentNow
  let here := utf8 (toString (← IO.currentDir))
  let bare : FileTree := ({} : FileTree).write here .directory
  let start := { bare with workingDirectory := bare.placeOf here }
  let files ← fetchFor arguments environment start
  let response := run { arguments, environment, files, time := ← timeNow }
  IO.print response.output
  IO.eprint response.errors
  if arguments.head? = some "probe" then keepLog environment files response.files
  return response.exitCode.toUInt32

end DriverClasses.CommandLine

def main (arguments : List String) : IO UInt32 := DriverClasses.CommandLine.answer arguments
