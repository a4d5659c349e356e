import DriverClasses.Loading.Load
import DriverClasses.Location.PathList
import DriverClasses.Logging.Logger
import DriverClasses.Settings.Environment
import DriverClasses.Text.Encoding

/-!
# The command line

`run` answers a call of the program: it shows settings, or loads a driver class the way a host would
and describes it.  What a call needs of its surroundings comes with the `Invocation`, and what it
writes is in the `Response`.

What is described is a `Report`, a JSON object over several lines, indented by two spaces.  Its
members are texts, numbers and lists of texts.
-/

namespace DriverClasses.CommandLine

open DriverClasses.ClassFile DriverClasses.Files DriverClasses.Loading DriverClasses.Location
open DriverClasses.Logging DriverClasses.Settings DriverClasses.Text

inductive Shown where
  | nothing
  | number (n : Nat)
  | text (s : String)
  | texts (ss : List String)
  deriving DecidableEq, Repr

def Shown.ofText? : Option String → Shown
  | none => .nothing
  | some s => .text s

/-- Lines in brackets, or the brackets alone if there are none. -/
def Shown.list (lines : List String) : String :=
  if lines.isEmpty then "[]"
  else "[\n" ++ ",\n".intercalate (lines.map ("    " ++ ·)) ++ "\n  ]"

def Shown.written : Shown → String
  | nothing => "null"
  | number n => toString n
  | text s => jsonString s
  | texts ss => Shown.list (ss.map jsonString)

abbrev Report := List (String × Shown)

def Report.written (r : Report) : String :=
  let members := r.map fun (key, item) => "  " ++ jsonString key ++ ": " ++ item.written
  "\x7b\n" ++ ",\n".intercalate members ++ "\n\x7d"

structure Invocation where
  /-- The arguments behind the name of the program. -/
  arguments : List String
  environment : Environment
  files : FileTree
  /-- The time that log records carry. -/
  time : String

structure Response where
  exitCode : Nat
  /-- What is written to the output stream. -/
  output : String := ""
  /-- What is written to the error stream. -/
  errors : String := ""
  /-- The files afterwards. -/
  files : FileTree

def version : String := "driver-loader 0.3.0"

/-- The target of the program's own records. -/
def logTarget : String := "driver_loader"

def usage : String := version ++ "

USAGE:
    driver-loader <COMMAND>

COMMANDS:
    probe <driver_path> <driver_class>   Load a driver class and print its metadata
    config show                          Show effective configuration
    config defaults                      Show built-in defaults
    version                              Print version
    help                                 Print this message

ENVIRONMENT:
    DRIVER_LOADER_CONFIG                 TOML config file
    DRIVER_LOADER_MAX_CLASS_VERSION      Highest accepted class-file major version
    DRIVER_LOADER_REQUIRED_INTERFACE     Interface driver classes must declare
    DRIVER_LOADER_LOG_LEVEL              Log filter (default: info)
    DRIVER_LOADER_LOG_FORMAT             json or pretty
"

def probeUsage : String := "Usage: driver-loader probe <driver_path> <driver_class>"

namespace Response

def success (files : FileTree) (output : String) : Response :=
  { exitCode := 0, output, files }

/-- A call that fails with a message. -/
def failure (files : FileTree) (message : String) (logged : String := "") : Response :=
  { exitCode := 1, errors := logged ++ "Error: " ++ message ++ "\n", files }

/-- A call that is not understood, with the usage of the program. -/
def misuse (files : FileTree) (message : String) : Response :=
  { exitCode := 1, output := usage, errors := message ++ "\n", files }

/-- A call that came to no regular end. -/
def crash (files : FileTree) (reason : String) : Response :=
  { exitCode := 101, errors := reason ++ "\n", files }

end Response

/-! ## Settings -/

def settingsReport (s : Settings) : Report :=
  [("max_class_version", .number s.link.newestMajor),
    ("max_entry_bytes", .number s.link.maxEntryBytes),
    ("required_interface", .ofText? s.link.requiredInterface),
    ("log_level", .text s.log.level),
    ("log_format", .text s.log.format.text),
    ("log_file", .ofText? s.log.file)]

def showSettings (call : Invocation) : Response :=
  match layered call.files call.environment with
  | .error error => .failure call.files error.message
  | .ok settings => .success call.files ((settingsReport settings).written ++ "\n")

def showDefaults (call : Invocation) : Response :=
  .success call.files ((settingsReport {}).written ++ "\n")

/-! ## Probing -/

/-- What a probe finds: the class, and the locations that were searched. -/
structure Finding where
  loadedClass : LoadedClass
  locations : List String
  deriving DecidableEq, Repr

/-- How a probe ends. -/
inductive ProbeResult where
  | found (finding : Finding)
  /-- One of the locations is refused. -/
  | misplaced (error : LoadError)
  | failed (error : LoadError)
  | crashed (reason : String)
  deriving DecidableEq, Repr

/-- Loads a class from the locations of a path list in a context of its own. -/
def probe (files : FileTree) (policy : LinkPolicy) (driverPath driverClass : String) :
    ProbeResult :=
  match ({} : Forest).create none policy (splitPathList driverPath) with
  | .error error => .misplaced error
  | .ok (id, forest) =>
    let (result, forest) := forest.load files id driverClass
    match result with
    | .loaded handle =>
      let locations := ((forest.context? id).map (·.locations)).getD []
      .found { loadedClass := handle, locations }
    | .failed error => .failed error
    | .crashed reason => .crashed reason

def Finding.report (f : Finding) : Report :=
  let header := f.loadedClass.header
  [("class", .text header.name),
    ("super_class", .ofText? header.superName),
    ("interfaces", .texts header.interfaces),
    ("class_version", .text s!"{header.major}.{header.minor}"),
    ("origin", .text f.loadedClass.origin),
    ("sha256", .text f.loadedClass.digest),
    ("context_id", .number f.loadedClass.contextId),
    ("locations", .texts f.locations)]

/-- The record of a probe that failed. -/
def probeFailed (driverPath driverClass : String) (error : LoadError) : Record :=
  { level := .warn, message := "probe failed",
    fields := [("class", .text driverClass), ("paths", .text driverPath),
      ("error", .text error.message)] }

/-- A failure with its record, which goes to the log file if there is one. -/
def reportFailure (call : Invocation) (logger : Logger) (files : FileTree) (record : Record)
    (message : String) : Response :=
  let line := logger.text call.time logTarget record
  match logger.file with
  | none => .failure files message line
  | some path =>
    match files.append (utf8 path) (utf8 line) with
    | .ok files => .failure files message
    | .error _ => .failure files message

def probeWith (call : Invocation) (settings : Settings) (driverPath driverClass : String) :
    Response :=
  match Logger.start call.files settings.log.level settings.log.format settings.log.file with
  | .error error =>
    if error.breaksOff then .crash call.files error.message
    else .failure call.files error.message
  | .ok (logger, files) =>
    match probe files settings.link driverPath driverClass with
    | .found finding => .success files (finding.report.written ++ "\n")
    | .misplaced error => .failure files error.message
    | .failed error =>
      let record := probeFailed driverPath driverClass error
      reportFailure call logger files record error.message
    | .crashed reason => .crash files reason

def runProbe (call : Invocation) : List String → Response
  | driverPath :: driverClass :: _ =>
    match layered call.files call.environment with
    | .error error => .failure call.files error.message
    | .ok settings => probeWith call settings driverPath driverClass
  | _ => { exitCode := 1, errors := probeUsage ++ "\n", files := call.files }

/-! ## Commands -/

def runConfig (call : Invocation) : List String → Response
  | [] => showSettings call
  | "show" :: _ => showSettings call
  | "defaults" :: _ => showDefaults call
  | other :: _ => .misuse call.files ("Unknown config subcommand: " ++ other)

def run (call : Invocation) : Response :=
  match call.arguments with
  | [] => .success call.files usage
  | "probe" :: rest => runProbe call rest
  | "config" :: rest => runConfig call rest
  | "help" :: _ | "--help" :: _ | "-h" :: _ => .success call.files usage
  | "version" :: _ | "--version" :: _ | "-V" :: _ => .success call.files (version ++ "\n")
  | other :: _ => .misuse call.files ("Unknown command: " ++ other)

end DriverClasses.CommandLine
