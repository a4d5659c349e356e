import DriverClasses.Files.Tree
import DriverClasses.Logging.Filter
import DriverClasses.Logging.Format
import DriverClasses.Text.Encoding

/-!
# Writing logs

A logger writes the records that its filter lets through, in its format, to the end of a file or to
the error stream.  A log file is made when the logger is opened.
-/

namespace DriverClasses.Logging

open DriverClasses.Text DriverClasses.Files

inductive LogError where
  | invalidFilter (fault : FilterFault)
  | unopened (path : String) (error : FileError)
  deriving DecidableEq, Repr

def LogError.message : LogError → String
  | invalidFilter fault => "Invalid log filter: " ++ fault.message
  | unopened path error => s!"Failed to open log file: {path}: " ++ error.message

/-- Whether the program breaks off instead of reporting the error. -/
def LogError.breaksOff : LogError → Bool
  | invalidFilter .tornCharacter => true
  | _ => false

structure Logger where
  filter : Filter
  format : LogFormat
  /-- The path of the log file, or none for the error stream. -/
  file : Option String
  deriving DecidableEq, Repr

def FieldValue.json : FieldValue → String
  | text s => jsonString s
  | number n => toString n

def FieldValue.plain : FieldValue → String
  | text s => s
  | number n => toString n

/-- An object in braces, from its members as they are written. -/
def jsonObject (members : List (String × String)) : String :=
  let shown := members.map fun (key, value) => jsonString key ++ ":" ++ value
  "\x7b" ++ ",".intercalate shown ++ "\x7d"

namespace Record

/-- A record as a JSON object on one line, its fields in the order of their names. -/
def json (r : Record) (time target : String) : String :=
  let fields := (("message", FieldValue.text r.message) :: r.fields).mergeSort
    fun a b => a.1 ≤ b.1
  jsonObject [("timestamp", jsonString time), ("level", jsonString r.level.text),
    ("fields", jsonObject (fields.map fun (name, value) => (name, value.json))),
    ("target", jsonString target)]

/-- A record as text for people to read. -/
def pretty (r : Record) (time target : String) : String :=
  let fields := r.fields.map fun (name, value) => s!", {name}: " ++ value.plain
  s!"  {time} {r.level.text} {target}: {r.message}" ++ String.join fields

/-- A record in a format, with the end of its line. -/
def written (r : Record) (format : LogFormat) (time target : String) : String :=
  match format with
  | .json => r.json time target ++ "\n"
  | .pretty => r.pretty time target ++ "\n"

end Record

namespace Logger

/-- A logger for these settings, and the files with its log file. -/
def start (files : FileTree) (level : String) (format : LogFormat) (file : Option String) :
    Except LogError (Logger × FileTree) :=
  match Filter.parse level with
  | .error fault => .error (.invalidFilter fault)
  | .ok filter =>
    match file with
    | none => .ok ({ filter, format, file }, files)
    | some path =>
      match files.append (utf8 path) [] with
      | .ok files => .ok ({ filter, format, file }, files)
      | .error error => .error (.unopened path error)

/-- What is written of a record, which is nothing if the filter holds it back. -/
def text (l : Logger) (time target : String) (r : Record) : String :=
  if l.filter.allows target r.level then r.written l.format time target else ""

end Logger

end DriverClasses.Logging
