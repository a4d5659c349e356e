import DriverClasses.Settings.Basic
import DriverClasses.Settings.Document.Basic

/-!
# Settings from a document

A document has the tables `loader` and `log` at most, and these have the entries named here at most.
An array with all of a table's entries in order may stand for the table.  Every entry has to have
its type; only then are the values looked at.
-/

namespace DriverClasses.Settings

open DriverClasses.ClassFile DriverClasses.Logging DriverClasses.Text DriverClasses.Files

/-- The values of a table's entries, in the order of their names. -/
def section? (names : List String) : Option Document.Value → Option (List (Option Document.Value))
  | none => some (names.map fun _ => none)
  | some (.table _ entries) =>
    if entries.all fun entry => names.contains entry.1 then
      some (names.map fun name => entries.lookup name)
    else none
  | some (.array items) =>
    if names.length ≤ items.length then some ((items.take names.length).map some) else none
  | some _ => none

/-- An integer from zero to a limit, if there is a value at all. -/
def natural? (limit : Nat) : Option Document.Value → Option (Option Nat)
  | none => some none
  | some (.integer n) => if 0 ≤ n ∧ n ≤ limit then some (some n.toNat) else none
  | some _ => none

def text? : Option Document.Value → Option (Option String)
  | none => some none
  | some (.text s) => some (some s)
  | some _ => none

/-- What a document says, each value with its type and not otherwise checked. -/
structure DocumentSettings where
  newestMajor : Option Nat
  maxEntryBytes : Option Nat
  requiredInterface : Option String
  logLevel : Option String
  logFormat : Option String
  logFile : Option String
  deriving DecidableEq, Repr

def loaderNames : List String := ["max_class_version", "max_entry_bytes", "required_interface"]

def logNames : List String := ["level", "format", "file"]

def documentSettings? (entries : Document.Entries) : Option DocumentSettings := do
  if entries.all fun entry => ["loader", "log"].contains entry.1 then
    match ← section? loaderNames (entries.lookup "loader"),
        ← section? logNames (entries.lookup "log") with
    | [major, bytes, interface], [level, format, file] =>
      return {
        newestMajor := ← natural? (UInt16.size - 1) major
        maxEntryBytes := ← natural? (UInt64.size - 1) bytes
        requiredInterface := ← text? interface
        logLevel := ← text? level
        logFormat := ← text? format
        logFile := ← text? file }
    | _, _ => none
  else none

def checkMajor (major : Option Nat) : Except SettingsError Unit :=
  match major with
  | some n =>
    if n < leastMajor then .error (.invalidValue "loader.max_class_version" (toString n))
    else .ok ()
  | none => .ok ()

def checkFormat (format : Option String) : Except SettingsError (Option LogFormat) :=
  match format with
  | none => .ok none
  | some name =>
    match LogFormat.ofText? name with
    | some f => .ok (some f)
    | none => .error (.invalidValue "log.format" name)

/-- The layer of a document.  A blank interface is none, and the limit on entries has a floor. -/
def DocumentSettings.layer (d : DocumentSettings) : Except SettingsError Layer := do
  checkMajor d.newestMajor
  let logFormat ← checkFormat d.logFormat
  return {
    newestMajor := d.newestMajor
    maxEntryBytes := d.maxEntryBytes.map (max leastEntryBytes)
    requiredInterface := d.requiredInterface.filter fun s => (nonBlank? s).isSome
    logLevel := d.logLevel
    logFormat
    logFile := d.logFile }

/-- The settings of a document over the defaults. -/
def ofDocument (text : String) : Except SettingsError Settings :=
  match (Document.parse text).bind documentSettings? with
  | none => .error .malformed
  | some d => d.layer.map ({} : Settings).overlay

/-- The settings of a file over the defaults. -/
def ofFile (files : FileTree) (path : String) : Except SettingsError Settings :=
  match files.read (utf8 path) with
  | .error error => .error (.unreadable path error)
  | .ok bytes =>
    match ofUtf8? bytes with
    | none => .error (.notText path)
    | some text => ofDocument text

end DriverClasses.Settings
