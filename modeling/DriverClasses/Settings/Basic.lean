import DriverClasses.ClassFile.Link
import DriverClasses.Files.Tree
import DriverClasses.Logging.Format

/-!
# Settings

Settings have defaults, and layers that override them one by one.  The layers are read from a
document and from the environment.
-/

namespace DriverClasses

namespace Settings

open DriverClasses.Logging

structure LogSettings where
  format : LogFormat := .json
  /-- What is logged, as a list of directives. -/
  level : String := "info"
  /-- The path of the log file, or none for the error stream. -/
  file : Option String := none
  deriving DecidableEq, Repr

end Settings

structure Settings where
  link : ClassFile.LinkPolicy := {}
  log : Settings.LogSettings := {}
  deriving DecidableEq, Repr

namespace Settings

open DriverClasses.Logging DriverClasses.Files

/-- The settings that one source has something to say about. -/
structure Layer where
  newestMajor : Option Nat := none
  maxEntryBytes : Option Nat := none
  requiredInterface : Option String := none
  logLevel : Option String := none
  logFormat : Option LogFormat := none
  logFile : Option String := none
  deriving DecidableEq, Repr

/-- The settings with those of a layer in the stead of their own. -/
def overlay (s : Settings) (layer : Layer) : Settings :=
  { link :=
      { newestMajor := layer.newestMajor.getD s.link.newestMajor
        maxEntryBytes := layer.maxEntryBytes.getD s.link.maxEntryBytes
        requiredInterface := layer.requiredInterface.or s.link.requiredInterface }
    log :=
      { level := layer.logLevel.getD s.log.level
        format := layer.logFormat.getD s.log.format
        file := layer.logFile.or s.log.file } }

/-- No class file has an older version. -/
def leastMajor : Nat := ClassFile.oldestMajor

/-- The limit on entries is never smaller. -/
def leastEntryBytes : Nat := 1024

end Settings

inductive SettingsError where
  | unreadable (path : String) (error : Files.FileError)
  /-- The file is no text. -/
  | notText (path : String)
  /-- The text is no settings document, or it has other entries than settings. -/
  | malformed
  | invalidValue (key value : String)
  deriving DecidableEq, Repr

def SettingsError.message : SettingsError → String
  | unreadable path error => s!"Failed to read config file {path}: " ++ error.message
  | notText path => s!"Failed to read config file {path}: stream did not contain valid UTF-8"
  | malformed => "Invalid config file: not a settings document"
  | invalidValue key value => s!"Invalid value for {key}: {value}"

end DriverClasses
