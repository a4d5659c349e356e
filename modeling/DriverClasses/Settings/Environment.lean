import DriverClasses.Settings.File
import DriverClasses.Text.Digit

/-!
# Settings from the environment

A variable counts if it is a text and not blank, and its padding does not.  A value that cannot be
understood is passed over, and a number that is too small is raised to the least one.  `layered`
puts the environment over the file that it names, and `ofEnvironment` over the defaults.
-/

namespace DriverClasses.Settings

open DriverClasses.ClassFile DriverClasses.Logging DriverClasses.Text DriverClasses.Files

/-- The variables and their bytes. -/
abbrev Environment := List (String × Bytes)

/-- What a variable says. -/
def Environment.value? (env : Environment) (name : String) : Option String := do
  nonBlank? (← ofUtf8? (← env.lookup name))

/-- The decimal number that a text is, up to a limit. -/
def number? (limit : Nat) (s : String) : Option Nat := (decimal? s).filter (· ≤ limit)

/-- The variable that names the settings file. -/
def fileVariable : String := "DRIVER_LOADER_CONFIG"

def environmentLayer (env : Environment) : Layer :=
  { newestMajor := do
      let n ← number? (UInt16.size - 1) (← env.value? "DRIVER_LOADER_MAX_CLASS_VERSION")
      return max leastMajor n
    maxEntryBytes := do
      let n ← number? (UInt64.size - 1) (← env.value? "DRIVER_LOADER_MAX_ENTRY_BYTES")
      return max leastEntryBytes n
    requiredInterface := env.value? "DRIVER_LOADER_REQUIRED_INTERFACE"
    logLevel := env.value? "DRIVER_LOADER_LOG_LEVEL"
    logFormat := do LogFormat.ofText? (← env.value? "DRIVER_LOADER_LOG_FORMAT")
    logFile := env.value? "DRIVER_LOADER_LOG_FILE" }

/-- The settings of the environment over the defaults. -/
def ofEnvironment (env : Environment) : Settings := ({} : Settings).overlay (environmentLayer env)

/-- The settings of the environment over those of the file that it names. -/
def layered (files : FileTree) (env : Environment) : Except SettingsError Settings := do
  let base ← match env.value? fileVariable with
    | some path => ofFile files path
    | none => pure {}
  return base.overlay (environmentLayer env)

end DriverClasses.Settings
