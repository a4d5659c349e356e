import DriverClasses.Location.PathList

/-!
# Driver options

The two settings of a server definition that name a driver: a path list and the class to load.
They are read from key and value pairs, in which other keys mean nothing and a later pair
overrides an earlier one of the same key.
-/

namespace DriverClasses.Setup

open DriverClasses.Text DriverClasses.Location

inductive OptionKey where
  | driverPath
  | driverClass
  deriving DecidableEq, Repr

def OptionKey.text : OptionKey → String
  | driverPath => "driver_path"
  | driverClass => "driver_class"

structure DriverOptions where
  /-- The path list. -/
  driverPath : String
  /-- The binary name of the class. -/
  driverClass : String
  deriving DecidableEq, Repr

/-- The trimmed value of the last pair with this key, unless that value is blank. -/
def lastValue? (pairs : List (String × String)) (key : OptionKey) : Option String :=
  (pairs.filter (·.1 == key.text)).getLast?.bind fun pair => nonBlank? pair.2

/-- The options, or the first key that is missing. -/
def DriverOptions.ofPairs (pairs : List (String × String)) : Except OptionKey DriverOptions :=
  match lastValue? pairs .driverPath with
  | none => .error .driverPath
  | some driverPath =>
    match lastValue? pairs .driverClass with
    | none => .error .driverClass
    | some driverClass => .ok { driverPath, driverClass }

def DriverOptions.paths (options : DriverOptions) : List String := splitPathList options.driverPath

/-- The wording for an option that is missing. -/
def missingOption (key : OptionKey) : String := "Missing required option: " ++ key.text

end DriverClasses.Setup
