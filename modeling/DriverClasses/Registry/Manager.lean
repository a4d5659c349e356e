import DriverClasses.Loading.Context

/-!
# Drivers, their factories and their manager

A driver is made from a loaded class and says which connection strings it takes.  Factories are kept
by the name of the class; a later one for a name stands in the stead of an earlier one.  Two drivers
are one only if their serial numbers agree.

The manager keeps drivers in the order in which they were registered, no two of them for one class.
Classes are told apart by their serial numbers, so classes of one name that two contexts have loaded
may both have a driver.
-/

namespace DriverClasses.Registry

open DriverClasses.ClassFile DriverClasses.Loading

inductive RegistryError where
  | alreadyRegistered (name : String) (contextId : Nat)
  | noSuitableDriver (url : String)
  | noFactory (name : String)
  | instantiation (name reason : String)
  deriving DecidableEq, Repr

def RegistryError.message : RegistryError → String
  | alreadyRegistered name contextId =>
    s!"Driver {name} from loader context {contextId} is already registered"
  | noSuitableDriver url => s!"No suitable driver for {url}"
  | noFactory name => s!"No driver factory for class {name}"
  | instantiation name reason => s!"Failed to instantiate {name}: {reason}"

/-- What a factory makes of a class. -/
structure Blueprint where
  loadedClass : LoadedClass
  /-- Whether the driver takes a connection string. -/
  accepts : String → Bool

structure Driver extends Blueprint where
  serial : Nat

def Driver.name (d : Driver) : String := d.loadedClass.name

abbrev Factory := LoadedClass → Except RegistryError Blueprint

/-- The driver takes the connection strings that begin with `start`. -/
def Blueprint.ofStart (start : String) (loaded : LoadedClass) : Blueprint :=
  { loadedClass := loaded, accepts := fun url => start.toList.isPrefixOf url.toList }

def Factory.ofStart (start : String) : Factory := fun loaded => .ok (.ofStart start loaded)

/-- Makes a driver only of a class that names an interface. -/
def Factory.requiring (interface start : String) : Factory := fun loaded =>
  if loaded.header.declares interface then .ok (.ofStart start loaded)
  else .error (.instantiation loaded.name s!"not a {interface}")

/-- Factories by the name of the class. -/
structure Factories where
  entries : List (String × Factory) := []

namespace Factories

def find? (factories : Factories) (name : String) : Option Factory := factories.entries.lookup name

def contains (factories : Factories) (name : String) : Bool := (factories.find? name).isSome

/-- The factory is the one for the name from now on. -/
def register (factories : Factories) (name : String) (factory : Factory) : Factories :=
  { entries := (name, factory) :: factories.entries.filter (·.1 ≠ name) }

def resolve (factories : Factories) (name : String) : Except RegistryError Factory :=
  match factories.find? name with
  | some factory => .ok factory
  | none => .error (.noFactory name)

/-- What the factory for a class makes of it. -/
def instantiate (factories : Factories) (loaded : LoadedClass) :
    Except RegistryError Blueprint := do
  (← factories.resolve loaded.name) loaded

/-- The names that have a factory, in the order of code points. -/
def names (factories : Factories) : List String :=
  (factories.entries.map (·.1)).mergeSort (fun a b => a ≤ b)

/-- The drivers that are known from the start, with what their connection strings begin with. -/
def knownDrivers : List (String × String) :=
  [("org.apache.hive.jdbc.HiveDriver", "jdbc:hive2:"),
    ("org.apache.hadoop.hive.jdbc.HiveDriver", "jdbc:hive:"),
    ("com.simba.athena.jdbc.Driver", "jdbc:awsathena:")]

def known : Factories :=
  knownDrivers.foldl (fun factories (name, start) => factories.register name (.ofStart start)) {}

end Factories

structure Manager where
  drivers : List Driver := []

namespace Manager

def forClass? (m : Manager) (loaded : LoadedClass) : Option Driver :=
  m.drivers.find? (·.loadedClass.serial == loaded.serial)

/-- The earliest driver that takes a connection string. -/
def forUrl (m : Manager) (url : String) : Except RegistryError Driver :=
  match m.drivers.find? (·.accepts url) with
  | some driver => .ok driver
  | none => .error (.noSuitableDriver url)

def register (m : Manager) (driver : Driver) : Except RegistryError Manager :=
  match m.forClass? driver.loadedClass with
  | some _ => .error (.alreadyRegistered driver.name driver.loadedClass.contextId)
  | none => .ok { drivers := m.drivers ++ [driver] }

/-- Whether there was a driver for the class, and the manager without it. -/
def deregister (m : Manager) (loaded : LoadedClass) : Bool × Manager :=
  ((m.forClass? loaded).isSome,
    { drivers := m.drivers.filter (·.loadedClass.serial != loaded.serial) })

end Manager

end DriverClasses.Registry
