import DriverClasses.Loading.Load
import DriverClasses.Registry.Manager
import DriverClasses.Setup.Event
import DriverClasses.Setup.Options

/-!
# Setting up drivers

A host keeps one loader context for each path list that it was asked for.  `setup` makes the driver
of some options available: it finds or makes the context, and, unless the context holds the class
already and the manager a driver for it, loads the class, makes a driver of it and registers that.
-/

namespace DriverClasses.Setup

open DriverClasses.Files DriverClasses.ClassFile DriverClasses.Loading DriverClasses.Registry

inductive HostError where
  | missingOption (key : OptionKey)
  | load (driverClass : String) (paths : List String) (error : LoadError)
  | registry (error : RegistryError)
  deriving DecidableEq, Repr

def HostError.message : HostError → String
  | missingOption key => Setup.missingOption key
  | load driverClass paths error =>
    s!"Failed to load driver {driverClass} from '{shownPaths paths}': " ++ error.message
  | registry error => "Driver registration failed: " ++ error.message

structure Host where
  factories : Factories
  /-- The policy of all contexts of the host. -/
  policy : LinkPolicy
  /-- The contexts by their path lists. -/
  contexts : List (List String × Nat) := []

/-- The context for a path list. -/
def Host.context? (h : Host) (paths : List String) : Option Nat := h.contexts.lookup paths

/-- A host, and all that its set-ups work on. -/
structure Deployment where
  host : Host
  manager : Manager
  forest : Forest
  /-- How many drivers were made so far. -/
  made : Nat := 0

/-- A driver that is ready for use. -/
structure Binding where
  contextId : Nat
  loadedClass : LoadedClass
  driver : Driver
  /-- Whether the driver was registered before. -/
  reused : Bool

inductive Outcome where
  | bound (binding : Binding)
  | failed (error : HostError)
  | crashed (reason : String)

namespace Deployment

/-- The context for a path list, which is made if there is none. -/
def contextFor (d : Deployment) (paths : List String) :
    Except LoadError (Nat × List Event × Deployment) :=
  match d.host.context? paths with
  | some id => .ok (id, [], d)
  | none => do
    let (id, forest) ← d.forest.create none d.host.policy paths
    let host := { d.host with contexts := d.host.contexts ++ [(paths, id)] }
    return (id, [.contextCreated id paths], { d with host, forest })

/-- The class that a context has loaded under a name, and the driver that is registered for it. -/
def resident? (d : Deployment) (id : Nat) (name : String) : Option (LoadedClass × Driver) := do
  let loaded ← d.forest.cached? id name
  let driver ← d.manager.forClass? loaded
  return (loaded, driver)

/-- A new driver for a class. -/
def instantiate (d : Deployment) (loaded : LoadedClass) :
    Except RegistryError (Driver × Deployment) := do
  let blueprint ← d.host.factories.instantiate loaded
  return ({ blueprint with serial := d.made }, { d with made := d.made + 1 })

/-- The end of a set-up whose driver could not be registered. -/
def settle (d : Deployment) (id : Nat) (loaded : LoadedClass) : RegistryError → Outcome
  | .alreadyRegistered name contextId =>
    match d.manager.forClass? loaded with
    | some driver => .bound { contextId := id, loadedClass := loaded, driver, reused := true }
    | none => .failed (.registry (.alreadyRegistered name contextId))
  | error => .failed (.registry error)

/-- Registers a driver that was made for a class. -/
def register (d : Deployment) (id : Nat) (loaded : LoadedClass) (driver : Driver) :
    Outcome × List Event × Deployment :=
  match d.manager.register driver with
  | .ok manager =>
    (.bound { contextId := id, loadedClass := loaded, driver, reused := false },
      [.driverRegistered driver.name driver.loadedClass.contextId,
        .driverLoaded loaded.name loaded.origin loaded.digest id],
      { d with manager })
  | .error error => (d.settle id loaded error, [], d)

/-- Makes a driver of a class that was loaded and registers it. -/
def enlist (d : Deployment) (id : Nat) (loaded : LoadedClass) : Outcome × List Event × Deployment :=
  match d.instantiate loaded with
  | .error error => (.failed (.registry error), [], d)
  | .ok (driver, d) => d.register id loaded driver

/-- Loads the class in a context and enlists it. -/
def loadAndEnlist (files : FileTree) (options : DriverOptions) (d : Deployment) (id : Nat) :
    Outcome × List Event × Deployment :=
  let (result, forest) := d.forest.load files id options.driverClass
  let d := { d with forest }
  match result with
  | .crashed reason => (.crashed reason, [], d)
  | .failed error => (.failed (.load options.driverClass options.paths error), [], d)
  | .loaded loaded => d.enlist id loaded

/-- The work of a set-up once its context is known. -/
def bindIn (files : FileTree) (options : DriverOptions) (d : Deployment) (id : Nat) :
    Outcome × List Event × Deployment :=
  match d.resident? id options.driverClass with
  | some (loaded, driver) =>
    (.bound { contextId := id, loadedClass := loaded, driver, reused := true },
      [.driverReused options.driverClass id], d)
  | none => d.loadAndEnlist files options id

/-- The work of a set-up: how it ends, and the events on the way. -/
def bind (files : FileTree) (options : DriverOptions) (d : Deployment) :
    Outcome × List Event × Deployment :=
  if options.paths = [] then (.failed (.missingOption .driverPath), [], d)
  else
    match d.contextFor options.paths with
    | .error error => (.failed (.load options.driverClass options.paths error), [], d)
    | .ok (id, created, d) =>
      let (outcome, events, d) := d.bindIn files options id
      (outcome, created ++ events, d)

end Deployment

/-- What a set-up shows. -/
structure SetupReport where
  outcome : Outcome
  events : List Event
  span : SetupSpan
  counts : List Count

def Event.count? : Event → Option Count
  | .contextCreated _ _ => some .contextCreated
  | _ => none

/-- The report of a set-up with this outcome and these events of its work. -/
def SetupReport.close (options : DriverOptions) (outcome : Outcome) (events : List Event) :
    SetupReport :=
  let span : SetupSpan := { driverClass := options.driverClass, driverPath := options.driverPath }
  let created := events.filterMap (·.count?)
  match outcome with
  | .bound binding =>
    { outcome, events, span := span.succeed binding.contextId,
      counts := created ++ [.setup (if binding.reused then .reused else .loaded)] }
  | .failed error =>
    { outcome, span := span.fail error.message,
      events := events
        ++ [.setupFailed options.driverClass options.driverPath error.message],
      counts := created ++ [.setup .failed] }
  | .crashed _ => { outcome, events, span, counts := created }

def Deployment.setup (files : FileTree) (options : DriverOptions) (d : Deployment) :
    SetupReport × Deployment :=
  let (outcome, events, d) := d.bind files options
  (.close options outcome events, d)

end DriverClasses.Setup
