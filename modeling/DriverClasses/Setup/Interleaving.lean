import DriverClasses.Loading.Interleaving
import DriverClasses.Setup.Host

/-!
# Set-ups side by side

Several set-ups run at once on one host, each in steps that are atomic: the find or make of the
context, the look into its cache, the look for a registered driver, the steps of the load, the
making of the driver, its registration, and the look for the driver of another set-up that
registered first.

`stepSetup` is one step of one set-up, `SetupMachine.run` the run of a schedule, and
`Deployment.setupTogether` the run in which all take turns.
-/

namespace DriverClasses.Setup

open DriverClasses.Files DriverClasses.ClassFile DriverClasses.Loading DriverClasses.Registry

/-- Where a set-up is. -/
inductive SetupStage where
  | findContext
  | checkResident (contextId : Nat)
  | findDriver (contextId : Nat) (loaded : LoadedClass)
  | loading (contextId : Nat) (stage : Stage)
  | making (contextId : Nat) (loaded : LoadedClass)
  | registering (contextId : Nat) (loaded : LoadedClass) (driver : Driver)
  /-- The registration was refused. -/
  | settling (contextId : Nat) (loaded : LoadedClass) (error : RegistryError)
  | returned (outcome : Outcome)

/-- The state that all set-ups share. -/
structure SetupShared where
  deployment : Deployment
  inFlight : List ((Nat × String) × Nat) := []
  announced : List (Option Announcement) := []

namespace SetupShared

/-- What the loads among the set-ups share. -/
def loads (s : SetupShared) : Shared :=
  { forest := s.deployment.forest, inFlight := s.inFlight, announced := s.announced }

def withLoads (s : SetupShared) (shared : Shared) : SetupShared :=
  { deployment := { s.deployment with forest := shared.forest }, inFlight := shared.inFlight,
    announced := shared.announced }

end SetupShared

/-- Where a set-up is whose load ended so. -/
def SetupStage.ofLoad (options : DriverOptions) (id : Nat) : LoadResult → SetupStage
  | .loaded loaded => .making id loaded
  | .failed error => .returned (.failed (.load options.driverClass options.paths error))
  | .crashed reason => .returned (.crashed reason)

/-- One step of a set-up. -/
def stepSetup (files : FileTree) (options : DriverOptions) (s : SetupShared) :
    SetupStage → SetupStage × SetupShared
  | .findContext =>
    if options.paths = [] then (.returned (.failed (.missingOption .driverPath)), s)
    else
      match s.deployment.contextFor options.paths with
      | .error error =>
        (.returned (.failed (.load options.driverClass options.paths error)), s)
      | .ok (id, _, deployment) => (.checkResident id, { s with deployment })
  | .checkResident id =>
    match s.deployment.forest.cached? id options.driverClass with
    | some loaded => (.findDriver id loaded, s)
    | none => (.loading id .checkCache, s)
  | .findDriver id loaded =>
    match s.deployment.manager.forClass? loaded with
    | some driver =>
      (.returned (.bound { contextId := id, loadedClass := loaded, driver, reused := true }), s)
    | none => (.loading id .checkCache, s)
  | .loading id stage =>
    let (stage, shared) := stepCall files id options.driverClass s.loads stage
    let s := s.withLoads shared
    match stage with
    | .returned result => (.ofLoad options id result, s)
    | _ => (.loading id stage, s)
  | .making id loaded =>
    match s.deployment.instantiate loaded with
    | .error error => (.returned (.failed (.registry error)), s)
    | .ok (driver, deployment) => (.registering id loaded driver, { s with deployment })
  | .registering id loaded driver =>
    match s.deployment.manager.register driver with
    | .ok manager =>
      (.returned (.bound { contextId := id, loadedClass := loaded, driver, reused := false }),
        { s with deployment := { s.deployment with manager } })
    | .error error => (.settling id loaded error, s)
  | .settling id loaded error => (.returned (s.deployment.settle id loaded error), s)
  | .returned outcome => (.returned outcome, s)

/-- A set-up, and where it is. -/
structure SetupCall where
  options : DriverOptions
  stage : SetupStage := .findContext

def SetupCall.outcome? (c : SetupCall) : Option Outcome :=
  match c.stage with
  | .returned outcome => some outcome
  | _ => none

/-- Set-ups that run at once, and what they share. -/
structure SetupMachine where
  calls : List SetupCall
  shared : SetupShared

namespace SetupMachine

/-- One step of the set-up with this number. -/
def step (files : FileTree) (m : SetupMachine) (i : Nat) : SetupMachine :=
  match m.calls[i]? with
  | none => m
  | some call =>
    let (stage, shared) := stepSetup files call.options m.shared call.stage
    { calls := m.calls.set i { call with stage }, shared }

def run (files : FileTree) (schedule : List Nat) (m : SetupMachine) : SetupMachine :=
  schedule.foldl (step files) m

end SetupMachine

namespace Deployment

/-- How many sources the context for a path list has, or would have. -/
def sourceCount (d : Deployment) (paths : List String) : Nat :=
  match (d.host.context? paths).bind d.forest.context? with
  | some context => context.sources.length
  | none => paths.length

/-- `count` set-ups with the same options, taking turns. -/
def setupTogether (files : FileTree) (options : DriverOptions) (count : Nat) (d : Deployment) :
    List Outcome × Deployment :=
  let calls := List.replicate count { options : SetupCall }
  let rounds := d.sourceCount options.paths + 16
  let m := SetupMachine.run files (turns count rounds) { calls, shared := { deployment := d } }
  (m.calls.filterMap (·.outcome?), m.shared.deployment)

end Deployment

end DriverClasses.Setup
