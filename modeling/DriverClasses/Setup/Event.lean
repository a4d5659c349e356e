import DriverClasses.Logging.Format

/-!
# Set-up events

What a set-up reports while it runs: events, counts, and one span that stays open for the whole call
and collects how it ended.
-/

namespace DriverClasses.Setup

open DriverClasses.Logging

inductive Event where
  | contextCreated (contextId : Nat) (paths : List String)
  /-- The driver was there already. -/
  | driverReused (driverClass : String) (contextId : Nat)
  | driverRegistered (driverClass : String) (contextId : Nat)
  | driverLoaded (driverClass origin digest : String) (contextId : Nat)
  | setupFailed (driverClass driverPath error : String)
  deriving DecidableEq, Repr

/-- A path list as messages show it. -/
def shownPaths (paths : List String) : String := ";".intercalate paths

def Event.record : Event → Record
  | contextCreated id paths =>
    { level := .info, message := "created loader context",
      fields := [("context_id", .number id), ("paths", .text (shownPaths paths))] }
  | driverReused name id =>
    { level := .debug, message := "reusing registered driver",
      fields := [("class", .text name), ("context_id", .number id)] }
  | driverRegistered name id =>
    { level := .debug, message := "driver registered",
      fields := [("class", .text name), ("context_id", .number id)] }
  | driverLoaded name origin digest id =>
    { level := .info, message := "driver loaded and registered",
      fields := [("class", .text name), ("origin", .text origin), ("sha256", .text digest),
        ("context_id", .number id)] }
  | setupFailed name paths error =>
    { level := .warn, message := "driver setup failed",
      fields := [("class", .text name), ("paths", .text paths), ("error", .text error)] }

inductive SetupKind where
  | reused
  | loaded
  | failed
  deriving DecidableEq, Repr

def SetupKind.text : SetupKind → String
  | reused => "reused"
  | loaded => "loaded"
  | failed => "failed"

/-- Something that is counted. -/
inductive Count where
  | contextCreated
  | setup (kind : SetupKind)
  deriving DecidableEq, Repr

def Count.name : Count → String
  | contextCreated => "driver_loader_contexts_created_total"
  | setup _ => "driver_loader_setup_total"

/-- The label that tells counts of one name apart, and its value. -/
def Count.label? : Count → Option (String × String)
  | contextCreated => none
  | setup kind => some ("outcome", kind.text)

/-- The span of a set-up.  Its ending fields are empty until the set-up has ended. -/
structure SetupSpan where
  driverClass : String
  driverPath : String
  status : Option String := none
  error : Option String := none
  contextId : Option Nat := none
  deriving DecidableEq, Repr

namespace SetupSpan

def succeed (span : SetupSpan) (contextId : Nat) : SetupSpan :=
  { span with status := some "ok", contextId := some contextId }

def fail (span : SetupSpan) (error : String) : SetupSpan :=
  { span with status := some "error", error := some error }

def fields (span : SetupSpan) : List (String × FieldValue) :=
  [("class", .text span.driverClass), ("paths", .text span.driverPath)]
    ++ (span.contextId.map fun id => ("context_id", FieldValue.number id)).toList
    ++ (span.status.map fun s => ("status", FieldValue.text s)).toList
    ++ (span.error.map fun e => ("error.message", FieldValue.text e)).toList

end SetupSpan

end DriverClasses.Setup
