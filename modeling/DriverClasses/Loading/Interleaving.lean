import DriverClasses.Loading.Load

/-!
# Loads side by side

Several calls to load classes run at once, each in steps that are atomic: the look into the cache of
its context, the look into those of the ancestors, the step under the lock, one step for each
source, the entry into the cache, the end of the pending load, the announcement of its outcome, and
the return of those who waited.

Under the lock a call looks into the cache once more.  If a load of the name is pending in the
context, the call waits for its outcome; if not, the call makes a pending load and leads it.  When a
source crashes the leader crashes too, and those who wait are told that the load was abandoned.

`stepCall` is one step of one call, `Machine.run` the run of a schedule, and `Forest.loadTogether`
the run in which all calls take turns.
-/

namespace DriverClasses.Loading

open DriverClasses.ClassFile DriverClasses.Text DriverClasses.Files

/-- What those who wait for a load are told. -/
abbrev Announcement := Except LoadError LoadedClass

/-- The state that all calls share. -/
structure Shared where
  forest : Forest
  /-- The pending loads by context and name, each with its number. -/
  inFlight : List ((Nat × String) × Nat) := []
  /-- What was announced of each load so far, by its number. -/
  announced : List (Option Announcement) := []

namespace Shared

def pending? (s : Shared) (id : Nat) (name : String) : Option Nat := s.inFlight.lookup (id, name)

/-- A new pending load, and its number. -/
def lead (s : Shared) (id : Nat) (name : String) : Nat × Shared :=
  (s.announced.length,
    { s with
      inFlight := ((id, name), s.announced.length) :: s.inFlight
      announced := s.announced ++ [none] })

/-- No load of the name is pending any more. -/
def leave (s : Shared) (id : Nat) (name : String) : Shared :=
  { s with inFlight := s.inFlight.filter (·.1 ≠ (id, name)) }

def announce (s : Shared) (ticket : Nat) (announcement : Announcement) : Shared :=
  { s with announced := s.announced.set ticket (some announcement) }

def announcement? (s : Shared) (ticket : Nat) : Option Announcement :=
  (s.announced[ticket]?).join

end Shared

/-- Where a call is. -/
inductive Stage where
  | checkCache
  | checkAncestors
  /-- About to take the lock. -/
  | enter
  | waiting (ticket : Nat)
  /-- Leads a load and has not looked at the sources. -/
  | snapshot (ticket : Nat)
  /-- Asks the sources that are left; `asked` were asked before, and `failure` is the first
  failure. -/
  | scanning (ticket asked : Nat) (failure : Option LoadError) (rest : List ClassSource)
  | storing (ticket : Nat) (loaded : LoadedClass)
  | leaving (ticket : Nat) (result : LoadResult)
  | announcing (ticket : Nat) (result : LoadResult)
  | returned (result : LoadResult)

/-- How a load that was announced ends for one who waited. -/
def LoadResult.ofAnnouncement : Announcement → LoadResult
  | .ok handle => .loaded handle
  | .error error => .failed error

/-- The place that an abandoned load is said to be in. -/
def inFlightPlace : String := "<in-flight load>"

/-- What is announced of a load that ended so. -/
def LoadResult.announcement (name : String) : LoadResult → Announcement
  | .loaded handle => .ok handle
  | .failed error => .error error
  | .crashed _ => .error (.malformedClass name inFlightPlace .abandoned)

/-- The step under the lock. -/
def enterStep (id : Nat) (name : String) (s : Shared) : Stage × Shared :=
  match s.forest.cached? id name with
  | some loaded => (.returned (.loaded loaded), s)
  | none =>
    match s.pending? id name with
    | some ticket => (.waiting ticket, s)
    | none =>
      let (ticket, s) := s.lead id name
      (.snapshot ticket, s)

/-- Asks one source. -/
def scanStep (files : FileTree) (id : Nat) (name : String) (ticket asked : Nat)
    (failure : Option LoadError) (s : Shared) : List ClassSource → Stage × Shared
  | [] => (.leaving ticket (.failed (failure.getD (.classNotFound name asked))), s)
  | source :: rest =>
    match s.forest.context? id with
    | none => (.leaving ticket (.failed (.classNotFound name asked)), s)
    | some context =>
      let consultation : Consultation :=
        { contextId := id, position := asked, entry := entryName name,
          limit := context.policy.maxEntryBytes }
      let forest := { s.forest with consultations := s.forest.consultations ++ [consultation] }
      match verdict files context.policy name source with
      | .absent => (.scanning ticket (asked + 1) failure rest, { s with forest })
      | .defective defect =>
        let error := .malformedClass name source.origin defect
        (.scanning ticket (asked + 1) (blame failure error) rest, { s with forest })
      | .crashed reason => (.leaving ticket (.crashed reason), { s with forest })
      | .linked header bytes =>
        let (loaded, forest) := forest.newClass id source.origin header bytes
        (.storing ticket loaded, { s with forest })

/-- One step of a call to load `name` in the context `id`. -/
def stepCall (files : FileTree) (id : Nat) (name : String) (s : Shared) : Stage → Stage × Shared
  | .checkCache =>
    match s.forest.cached? id name with
    | some loaded => (.returned (.loaded loaded), s)
    | none => (.checkAncestors, s)
  | .checkAncestors =>
    match s.forest.inherited? id name with
    | some loaded => (.returned (.loaded loaded), s)
    | none =>
      if isBinaryName name then (.enter, s) else (.returned (.failed (.classNotFound name 0)), s)
  | .enter => enterStep id name s
  | .waiting ticket =>
    match s.announcement? ticket with
    | some announcement => (.returned (.ofAnnouncement announcement), s)
    | none => (.waiting ticket, s)
  | .snapshot ticket =>
    (.scanning ticket 0 none (((s.forest.context? id).map (·.sources)).getD []), s)
  | .scanning ticket asked failure rest => scanStep files id name ticket asked failure s rest
  | .storing ticket loaded =>
    (.leaving ticket (.loaded loaded), { s with forest := s.forest.store id name loaded })
  | .leaving ticket result => (.announcing ticket result, s.leave id name)
  | .announcing ticket result => (.returned result, s.announce ticket (result.announcement name))
  | .returned result => (.returned result, s)

/-- A call to load a class, and where it is. -/
structure Call where
  contextId : Nat
  name : String
  stage : Stage := .checkCache

def Call.result? (c : Call) : Option LoadResult :=
  match c.stage with
  | .returned result => some result
  | _ => none

/-- Calls that run at once, and what they share. -/
structure Machine where
  calls : List Call
  shared : Shared

/-- What can happen next. -/
inductive Move where
  /-- One step of the call with this number. -/
  | step (call : Nat)
  /-- A context gets one more source. -/
  | addSource (contextId : Nat) (source : ClassSource)

namespace Machine

def step (files : FileTree) (m : Machine) : Move → Machine
  | .step i =>
    match m.calls[i]? with
    | none => m
    | some call =>
      let (stage, shared) := stepCall files call.contextId call.name m.shared call.stage
      { calls := m.calls.set i { call with stage }, shared }
  | .addSource id source =>
    { m with shared := { m.shared with forest := m.shared.forest.addSource id source } }

def run (files : FileTree) (schedule : List Move) (m : Machine) : Machine :=
  schedule.foldl (step files) m

end Machine

/-- The numbers below `count`, over and over. -/
def turns (count rounds : Nat) : List Nat := (List.replicate rounds (List.range count)).flatten

/-- A number of steps in which every call of those who take turns comes to its end. -/
def loadRounds (f : Forest) (id : Nat) : Nat :=
  ((f.context? id).map (·.sources.length)).getD 0 + 10

namespace Forest

/-- `count` calls to load one class, taking turns. -/
def loadTogether (files : FileTree) (id : Nat) (name : String) (count : Nat) (f : Forest) :
    List LoadResult × Forest :=
  let calls := List.replicate count { contextId := id, name : Call }
  let schedule := (turns count (loadRounds f id)).map Move.step
  let m := Machine.run files schedule { calls, shared := { forest := f } }
  (m.calls.filterMap (·.result?), m.shared.forest)

end Forest

end DriverClasses.Loading
