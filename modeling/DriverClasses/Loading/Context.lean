import DriverClasses.ClassFile.Link
import DriverClasses.Loading.Source

/-!
# Loader contexts

A context loads classes under one policy, from an append-only list of sources, and keeps those that
it has loaded.  A `Forest` holds all contexts; each knows its ancestors, and ids count from one in
the order of creation.  Each class that is linked gets a serial number of its own, and two handles
are one class only if their numbers agree.
-/

namespace DriverClasses.Loading

open DriverClasses.ClassFile DriverClasses.Text DriverClasses.Files

/-- A class that a context has linked. -/
structure LoadedClass where
  serial : Nat
  header : Header
  /-- The source that it came from. -/
  origin : String
  /-- The SHA-256 of its bytes. -/
  digest : String
  /-- The context that owns it. -/
  contextId : Nat
  deriving DecidableEq, Repr

def LoadedClass.name (c : LoadedClass) : String := c.header.name

/-- What is wrong with the bytes that a source has, or fails to give, for a class. -/
inductive Defect where
  | unreadable (fault : SourceFault)
  | unlinkable (fault : Fault)
  /-- The load that others waited for came to no end. -/
  | abandoned
  deriving DecidableEq, Repr

def Defect.message : Defect → String
  | unreadable fault => fault.message
  | unlinkable fault => fault.message
  | abandoned => "load aborted by a panicking class source"

inductive LoadError where
  | invalidLocation (raw : String) (refusal : Location.Refusal)
  | classNotFound (name : String) (searched : Nat)
  | malformedClass (name location : String) (defect : Defect)
  deriving DecidableEq, Repr

def LoadError.message : LoadError → String
  | invalidLocation raw refusal => s!"Invalid location '{raw}': " ++ refusal.message
  | classNotFound name searched => s!"Class not found: {name} (searched {searched} location(s))"
  | malformedClass name location defect =>
    s!"Malformed class {name} in {location}: " ++ defect.message

/-- The class that an error is about. -/
def LoadError.className? : LoadError → Option String
  | invalidLocation _ _ => none
  | classNotFound name _ => some name
  | malformedClass name _ _ => some name

structure Context where
  id : Nat
  /-- The ids of its ancestors, the nearest one first. -/
  ancestors : List Nat
  policy : LinkPolicy
  sources : List ClassSource
  /-- The classes that it has loaded, by name. -/
  cache : List (String × LoadedClass)

namespace Context

def parent? (c : Context) : Option Nat := c.ancestors.head?

def locations (c : Context) : List String := c.sources.map (·.origin)

/-- The class of this name that the context has loaded itself. -/
def cached? (c : Context) (name : String) : Option LoadedClass := c.cache.lookup name

/-- The names of the loaded classes, in the order of code points. -/
def loadedNames (c : Context) : List String := (c.cache.map (·.1)).mergeSort (fun a b => a ≤ b)

/-- One more source behind those that the context has. -/
def addSource (c : Context) (source : ClassSource) : Context :=
  { c with sources := c.sources ++ [source] }

/-- A class enters the cache. -/
def store (c : Context) (name : String) (loaded : LoadedClass) : Context :=
  { c with cache := c.cache ++ [(name, loaded)] }

end Context

/-- One question put to a source: the context and the place of the source in it, and the
question. -/
structure Consultation where
  contextId : Nat
  position : Nat
  entry : String
  limit : Nat
  deriving DecidableEq, Repr

structure Forest where
  contexts : List Context := []
  /-- How many classes were linked so far. -/
  linked : Nat := 0
  /-- The questions put to sources so far, in order. -/
  consultations : List Consultation := []

namespace Forest

def context? (f : Forest) (id : Nat) : Option Context := f.contexts.find? (·.id == id)

/-- The id of the next context. -/
def nextId (f : Forest) : Nat := f.contexts.length + 1

/-- The forest with one context changed. -/
def modify (f : Forest) (id : Nat) (change : Context → Context) : Forest :=
  { f with contexts := f.contexts.map fun c => if c.id = id then change c else c }

def cached? (f : Forest) (id : Nat) (name : String) : Option LoadedClass :=
  (f.context? id).bind (·.cached? name)

def ancestors (f : Forest) (id : Nat) : List Nat := ((f.context? id).map (·.ancestors)).getD []

/-- The class of this name that the nearest ancestor with one has loaded. -/
def inherited? (f : Forest) (id : Nat) (name : String) : Option LoadedClass :=
  (f.ancestors id).findSome? fun a => f.cached? a name

end Forest

def sourceOf (raw : String) : Except LoadError ClassSource :=
  match Location.parse raw with
  | .ok location => .ok (.ofLocation location)
  | .error refusal => .error (.invalidLocation raw refusal)

namespace Forest

/-- A new context over the locations, below `parent` if there is one.  It comes with its id, or not
at all if one of the locations is refused. -/
def create (f : Forest) (parent : Option Nat) (policy : LinkPolicy) (raws : List String) :
    Except LoadError (Nat × Forest) := do
  let sources ← raws.mapM sourceOf
  let ancestors := match parent with
    | none => []
    | some p => p :: f.ancestors p
  let context : Context := { id := f.nextId, ancestors, policy, sources, cache := [] }
  return (f.nextId, { f with contexts := f.contexts ++ [context] })

def addSource (f : Forest) (id : Nat) (source : ClassSource) : Forest :=
  f.modify id (·.addSource source)

def addLocation (f : Forest) (id : Nat) (raw : String) : Except LoadError Forest :=
  (sourceOf raw).map (f.addSource id)

def store (f : Forest) (id : Nat) (name : String) (loaded : LoadedClass) : Forest :=
  f.modify id (·.store name loaded)

/-- A context asked the first `count` of its sources for an entry. -/
def record (f : Forest) (id : Nat) (entry : String) (limit count : Nat) : Forest :=
  { f with consultations := f.consultations
      ++ (List.range count).map fun position => { contextId := id, position, entry, limit } }

end Forest

end DriverClasses.Loading
