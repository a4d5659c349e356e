import DriverClasses.Digest.Sha256
import DriverClasses.Loading.Context

/-!
# Loading a class

`Forest.load` asks, in this order: the cache of the context, the caches of its ancestors, whether
the name is one at all, and the sources of the context one after the other.  The first source whose
bytes link decides.  If there is none, the first source that failed to read or to link is to blame,
and if none failed, the class was not found.
-/

namespace DriverClasses.Loading

open DriverClasses.ClassFile DriverClasses.Text DriverClasses.Files

/-- What one source has to say about a class. -/
inductive Verdict where
  | absent
  | linked (header : Header) (bytes : Bytes)
  | defective (defect : Defect)
  | crashed (reason : String)
  deriving DecidableEq, Repr

def verdict (files : FileTree) (policy : LinkPolicy) (name : String) (source : ClassSource) :
    Verdict :=
  match source.find files (entryName name) policy.maxEntryBytes with
  | .absent => .absent
  | .failed fault => .defective (.unreadable fault)
  | .crashed reason => .crashed reason
  | .found bytes =>
    match link policy name bytes with
    | .ok header => .linked header bytes
    | .error fault => .defective (.unlinkable fault)

/-- How a scan of sources ends. -/
inductive ScanEnd where
  | linked (origin : String) (header : Header) (bytes : Bytes)
  | failed (error : LoadError)
  | crashed (reason : String)
  deriving DecidableEq, Repr

/-- Remembers the first of several failures. -/
def blame (failure : Option LoadError) (error : LoadError) : Option LoadError :=
  some (failure.getD error)

/-- Asks sources one after the other.  `total` is the number of all sources and `failure` the first
failure so far; the number that comes with the end is that of the sources asked. -/
def scanFrom (judge : ClassSource → Verdict) (name : String) (total : Nat) :
    (failure : Option LoadError) → List ClassSource → ScanEnd × Nat
  | failure, [] => (.failed (failure.getD (.classNotFound name total)), 0)
  | failure, source :: rest =>
    match judge source with
    | .linked header bytes => (.linked source.origin header bytes, 1)
    | .crashed reason => (.crashed reason, 1)
    | .absent =>
      let (scanEnd, asked) := scanFrom judge name total failure rest
      (scanEnd, asked + 1)
    | .defective defect =>
      let error := .malformedClass name source.origin defect
      let (scanEnd, asked) := scanFrom judge name total (blame failure error) rest
      (scanEnd, asked + 1)

def scan (files : FileTree) (policy : LinkPolicy) (name : String) (sources : List ClassSource) :
    ScanEnd × Nat :=
  scanFrom (verdict files policy name) name sources.length none sources

/-- How a call to load a class ends. -/
inductive LoadResult where
  | loaded (loaded : LoadedClass)
  | failed (error : LoadError)
  | crashed (reason : String)
  deriving DecidableEq, Repr

namespace Forest

/-- The handle of a class that is linked now, and the forest that has counted it. -/
def newClass (f : Forest) (id : Nat) (origin : String) (header : Header) (bytes : Bytes) :
    LoadedClass × Forest :=
  ({ serial := f.linked, header, origin, digest := Digest.sha256Hex bytes, contextId := id },
    { f with linked := f.linked + 1 })

/-- Asks the sources of a context for a class and keeps what it links. -/
def scanContext (files : FileTree) (context : Context) (name : String) (f : Forest) :
    LoadResult × Forest :=
  let (scanEnd, asked) := scan files context.policy name context.sources
  let f := f.record context.id (entryName name) context.policy.maxEntryBytes asked
  match scanEnd with
  | .failed error => (.failed error, f)
  | .crashed reason => (.crashed reason, f)
  | .linked origin header bytes =>
    let (loaded, f) := f.newClass context.id origin header bytes
    (.loaded loaded, f.store context.id name loaded)

def load (files : FileTree) (id : Nat) (name : String) (f : Forest) : LoadResult × Forest :=
  match f.cached? id name with
  | some loaded => (.loaded loaded, f)
  | none =>
    match f.inherited? id name with
    | some loaded => (.loaded loaded, f)
    | none =>
      if isBinaryName name then
        match f.context? id with
        | some context => f.scanContext files context name
        | none => (.failed (.classNotFound name 0), f)
      else (.failed (.classNotFound name 0), f)

end Forest

end DriverClasses.Loading
