import DriverClasses.Archive.Basic
import DriverClasses.Files.Tree
import DriverClasses.Location.Basic

/-!
# Class sources

A source is asked for an entry by name and with a limit on its size, and answers with a `Lookup`.  A
location is a source: a directory is looked into for a file below it, and any other file is read as
an archive.  However large an entry says it is, no more than one byte above the limit is read of it.
-/

namespace DriverClasses.Loading

open DriverClasses.Text DriverClasses.Files

inductive SourceFault where
  | file (error : FileError)
  | archive (fault : Archive.Fault)
  | data (fault : Archive.DataFault)
  | tooLarge (entry : String) (size limit : Nat)
  /-- A failure of a source of one's own, of reading or of what was read. -/
  | reading (reason : String)
  | content (reason : String)
  deriving DecidableEq, Repr

def SourceFault.message : SourceFault → String
  | file error => "IO error: " ++ error.message
  | archive fault =>
    (if fault.isReadFailure then "IO error: " else "Corrupt archive: ") ++ fault.message
  | data fault => "Corrupt archive: " ++ fault.message
  | tooLarge entry size limit => s!"Entry {entry} is {size} bytes, limit is {limit}"
  | reading reason => "IO error: " ++ reason
  | content reason => "Corrupt archive: " ++ reason

/-- The answer of a source. -/
inductive Lookup where
  | absent
  | found (bytes : Bytes)
  | failed (fault : SourceFault)
  /-- The source gave up without an answer. -/
  | crashed (reason : String)
  deriving DecidableEq, Repr

/-- What an entry is read from: the size that it declares, and its first bytes on demand. -/
structure Content where
  declared : Nat
  read : Nat → Except Archive.DataFault Bytes

/-- The largest number of bytes that a buffer can be made for. -/
def largestBuffer : Nat := UInt64.size / 2 - 1

/-- How many bytes are asked for: one more than may be there, as a number of 64 bits. -/
def request (limit : Nat) : Nat := min (limit + 1) (UInt64.size - 1)

/-- How large a buffer is made before reading. -/
def bufferSize (declared limit : Nat) : Nat := min declared limit

/-- The whole content, if it has no more than `limit` bytes. -/
def Content.readCapped (content : Content) (entry : String) (limit : Nat) : Lookup :=
  if limit < content.declared then .failed (.tooLarge entry content.declared limit)
  else if largestBuffer < bufferSize content.declared limit then .crashed "capacity overflow"
  else
    match content.read (request limit) with
    | .error fault => .failed (.data fault)
    | .ok bytes =>
      if limit < bytes.length then .failed (.tooLarge entry bytes.length limit) else .found bytes

def Content.ofFile (bytes : Bytes) : Content :=
  { declared := bytes.length, read := fun n => .ok (bytes.take n) }

def Content.ofMember (member : Archive.Member) : Content :=
  { declared := member.declared, read := member.read }

/-- The file that an entry is below a directory. -/
def entryPath (directory : Bytes) (entry : String) : Bytes :=
  (pieces '/' entry.toList).foldl (fun path part => push path (utf8Chars part)) directory

def findInDirectory (files : FileTree) (directory : Bytes) (entry : String) (limit : Nat) :
    Lookup :=
  match files.stat (entryPath directory entry) with
  | .ok (.file bytes) => (Content.ofFile bytes).readCapped entry limit
  | .ok .directory => .absent
  | .error .notFound => .absent
  | .error error => .failed (.file error)

def findInArchive (archive : Bytes) (entry : String) (limit : Nat) : Lookup :=
  match Archive.Member.find? archive entry with
  | .ok none => .absent
  | .ok (some member) => (Content.ofMember member).readCapped entry limit
  | .error fault => .failed (.archive fault)

/-- Looks an entry up in a location.  A location that is not there holds nothing. -/
def findInLocation (location : Location) (files : FileTree) (entry : String) (limit : Nat) :
    Lookup :=
  match files.stat location.path with
  | .ok .directory => findInDirectory files location.path entry limit
  | .ok (.file bytes) => findInArchive bytes entry limit
  | .error .notFound => .absent
  | .error error => .failed (.file error)

/-- Where classes come from. -/
structure ClassSource where
  /-- The source as handles and errors name it. -/
  origin : String
  find : FileTree → (entry : String) → (limit : Nat) → Lookup

def ClassSource.ofLocation (location : Location) : ClassSource :=
  { origin := location.text, find := findInLocation location }

end DriverClasses.Loading
