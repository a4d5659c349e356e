import DriverClasses.Location.FileUrl
import DriverClasses.Location.Syntax
import DriverClasses.Text.Blank

/-!
# Locations

A location names an archive or a directory in the local file system: by its path, by a `file:` URL,
or by a `jar:` URL around a `file:` URL.  It is read when it is given and opened only when a class
is looked for.
-/

namespace DriverClasses

open DriverClasses.Text DriverClasses.Location

structure Location where
  /-- The location as it was given, without its padding. -/
  text : String
  path : Bytes
  deriving DecidableEq, Repr

namespace Location

/-- Why a text is no location. -/
inductive Refusal where
  | empty
  | holdsNul
  | scheme (name : String)
  | url (fault : HostFault)
  | remoteHost (host : String)
  | querySuffix
  | jarSeparator
  | jarEntry
  | jarInner
  deriving DecidableEq, Repr

def Refusal.message : Refusal → String
  | empty => "location is empty"
  | holdsNul => "location contains a NUL byte"
  | scheme name => s!"unsupported scheme '{name}', only local file locations are allowed"
  | url fault => fault.message
  | remoteHost host => s!"remote host '{host}' is not supported"
  | querySuffix => "file URL must not carry a query or fragment"
  | jarSeparator => "jar URL is missing the '!/' separator"
  | jarEntry => "paths inside a jar URL are not supported"
  | jarInner => "jar URL must wrap a file: URL"

/-- The path of a `file:` URL on this host. -/
def pathOfFileUrl (s : List Char) : Except Refusal Bytes :=
  match FileUrl.parse s with
  | .error fault => .error (.url fault)
  | .ok url =>
    match url.host with
    | some host => .error (.remoteHost host.text)
    | none => if url.hasSuffix then .error .querySuffix else .ok url.localPath

/-- What stands before and after the first `!/`. -/
def cutSeparator : List Char → Option (List Char × List Char)
  | '!' :: '/' :: r => some ([], r)
  | c :: r => (cutSeparator r).map fun (a, b) => (c :: a, b)
  | [] => none

/-- The path of the archive that `inner`, the text behind `jar:`, wraps. -/
def pathOfJarUrl (inner : List Char) : Except Refusal Bytes :=
  match cutSeparator inner with
  | none => .error .jarSeparator
  | some (archive, entry) =>
    if entry ≠ [] then .error .jarEntry
    else
      match scheme? archive with
      | some (scheme, _) => if isFileScheme scheme then pathOfFileUrl archive else .error .jarInner
      | none => .error .jarInner

/-- The path that a trimmed text names. -/
def pathOf (s : List Char) : Except Refusal Bytes :=
  if s = [] then .error .empty
  else if '\x00' ∈ s then .error .holdsNul
  else
    match scheme? s with
    | none => .ok (utf8Chars s)
    | some (scheme, rest) =>
      if isJarScheme scheme then pathOfJarUrl rest
      else if isFileScheme scheme then pathOfFileUrl s
      else .error (.scheme (String.ofList scheme))

def parse (raw : String) : Except Refusal Location :=
  let s := trimChars raw.toList
  (pathOf s).map fun path => { text := String.ofList s, path }

end Location

end DriverClasses
