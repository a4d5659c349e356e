import DriverClasses.ClassFile.Header

/-!
# Linking

A `LinkPolicy` says which classes a loader takes.  `link` reads a header and checks, in this order,
the version, the name under which the class was asked for, and the interface that it has to declare.
-/

namespace DriverClasses.ClassFile

structure LinkPolicy where
  /-- The newest major version that is accepted. -/
  newestMajor : Nat := 65
  /-- The largest entry that is read from a source. -/
  maxEntryBytes : Nat := 16777216
  /-- An interface that every class has to declare itself. -/
  requiredInterface : Option String := none
  deriving DecidableEq, Repr

def Header.declares (header : Header) (interface : String) : Bool :=
  header.interfaces.contains interface

def checkVersion (policy : LinkPolicy) (header : Header) : Except Fault Unit :=
  if oldestMajor ≤ header.major ∧ header.major ≤ policy.newestMajor then .ok ()
  else .error (.unsupportedVersion header.major header.minor policy.newestMajor)

def checkName (expected : String) (header : Header) : Except Fault Unit :=
  if header.name = expected then .ok () else .error (.nameMismatch header.name expected)

def checkInterface (policy : LinkPolicy) (header : Header) : Except Fault Unit :=
  match policy.requiredInterface with
  | none => .ok ()
  | some interface =>
    if header.declares interface then .ok () else .error (.missingInterface interface)

/-- The header of `bytes`, when it is a class of this name that the policy accepts. -/
def link (policy : LinkPolicy) (expected : String) (bytes : List UInt8) : Except Fault Header := do
  let header ← Header.read? bytes
  checkVersion policy header
  checkName expected header
  checkInterface policy header
  return header

end DriverClasses.ClassFile
