import Mathlib.Algebra.GroupWithZero.Nat
import DriverClasses.ClassFile.Header
import DriverClasses.Proofs.ClassFile.Fields

/-!
# The header of a class file, as it is written

A `Written` header is what stands in a file, field by field: constants in the order of their slots,
and indices into them.  `Written.bytes` writes it down, and `Describes` says what a `Header` holds
that is read from it.  A constant is looked for by the slots that those before it take, so that an
index of slot 0, or of the second slot of a long constant, names nothing.
-/

namespace DriverClasses.ClassFile

/-- A number of two bytes. -/
abbrev Short := Fin (256 ^ 2)

/-- The tags of the constants that are no texts, no classes and not long, with the sizes of what
follows them. -/
inductive Passed : (tag size : Nat) → Prop
  | two {tag : Nat} : tag ∈ [8, 16, 19, 20] → Passed tag 2
  | three : Passed 15 3
  | four {tag : Nat} : tag ∈ [3, 4, 9, 10, 11, 12, 17, 18] → Passed tag 4

/-- A constant as it is written. -/
inductive Entry where
  | text (bytes : List UInt8) (short : bytes.length < 256 ^ 2)
  | classRef (nameIndex : Short)
  | other (tag : Nat) (payload : List UInt8) (passed : Passed tag payload.length)
  | long (tag : Nat) (payload : List UInt8) (wide : tag ∈ [5, 6]) (eight : payload.length = 8)

namespace Entry

def tag : Entry → Nat
  | text _ _ => 1
  | classRef _ => 7
  | other tag _ _ => tag
  | long tag _ _ _ => tag

/-- What follows the tag. -/
def payload : Entry → List UInt8
  | text bytes _ => bytesOf 2 bytes.length ++ bytes
  | classRef nameIndex => bytesOf 2 nameIndex
  | other _ payload _ => payload
  | long _ payload _ _ => payload

def bytes (e : Entry) : List UInt8 := bytesOf 1 e.tag ++ e.payload

/-- How many slots the constant takes. -/
def width : Entry → Nat
  | text _ _ | classRef _ | other _ _ _ => 1
  | long _ _ _ _ => 2

end Entry

/-- How many slots constants take together. -/
def slotCount (constants : List Entry) : Nat := (constants.map Entry.width).sum

/-- The constant `e` has slot `i`, or begins there.  Slot 1 is the first. -/
def At (constants : List Entry) (i : Nat) (e : Entry) : Prop :=
  ∃ before after, constants = before ++ e :: after ∧ i = slotCount before + 1

structure Written where
  minor : Short
  major : Short
  constants : List Entry
  access : Short
  thisIndex : Short
  superIndex : Short
  interfaces : List Short
  /-- The count of the slots, with slot 0 among them, is a number of two bytes. -/
  slots_fit : slotCount constants + 1 < 256 ^ 2
  interfaces_fit : interfaces.length < 256 ^ 2

namespace Written

/-- What stands behind the magic number.  Every number is big-endian. -/
def fields (w : Written) : List UInt8 :=
  bytesOf 2 w.minor ++ bytesOf 2 w.major
    ++ bytesOf 2 (slotCount w.constants + 1) ++ w.constants.flatMap Entry.bytes
    ++ bytesOf 2 w.access ++ bytesOf 2 w.thisIndex ++ bytesOf 2 w.superIndex
    ++ bytesOf 2 w.interfaces.length ++ w.interfaces.flatMap fun (i : Short) => bytesOf 2 i

def bytes (w : Written) : List UInt8 := bytesOf 4 0xCAFEBABE ++ w.fields

/-- The class in a slot has the name: the text in the slot that it refers to, with dots. -/
def Names (w : Written) (i : Nat) (name : String) : Prop :=
  ∃ (j : Short) (bytes : List UInt8) (short : bytes.length < 256 ^ 2),
    At w.constants i (.classRef j) ∧ At w.constants j (.text bytes short)
      ∧ name.toList
        = (ModifiedUtf8.decode bytes).toList.map fun c => if c = '/' then '.' else c

/-- What a header holds that is read from what is written. -/
structure Describes (w : Written) (h : Header) : Prop where
  minor_eq : h.minor = w.minor
  major_eq : h.major = w.major
  access_eq : h.access = w.access
  name : w.Names w.thisIndex h.name
  superName : (w.superIndex.val = 0 ∧ h.superName = none)
    ∨ w.superIndex.val ≠ 0 ∧ ∃ name, h.superName = some name ∧ w.Names w.superIndex name
  interfaces : List.Forall₂ (fun (i : Short) name => w.Names i name) w.interfaces h.interfaces

end Written

end DriverClasses.ClassFile
