import DriverClasses.ClassFile.Cursor
import DriverClasses.ClassFile.ModifiedUtf8
import DriverClasses.ClassFile.Name

/-!
# The constant pool

The pool has numbered slots.  Slot 0 is never used, and an eight-byte constant uses up the slot
after its own as well.  Only class references and texts are kept apart, since names are all that
linking asks for; the payload of every other constant is passed over by its size.
-/

namespace DriverClasses.ClassFile

inductive Constant where
  /-- The bytes of a text, not yet decoded. -/
  | text (bytes : List UInt8)
  /-- A class, by the slot that holds its name. -/
  | classRef (nameIndex : Nat)
  | other
  /-- A slot that nothing may refer to. -/
  | unusable
  deriving DecidableEq, Repr

structure Pool where
  slots : Array Constant
  deriving DecidableEq, Repr

/-- How the payload behind a tag is laid out. -/
inductive Layout where
  | text
  | classRef
  /-- A payload of `size` bytes for one slot. -/
  | skip (size : Nat)
  /-- Eight bytes for two slots. -/
  | wide
  deriving DecidableEq, Repr

def layout? (tag : Nat) : Option Layout :=
  match tag with
  | 1 => some .text
  | 7 => some .classRef
  | 8 | 16 | 19 | 20 => some (.skip 2)
  | 15 => some (.skip 3)
  | 3 | 4 | 9 | 10 | 11 | 12 | 17 | 18 => some (.skip 4)
  | 5 | 6 => some .wide
  | _ => none

/-- Reads constants into the `free` slots that are left. -/
def readSlots : (free : Nat) → Array Constant → Reading (Array Constant)
  | 0, slots => pure slots
  | free + 1, slots => do
    let tag ← number 1
    match layout? tag with
    | none => throw (.unknownTag tag slots.size)
    | some .text =>
      let bytes ← take (← number 2)
      readSlots free (slots.push (.text bytes))
    | some .classRef =>
      let nameIndex ← number 2
      readSlots free (slots.push (.classRef nameIndex))
    | some (.skip size) =>
      let _ ← take size
      readSlots free (slots.push .other)
    | some .wide =>
      let _ ← take 8
      match free with
      | 0 => throw (.overrun slots.size)
      | free + 1 => readSlots free ((slots.push .other).push .unusable)

def readPool : Reading Pool := do
  match ← number 2 with
  | 0 => throw .emptyPool
  | free + 1 => return ⟨← readSlots free #[.unusable]⟩

/-- The bytes of the name of the class in slot `index`. -/
def Pool.nameBytes (pool : Pool) (index : Nat) : Except Fault (List UInt8) :=
  match pool.slots[index]? with
  | some (.classRef nameIndex) =>
    match pool.slots[nameIndex]? with
    | some (.text bytes) => .ok bytes
    | _ => .error (.notText nameIndex)
  | _ => .error (.notClass index)

/-- The binary name of the class in slot `index`. -/
def Pool.className (pool : Pool) (index : Nat) : Except Fault String :=
  (pool.nameBytes index).map fun bytes =>
    String.ofList (dotted (ModifiedUtf8.decode bytes).toList)

end DriverClasses.ClassFile
