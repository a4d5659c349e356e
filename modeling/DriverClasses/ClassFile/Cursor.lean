/-!
# Reading big-endian fields, and what can be wrong with them

`Fault` lists the causes for which the bytes of a class file are refused, by the reader and by the
checks made when a class is linked; `Fault.message` is their wording.

A `Cursor` is what is left of the bytes and how many were taken before it.  A `Reading` takes
fields off its front, and fails with the offset at which the field that does not fit starts.
-/

namespace DriverClasses.ClassFile

/-- The oldest major version that is accepted. -/
def oldestMajor : Nat := 45

inductive Fault where
  | badMagic (found : Nat)
  /-- The bytes end inside the field that starts at `offset`. -/
  | truncated (offset : Nat)
  | emptyPool
  /-- An eight-byte constant in the last slot has no second slot. -/
  | overrun (index : Nat)
  | unknownTag (tag index : Nat)
  | notClass (index : Nat)
  | notText (index : Nat)
  | unsupportedVersion (major minor newest : Nat)
  | nameMismatch (declared expected : String)
  | missingInterface (name : String)
  deriving DecidableEq, Repr

/-- The hexadecimal digits of `n`, in capitals, at least `width` of them. -/
def hexDigits (width n : Nat) : String :=
  let ds := (Nat.toDigits 16 n).map Char.toUpper
  String.ofList (List.replicate (width - ds.length) '0' ++ ds)

def Fault.message : Fault → String
  | badMagic found => "bad magic number 0x" ++ hexDigits 8 found
  | truncated offset => s!"truncated class file at offset {offset}"
  | emptyPool => "invalid constant pool: constant pool count is zero"
  | overrun index => s!"invalid constant pool: 8-byte constant at index {index} overruns the pool"
  | unknownTag tag index => s!"invalid constant pool: unknown tag {tag} at index {index}"
  | notClass index => s!"invalid constant pool: index {index} is not a class constant"
  | notText index => s!"invalid constant pool: index {index} is not a UTF-8 constant"
  | unsupportedVersion major minor newest =>
    s!"unsupported class file version {major}.{minor} (supported {oldestMajor}..={newest})"
  | nameMismatch declared expected => s!"entry declares class {declared}, expected {expected}"
  | missingInterface name => s!"class does not implement {name}"

structure Cursor where
  offset : Nat
  rest : List UInt8
  deriving DecidableEq, Repr

abbrev Reading := StateT Cursor (Except Fault)

/-- The first `n` bytes and the others, unless there are fewer than `n`. -/
def splitExactly : Nat → List UInt8 → Option (List UInt8 × List UInt8)
  | 0, bs => some ([], bs)
  | _ + 1, [] => none
  | n + 1, b :: bs => (splitExactly n bs).map fun (x, y) => (b :: x, y)

def take (n : Nat) : Reading (List UInt8) := fun c =>
  match splitExactly n c.rest with
  | some (field, rest) => .ok (field, ⟨c.offset + n, rest⟩)
  | none => .error (.truncated c.offset)

/-- The value of bytes written most significant first. -/
def bigEndian (bytes : List UInt8) : Nat := bytes.foldl (fun n b => n * 256 + b.toNat) 0

/-- A number of `width` bytes. -/
def number (width : Nat) : Reading Nat := bigEndian <$> take width

theorem splitExactly_eq (n : Nat) (bs : List UInt8) :
    splitExactly n bs = if n ≤ bs.length then some (bs.take n, bs.drop n) else none := by
  induction n generalizing bs with
  | zero => simp [splitExactly]
  | succ n ih =>
    cases bs with
    | nil => simp [splitExactly]
    | cons b bs =>
      by_cases h : n ≤ bs.length <;> simp [splitExactly, ih, h]

end DriverClasses.ClassFile
