import DriverClasses.ClassFile.Pool

/-!
# The header of a class file

`Header.read?` takes the header off the front of a file and leaves the rest unread: magic number,
version, constant pool, access flags and the names of the class, its superclass and the interfaces
that it declares.  Fields are taken in file order, and names are looked up as soon as the indices
allow, interfaces first.
-/

namespace DriverClasses.ClassFile

structure Header where
  name : String
  superName : Option String
  interfaces : List String
  major : Nat
  minor : Nat
  access : Nat
  deriving DecidableEq, Repr

def magic : Nat := 0xCAFEBABE

/-- The names behind the next `count` indices. -/
def readNames (pool : Pool) : (count : Nat) → Reading (List String)
  | 0 => pure []
  | count + 1 => do
    let name ← pool.className (← number 2)
    return name :: (← readNames pool count)

def readHeader : Reading Header := do
  let found ← number 4
  if found ≠ magic then throw (.badMagic found)
  let minor ← number 2
  let major ← number 2
  let pool ← readPool
  let access ← number 2
  let thisIndex ← number 2
  let superIndex ← number 2
  let interfaces ← readNames pool (← number 2)
  let name ← pool.className thisIndex
  let superName ← if superIndex = 0 then pure none else some <$> pool.className superIndex
  return { name, superName, interfaces, major, minor, access }

def Header.read? (bytes : List UInt8) : Except Fault Header :=
  (readHeader.run ⟨0, bytes⟩).map (·.1)

end DriverClasses.ClassFile
