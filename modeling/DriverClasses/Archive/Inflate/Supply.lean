/-!
# Compressed data at hand

Compressed data comes in pieces.  A `Supply` is the data with the number of bytes that have come so
far; reading from it either succeeds, or halts for want of more (`starved`), or halts for good.
-/

namespace DriverClasses.Archive.Inflate

structure Supply where
  data : Array UInt8
  /-- The number of bytes that have come. -/
  atHand : Nat

/-- Why inflating comes to a halt. -/
inductive Halt where
  /-- All blocks are read. -/
  | finished
  /-- The data at hand ends too early. -/
  | starved
  /-- There is no room for another byte. -/
  | full
  /-- The data breaks the format. -/
  | corrupt
  deriving DecidableEq, Repr

/-- Reading on from a position that counts bits. -/
abbrev Bits (α : Type) := StateT Nat (Except Halt) α

def takeBit (supply : Supply) : Bits Nat := fun position =>
  if position / 8 < supply.atHand then
    match supply.data[position / 8]? with
    | some b => .ok ((b.toNat >>> (position % 8)) % 2, position + 1)
    | none => .error .starved
  else .error .starved

/-- A number of `count` bits, least significant first. -/
def takeBits (supply : Supply) : (count : Nat) → Bits Nat
  | 0 => return 0
  | count + 1 => do
    let b ← takeBit supply
    let n ← takeBits supply count
    return b + 2 * n

/-- A whole byte; the position is where it starts. -/
def takeByte (supply : Supply) : Bits UInt8 := fun position =>
  if position / 8 < supply.atHand then
    match supply.data[position / 8]? with
    | some b => .ok (b, position + 8)
    | none => .error .starved
  else .error .starved

/-- Passes over the rest of a byte. -/
def alignToByte : Bits Unit := modify fun position => (position + 7) / 8 * 8

end DriverClasses.Archive.Inflate
