/-!
# Text constants of a class file

A class file writes text in a variant of UTF-8: NUL as `C0 80`, and a supplementary character as a
pair of surrogates of three bytes each.  Reading is lenient.  It takes one-, two- and three-byte
groups to UTF-16 units, the four-byte form of ordinary UTF-8 to the units of its scalar, and each
byte that begins no group to U+FFFD; then it pairs the surrogates, and one without its partner is
U+FFFD too.
-/

namespace DriverClasses.ClassFile.ModifiedUtf8

/-- The unit that stands for what cannot be read. -/
def replacement : Nat := 0xFFFD

def isContinuation (b : UInt8) : Bool := 0x80 ≤ b.toNat && b.toNat < 0xC0

/-- The six bits that a continuation byte carries. -/
def lowBits (b : UInt8) : Nat := b.toNat % 64

/-- Surrogates aside, every value up to 10FFFF is a character. -/
def isScalar (n : Nat) : Bool := n < 0xD800 || (0xDFFF < n && n < 0x110000)

/-- The UTF-16 units of a scalar. -/
def unitsOfScalar (n : Nat) : List Nat :=
  if n < 0x10000 then [n] else [0xD800 + (n - 0x10000) / 0x400, 0xDC00 + (n - 0x10000) % 0x400]

/-- The units of the group that starts with byte `a`, and how many bytes follow it there. -/
def group (a : UInt8) (r : List UInt8) : List Nat × Nat :=
  let n := a.toNat
  if n < 0x80 then ([n], 0)
  else
    match r with
    | b :: r' =>
      if 0xC0 ≤ n && n < 0xE0 && isContinuation b then ([n % 32 * 64 + lowBits b], 1)
      else
        match r' with
        | c :: r'' =>
          if 0xE0 ≤ n && n < 0xF0 && isContinuation b && isContinuation c then
            ([n % 16 * 4096 + lowBits b * 64 + lowBits c], 2)
          else
            match r'' with
            | d :: _ =>
              if 0xF0 ≤ n && n < 0xF8 && isContinuation b && isContinuation c
                  && isContinuation d then
                let value := n % 8 * 262144 + lowBits b * 4096 + lowBits c * 64 + lowBits d
                (if isScalar value then unitsOfScalar value else [replacement], 3)
              else ([replacement], 0)
            | [] => ([replacement], 0)
        | [] => ([replacement], 0)
    | [] => ([replacement], 0)

/-- The units of the bytes, the first `skip` of which belong to a group already read. -/
def units : (skip : Nat) → List UInt8 → List Nat
  | _, [] => []
  | skip + 1, _ :: r => units skip r
  | 0, a :: r =>
    let (us, used) := group a r
    us ++ units used r

def isHighSurrogate (u : Nat) : Bool := 0xD800 ≤ u && u < 0xDC00

def isLowSurrogate (u : Nat) : Bool := 0xDC00 ≤ u && u < 0xE000

/-- The character of a unit that has no partner. -/
def lone (u : Nat) : Char :=
  if isHighSurrogate u || isLowSurrogate u then Char.ofNat replacement else Char.ofNat u

/-- The character of a high and a low surrogate. -/
def pair (u v : Nat) : Char := Char.ofNat (0x10000 + (u - 0xD800) * 0x400 + (v - 0xDC00))

/-- The characters of UTF-16 units. -/
def chars : List Nat → List Char
  | [] => []
  | [u] => [lone u]
  | u :: v :: r =>
    if isHighSurrogate u && isLowSurrogate v then pair u v :: chars r else lone u :: chars (v :: r)

def decode (bytes : List UInt8) : String := String.ofList (chars (units 0 bytes))

end DriverClasses.ClassFile.ModifiedUtf8
