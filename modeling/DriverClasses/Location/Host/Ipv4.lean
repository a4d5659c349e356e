import DriverClasses.Text.Digit
import DriverClasses.Text.Pieces

/-!
# IPv4 addresses in host position

An address has one to four parts, in decimal, in octal behind a `0` or in hexadecimal behind `0x`.
The last part fills all the bytes that the others leave.  A host whose last part is a number has to
be an address.
-/

namespace DriverClasses.Location.Host

open DriverClasses.Text

/-- The digits of a part without the sign of their base, and the base. -/
def partBase : List Char → List Char × Nat
  | '0' :: 'x' :: r => (r, 16)
  | '0' :: 'X' :: r => (r, 16)
  | '0' :: d :: r => (d :: r, 8)
  | s => (s, 10)

def digitIn? (base : Nat) (c : Char) : Option Nat := (hexDigit? c).filter (· < base)

/-- The number that a part writes.  `0x` alone is zero. -/
def partNumber? (s : List Char) : Option Nat :=
  if s.isEmpty then none
  else
    let (digits, base) := partBase s
    digits.foldlM (fun n c => (digitIn? base c).map (n * base + ·)) 0

/-- The parts of a host, but for an empty one at the end. -/
def parts (host : List Char) : List (List Char) :=
  let ps := pieces '.' host
  if ps.getLast? = some [] then ps.dropLast else ps

def endsInNumber (host : List Char) : Bool :=
  match (parts host).getLast? with
  | none => false
  | some last => !last.isEmpty && (last.all Char.isDigit || (partNumber? last).isSome)

/-- The address that a host writes, as one number of 32 bits. -/
def ipv4? (host : List Char) : Option Nat := do
  let ps := parts host
  if ps.length > 4 then none
  else
    let numbers ← ps.mapM partNumber?
    let last ← numbers.getLast?
    let leading := numbers.dropLast
    if leading.any (· > 255) || last ≥ Nat.pow 256 (4 - leading.length) then none
    else
      let high := leading.foldl (fun n p => n * 256 + p) 0
      return high * Nat.pow 256 (4 - leading.length) + last

/-- The address in dotted decimal. -/
def ipv4Text (n : Nat) : String :=
  s!"{n / 16777216}.{n / 65536 % 256}.{n / 256 % 256}.{n % 256}"

end DriverClasses.Location.Host
