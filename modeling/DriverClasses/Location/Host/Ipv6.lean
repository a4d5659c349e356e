import DriverClasses.Location.Host.Ipv4

/-!
# IPv6 addresses in host position

An address is eight pieces of sixteen bits in hexadecimal, one run of zero pieces written `::`, the
last two pieces perhaps as an IPv4 address in dotted decimal.  It is written back in its canonical
form: lower case, without leading zeros, `::` for the first of the longest runs of two zeros or
more.
-/

namespace DriverClasses.Location.Host

open DriverClasses.Text

/-- One piece: one to four hexadecimal digits. -/
def piece? (s : List Char) : Option Nat :=
  if s.isEmpty || s.length > 4 then none
  else s.foldlM (fun n c => (digitIn? 16 c).map (n * 16 + ·)) 0

/-- One byte of a dotted address: decimal, without leading zeros. -/
def octet? (s : List Char) : Option Nat :=
  match s with
  | [] => none
  | '0' :: _ :: _ => none
  | _ =>
    if s.length > 3 || !s.all Char.isDigit then none
    else
      let n := natOfDigits 10 s
      if n < 256 then some n else none

def dottedPieces? (s : List Char) : Option (List Nat) :=
  match (pieces '.' s).mapM octet? with
  | some [a, b, c, d] => some [a * 256 + b, c * 256 + d]
  | _ => none

/-- The pieces between colons; the last one may be a dotted address. -/
def pieceRun? : List (List Char) → Option (List Nat)
  | [] => some []
  | [s] => (dottedPieces? s) <|> (piece? s).map ([·])
  | s :: r => do return (← piece? s) :: (← pieceRun? r)

def pieceList? (s : List Char) : Option (List Nat) :=
  if s.isEmpty then some [] else pieceRun? (pieces ':' s)

/-- What stands before and after the first `::`. -/
def cutRun : List Char → Option (List Char × List Char)
  | ':' :: ':' :: r => some ([], r)
  | c :: r => (cutRun r).map fun (a, b) => (c :: a, b)
  | [] => none

def ipv6? (s : List Char) : Option (List Nat) :=
  match cutRun s with
  | none => do
    let ps ← pieceList? s
    if ps.length = 8 then some ps else none
  | some (before, after) => do
    let head ← if before.contains '.' then none else pieceList? before
    let tail ← pieceList? after
    if head.length + tail.length ≤ 7 then
      some (head ++ List.replicate (8 - head.length - tail.length) 0 ++ tail)
    else none

/-- Where the first of the longest runs of zeros starts, and how long it is. -/
def longestRun : (index : Nat) → List Nat → Nat × Nat
  | _, [] => (0, 0)
  | index, p :: ps =>
    let here := ((p :: ps).takeWhile (· = 0)).length
    let later := longestRun (index + 1) ps
    if later.2 > here then later else (index, here)

def pieceText (n : Nat) : String := String.ofList (Nat.toDigits 16 n)

def ipv6Text (ps : List Nat) : String :=
  let (start, size) := longestRun 0 ps
  let text (qs : List Nat) : String := ":".intercalate (qs.map pieceText)
  if size < 2 then "[" ++ text ps ++ "]"
  else "[" ++ text (ps.take start) ++ "::" ++ text (ps.drop (start + size)) ++ "]"

end DriverClasses.Location.Host
