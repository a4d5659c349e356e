import DriverClasses.Settings.Document.Scan
import DriverClasses.Settings.Document.Value
import DriverClasses.Text.Digit

/-!
# Settings documents: numbers

Integers have 64 bits and are written in base ten, or without a sign in base sixteen, eight or two.
Between two digits one low line may stand.  Floats keep the text that they were written as; one too
large to be a double is refused.
-/

namespace DriverClasses.Settings.Document

open DriverClasses.Text

/-- Digits, with low lines left out, that go on a number. -/
def moreDigits (isDigit : Char → Bool) : List Char → List Char × List Char
  | [] => ([], [])
  | [c] => if isDigit c then ([c], []) else ([], [c])
  | c :: d :: r =>
    if isDigit c then
      let (digits, rest) := moreDigits isDigit (d :: r)
      (c :: digits, rest)
    else if c = '_' ∧ isDigit d then
      let (digits, rest) := moreDigits isDigit r
      (d :: digits, rest)
    else ([], c :: d :: r)

/-- One digit or more. -/
def digits (isDigit : Char → Bool) : Reader (List Char)
  | c :: r =>
    if isDigit c then
      let (more, rest) := moreDigits isDigit r
      some (c :: more, rest)
    else none
  | [] => none

/-- A sign, if there is one: whether it is a minus. -/
def sign : List Char → Bool × List Char
  | '-' :: r => (true, r)
  | '+' :: r => (false, r)
  | s => (false, s)

/-- Decimal digits that do not begin with a zero, or a zero alone. -/
def plainDigits : Reader (List Char)
  | '0' :: r => some (['0'], r)
  | s => digits isDecimalDigit s

/-- The least and the largest integer are those of 64 bits. -/
def inRange (n : Int) : Bool := Int64.minValue.toInt ≤ n && n ≤ Int64.maxValue.toInt

def decimalInteger : Reader Int := fun s => do
  let (negative, r) := sign s
  let (ds, r) ← plainDigits r
  let n : Int := natOfDigits 10 ds
  let n := if negative then -n else n
  if inRange n then return (n, r) else none

/-- The digits of a base, behind its mark. -/
def integerIn (base : Nat) (isDigit : Char → Bool) : Reader Int := fun s => do
  let (ds, r) ← digits isDigit s
  let n : Int := natOfDigits base ds
  if inRange n then return (n, r) else none

def integer : Reader Int
  | '0' :: 'x' :: r => integerIn 16 isHexDigit r
  | '0' :: 'o' :: r => integerIn 8 (fun c => '0' ≤ c && c ≤ '7') r
  | '0' :: 'b' :: r => integerIn 2 (fun c => c == '0' || c == '1') r
  | s => decimalInteger s

/-- The digits behind a point. -/
def fraction : Reader (List Char)
  | '.' :: r => digits isDecimalDigit r
  | _ => none

def exponent : Reader Int
  | c :: r =>
    if c = 'e' ∨ c = 'E' then do
      let (negative, r) := sign r
      let (ds, r) ← digits isDecimalDigit r
      let n : Int := natOfDigits 10 ds
      return (if negative then -n else n, r)
    else none
  | [] => none

/-- Half a unit in the last place above the largest double: from here on decimals read as
infinite. -/
def doubleLimit : Nat := Nat.pow 2 1024 - Nat.pow 2 970

/-- Whether these digits, times a power of ten, are too large for a double. -/
def overflows (ds : List Char) (power : Int) : Bool :=
  let n := natOfDigits 10 ds
  let magnitude : Int := (Nat.toDigits 10 n).length + power
  if n = 0 || magnitude < 309 then false
  else if 310 ≤ magnitude then true
  else if 0 ≤ power then doubleLimit ≤ n * Nat.pow 10 power.toNat
  else doubleLimit * Nat.pow 10 (-power).toNat ≤ n

/-- What stands behind the whole part of a float: its fraction and its exponent, one of them at
least. -/
def floatTail : Reader (List Char × Int) := fun s =>
  match exponent s with
  | some (e, r) => some (([], e), r)
  | none => do
    let (places, r) ← fraction s
    match exponent r with
    | some (e, r) => return ((places, e), r)
    | none => return ((places, 0), r)

/-- The text between a place and a later one. -/
def textBetween (s rest : List Char) : String := String.ofList (s.take (s.length - rest.length))

def finiteFloat : Reader Value := fun s => do
  let (negative, r) := sign s
  let (whole, r) ← plainDigits r
  let ((places, e), r) ← floatTail r
  if !negative && overflows (whole ++ places) (e - places.length) then none
  else return (.float (textBetween s r), r)

/-- The floats that are no numbers of any size. -/
def specialFloat : Reader Value := fun s => do
  let (_, r) := sign s
  let r ← afterText? ['i', 'n', 'f'] r <|> afterText? ['n', 'a', 'n'] r
  return (.float (textBetween s r), r)

def float : Reader Value := fun s => finiteFloat s <|> specialFloat s

end DriverClasses.Settings.Document
