import DriverClasses.Settings.Document.Number

/-!
# Settings documents: dates and times

A moment is a date, a time, or a date and a time, which may then have an offset.  It keeps the text
that it was written as.
-/

namespace DriverClasses.Settings.Document

open DriverClasses.Text

/-- A number of exactly so many digits. -/
def fixedDigits (count : Nat) : Reader Nat := fun s =>
  let ds := s.take count
  if ds.length = count ∧ ds.all isDecimalDigit then some (natOfDigits 10 ds, s.drop count) else none

def fixedBetween (count low high : Nat) : Reader Nat := fun s => do
  let (n, r) ← fixedDigits count s
  if low ≤ n ∧ n ≤ high then return (n, r) else none

def isLeapYear (year : Nat) : Bool := year % 4 == 0 && (year % 100 != 0 || year % 400 == 0)

def daysOf (year month : Nat) : Nat :=
  match month with
  | 2 => if isLeapYear year then 29 else 28
  | 4 | 6 | 9 | 11 => 30
  | _ => 31

/-- The rest after a date. -/
def afterDate? (s : List Char) : Option (List Char) := do
  let (year, r) ← fixedDigits 4 s
  let (month, r) ← fixedBetween 2 1 12 (← after? '-' r)
  let (_, r) ← fixedBetween 2 1 (daysOf year month) (← after? '-' r)
  return r

/-- The rest after hours and minutes. -/
def afterClock? (s : List Char) : Option (List Char) := do
  let (_, r) ← fixedBetween 2 0 23 s
  let (_, r) ← fixedBetween 2 0 59 (← after? ':' r)
  return r

/-- The rest after a part of a second, if there is one. -/
def skipSecondPart : List Char → List Char
  | '.' :: c :: r => if isDecimalDigit c then r.dropWhile isDecimalDigit else '.' :: c :: r
  | s => s

def afterTime? (s : List Char) : Option (List Char) := do
  let r ← afterClock? s
  let (_, r) ← fixedBetween 2 0 60 (← after? ':' r)
  return skipSecondPart r

/-- The rest after an offset, if there is one. -/
def skipOffset (s : List Char) : List Char :=
  match s with
  | 'Z' :: r | 'z' :: r => r
  | '+' :: r | '-' :: r => (afterClock? r).getD s
  | _ => s

/-- The rest after the time that follows a date, if one does. -/
def skipTimeOfDate (s : List Char) : List Char :=
  match s with
  | c :: r =>
    if c = 'T' ∨ c = 't' ∨ c = ' ' then ((afterTime? r).map skipOffset).getD s else s
  | [] => []

def moment : Reader Value := fun s => do
  let r ← (afterDate? s).map skipTimeOfDate <|> afterTime? s
  return (.moment (textBetween s r), r)

end DriverClasses.Settings.Document
