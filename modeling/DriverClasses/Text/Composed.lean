import DriverClasses.Text.Decomposition
import DriverClasses.Text.Mark

/-!
# The composed form of a text

Texts that read the same may be written with marks of their own or with characters that have the
marks in them, and with marks in any order.  `composed` gives all of them one form: everything is
taken apart, neighbouring marks are put in the order of their ranks, and what belongs together is
put together again.
-/

namespace DriverClasses.Text

/-- The parts of a character, and theirs, as deep as `depth`. -/
def takeApart : (depth : Nat) → Char → List Char
  | 0, c => [c]
  | depth + 1, c =>
    match parts? c with
    | none => [c]
    | some cs => cs.flatMap (takeApart depth)

/-- No part of a part of a part can be taken apart. -/
def deepestPart : Nat := 3

def decomposed (s : List Char) : List Char := s.flatMap (takeApart deepestPart)

/-- Puts a mark behind those of lower rank that follow it. -/
def sink (c : Char) : List Char → List Char
  | [] => [c]
  | d :: r => if 0 < rank d ∧ rank d < rank c then d :: sink c r else c :: d :: r

/-- The text with neighbouring marks in the order of their ranks. -/
def ranked (s : List Char) : List Char := s.foldr sink []

/-- Puts together what belongs to `base`.  `marks` are those that stay beside it; they keep the
following ones from it unless these have a higher rank. -/
def composeOnto (base : Char) : (marks : List Char) → List Char → List Char
  | marks, [] => base :: marks
  | marks, c :: r =>
    match if marks.getLast?.all (rank · < rank c) then whole? base c else none with
    | some w => composeOnto w marks r
    | none =>
      if rank c = 0 then base :: marks ++ composeOnto c [] r
      else composeOnto base (marks ++ [c]) r

/-- Puts a text together whose marks are in order. -/
def compose : List Char → List Char
  | [] => []
  | c :: r => if rank c = 0 then composeOnto c [] r else c :: compose r

def composed (s : List Char) : List Char := compose (ranked (decomposed s))

end DriverClasses.Text
