import DriverClasses.Text.Digit
import DriverClasses.Text.Pieces

/-!
# Tables of characters

What is known of characters is written down as text: numbers in base sixteen, set apart by blanks.

* `5d0-5ea` is a range, both ends included, and `5ef` a single character (`ranges`).
* `fb01=66+69` puts two characters in place of one, `132-133=69+6a` in place of either of two;
  `c0-d6:e0` replaces each character of a range by one that lies as far on from `e0`, and
  `100-12e/2:101` every second one (`replacements`).
-/

namespace DriverClasses.Text

/-- Whether one of the inclusive ranges holds `n`. -/
def inRanges (ranges : List (Nat × Nat)) (n : Nat) : Bool :=
  ranges.any fun r => r.1 ≤ n && n ≤ r.2

/-- The characters that stand in place of others. -/
structure Replacement where
  first : Nat
  last : Nat
  /-- How far the replaced characters lie apart. -/
  step : Nat
  /-- Whether the target moves on with the character. -/
  moves : Bool
  target : List Nat
  deriving DecidableEq, Repr

/-- What is put in place of `n`. -/
def Replacement.target? (r : Replacement) (n : Nat) : Option (List Nat) :=
  if r.first ≤ n ∧ n ≤ r.last ∧ (n - r.first) % r.step = 0 then
    some (if r.moves then r.target.map (· + (n - r.first)) else r.target)
  else none

def words (lines : List String) : List (List Char) :=
  lines.flatMap fun line => pieces ' ' line.toList

def rangeOf (s : List Char) : Nat × Nat :=
  match cut '-' s with
  | some (a, b) => (natOfDigits 16 a, natOfDigits 16 b)
  | none => (natOfDigits 16 s, natOfDigits 16 s)

def ranges (lines : List String) : List (Nat × Nat) := (words lines).map rangeOf

def replacementOf (s : List Char) : Replacement :=
  let moving := cut ':' s
  let (source, target) := (moving <|> cut '=' s).getD (s, [])
  let (range, step) :=
    match cut '/' source with
    | some (range, step) => (rangeOf range, natOfDigits 16 step)
    | none => (rangeOf source, 1)
  { first := range.1, last := range.2, step, moves := moving.isSome
    target := (pieces '+' target).map (natOfDigits 16) }

def replacements (lines : List String) : List Replacement := (words lines).map replacementOf

/-- What the first of the replacements that knows `c` puts in its place. -/
def replaced? (table : List Replacement) (c : Char) : Option (List Char) :=
  (table.findSome? (·.target? c.toNat)).map (·.map Char.ofNat)

end DriverClasses.Text
