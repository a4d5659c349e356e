/-!
# Digits and numbers

`hexDigit?` is the number that a digit in base sixteen stands for; letters count in either case.
`natOfDigits` is the number that digits of a base write.  `decimal?` reads a natural number from
decimal digits, which a plus may precede.
-/

namespace DriverClasses.Text

def hexDigit? (c : Char) : Option Nat :=
  if '0' ≤ c ∧ c ≤ '9' then some (c.toNat - '0'.toNat)
  else if 'a' ≤ c ∧ c ≤ 'f' then some (c.toNat - 'a'.toNat + 10)
  else if 'A' ≤ c ∧ c ≤ 'F' then some (c.toNat - 'A'.toNat + 10)
  else none

def isHexDigit (c : Char) : Bool := (hexDigit? c).isSome

def isDecimalDigit (c : Char) : Bool := '0' ≤ c && c ≤ '9'

/-- The number that digits of a base up to sixteen write. -/
def natOfDigits (base : Nat) (digits : List Char) : Nat :=
  digits.foldl (fun n c => n * base + (hexDigit? c).getD 0) 0

theorem toNat_le_of_le {a b : Char} (h : a ≤ b) : a.toNat ≤ b.toNat := by
  simpa [Char.le_def, UInt32.le_iff_toNat_le] using h

/-- A digit is less than its base. -/
theorem lt_of_hexDigit? {c : Char} {n : Nat} (h : hexDigit? c = some n) : n < 16 := by
  unfold hexDigit? at h
  split at h
  · rename_i hc
    have h1 := toNat_le_of_le hc.2
    simp at h h1
    omega
  · split at h
    · rename_i hc
      have h1 := toNat_le_of_le hc.2
      simp at h h1
      omega
    · split at h
      · rename_i hc
        have h1 := toNat_le_of_le hc.2
        simp at h h1
        omega
      · simp at h

/-- A text without a plus in front. -/
def dropPlus : List Char → List Char
  | '+' :: r => r
  | s => s

def decimal? (s : String) : Option Nat :=
  let digits := dropPlus s.toList
  if digits ≠ [] ∧ digits.all isDecimalDigit then some (natOfDigits 10 digits) else none

end DriverClasses.Text
