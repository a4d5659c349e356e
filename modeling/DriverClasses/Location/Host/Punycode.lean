/-!
# Punycode

The form in which a label with characters above ASCII is written in ASCII.  The ASCII characters of
the label come first; behind them stand the others, in ascending order, as numbers of variable
length that tell how far on the next one is inserted.
-/

namespace DriverClasses.Location.Host.Punycode

/-- The threshold of the digit in position `k`. -/
def threshold (k bias : Nat) : Nat :=
  if k ≤ bias then 1 else if k ≥ bias + 26 then 26 else k - bias

theorem threshold_pos (k bias : Nat) : 1 ≤ threshold k bias := by
  unfold threshold
  split
  · omega
  · split <;> omega

theorem threshold_le (k bias : Nat) : threshold k bias ≤ 26 := by
  unfold threshold
  split
  · omega
  · split <;> omega

def digitChar (n : Nat) : Char := Char.ofNat (if n < 26 then n + 97 else n + 22)

def digitValue? (c : Char) : Option Nat :=
  if c.isLower then some (c.toNat - 97)
  else if c.isUpper then some (c.toNat - 65)
  else if c.isDigit then some (c.toNat - 22)
  else none

/-- The digits of a number, least significant first. -/
def digits (q k bias : Nat) : List Char :=
  let t := threshold k bias
  if h : q < t then [digitChar q]
  else
    have : (q - t) / (36 - t) < q := by
      have h1 := threshold_pos k bias
      have h2 := threshold_le k bias
      exact Nat.lt_of_le_of_lt (Nat.div_le_self _ _) (by omega)
    digitChar (t + (q - t) % (36 - t)) :: digits ((q - t) / (36 - t)) (k + 36) bias
  termination_by q

/-- The bias that a large delta leaves behind. -/
def settle (delta k : Nat) : Nat :=
  if h : delta > 455 then
    have : delta / 35 < delta := Nat.div_lt_self (by omega) (by omega)
    settle (delta / 35) (k + 36)
  else k + 36 * delta / (delta + 38)
  termination_by delta

def adapt (delta count : Nat) (isFirst : Bool) : Nat :=
  let delta := if isFirst then delta / 700 else delta / 2
  settle (delta + delta / count) 0

structure Progress where
  /-- The number of characters written so far. -/
  handled : Nat
  delta : Nat
  bias : Nat
  out : List Char

/-- Passes over a character, or writes where it stands if it is the code point `n`. -/
def Progress.visit (basic n : Nat) (p : Progress) (c : Char) : Progress :=
  if c.toNat < n then { p with delta := p.delta + 1 }
  else if c.toNat = n then
    { handled := p.handled + 1, delta := 0
      bias := adapt p.delta (p.handled + 1) (p.handled == basic)
      out := p.out ++ digits p.delta 36 p.bias }
  else p

/-- Writes each code point of an ascending list, the last one written being `before - 1`. -/
def encodeFrom (label : List Char) (basic : Nat) : (before : Nat) → List Nat → Progress → Progress
  | _, [], p => p
  | before, n :: ns, p =>
    let start := { p with delta := p.delta + (n - before) * (p.handled + 1) }
    let passed := label.foldl (Progress.visit basic n) start
    encodeFrom label basic (n + 1) ns { passed with delta := passed.delta + 1 }

/-- The code points above ASCII, each once, in ascending order. -/
def extended (label : List Char) : List Nat :=
  (((label.map Char.toNat).filter (· ≥ 128)).eraseDups).mergeSort

def encode (label : List Char) : List Char :=
  let basic := label.filter (·.toNat < 128)
  let lead := if basic.isEmpty then [] else basic ++ ['-']
  let n := basic.length
  lead ++ (encodeFrom label n 128 (extended label) ⟨n, 0, 72, []⟩).out

/-- Numbers are of 32 bits. -/
def numberBound : Nat := UInt32.size

/-- Reads one number onto `i`. -/
def readNumber : List Char → (i weight k bias : Nat) → Option (Nat × List Char)
  | [], _, _, _, _ => none
  | c :: r, i, weight, k, bias => do
    let d ← digitValue? c
    let i := i + d * weight
    let t := threshold k bias
    if numberBound ≤ i then none
    else if d < t then return (i, r)
    else if numberBound ≤ weight * (36 - t) then none
    else readNumber r i (weight * (36 - t)) (k + 36) bias

/-- Inserts the characters that the numbers of `s` tell of; no character takes more than `fuel`. -/
def decodeFrom : (fuel : Nat) → List Char → (n i bias : Nat) → List Char → Option (List Char)
  | _, [], _, _, _, out => some out
  | 0, _, _, _, _, _ => none
  | fuel + 1, s, n, i, bias, out => do
    let (j, r) ← readNumber s i 1 36 bias
    let size := out.length + 1
    let n := n + j / size
    let place := j % size
    if n ≥ 0x110000 || (0xD800 ≤ n && n < 0xE000) then none
    else
      decodeFrom fuel r n (place + 1) (adapt (j - i) size (i == 0))
        (out.take place ++ Char.ofNat n :: out.drop place)

/-- The ASCII characters that stand in front of the last hyphen, and the numbers behind it.  A
hyphen at the very front parts nothing. -/
def leadAndNumbers (s : List Char) : List Char × List Char :=
  let numbers := (s.reverse.takeWhile (· ≠ '-')).reverse
  let lead := s.take (s.length - numbers.length - 1)
  if lead.isEmpty then ([], s) else (lead, numbers)

def decode? (s : List Char) : Option (List Char) :=
  let (lead, numbers) := leadAndNumbers s
  decodeFrom numbers.length numbers 128 0 72 lead

end DriverClasses.Location.Host.Punycode
