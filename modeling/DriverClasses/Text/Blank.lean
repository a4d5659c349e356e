/-!
# Blank characters and trimming

`isBlank` is the Unicode property `White_Space`: twenty-five characters, of which ASCII has six.
`trim` drops them from both ends of a text, and a text is *blank* when
nothing is left.  Trimming is done once and for all: `trim_trim`.
-/

namespace DriverClasses.Text

/-- The characters with the Unicode property `White_Space`. -/
def isBlank (c : Char) : Bool :=
  let n := c.toNat
  (0x09 ≤ n && n ≤ 0x0D) || n == 0x20 || n == 0x85 || n == 0xA0 || n == 0x1680
    || (0x2000 ≤ n && n ≤ 0x200A) || n == 0x2028 || n == 0x2029 || n == 0x202F
    || n == 0x205F || n == 0x3000

def trimStart (s : List Char) : List Char := s.dropWhile isBlank

def trimEnd (s : List Char) : List Char := (s.reverse.dropWhile isBlank).reverse

def trimChars (s : List Char) : List Char := trimEnd (trimStart s)

def trim (s : String) : String := String.ofList (trimChars s.toList)

/-- The trimmed text, unless it is empty. -/
def nonBlank? (s : String) : Option String :=
  let t := trim s
  if t.isEmpty then none else some t

theorem trimEnd_append_singleton (s : List Char) {c : Char} (h : isBlank c = false) :
    trimEnd (s ++ [c]) = s ++ [c] := by
  simp [trimEnd, h]

/-- What is left of a text after its leading blanks starts with no blank. -/
theorem trimStart_head {s : List Char} {c : Char} (h : (trimStart s).head? = some c) :
    isBlank c = false := by
  have hd := List.head?_dropWhile_not isBlank s
  unfold trimStart at h
  rw [h] at hd
  simpa using hd

theorem trimStart_trimStart (s : List Char) : trimStart (trimStart s) = trimStart s := by
  cases h : trimStart s with
  | nil => rfl
  | cons c r =>
    have hc : isBlank c = false := trimStart_head (by rw [h]; rfl)
    simp [trimStart, hc]

theorem trimEnd_eq (s : List Char) : trimEnd s = (trimStart s.reverse).reverse := rfl

theorem trimEnd_trimEnd (s : List Char) : trimEnd (trimEnd s) = trimEnd s := by
  simp [trimEnd_eq, trimStart_trimStart]

/-- Trimming the end keeps the first character, unless nothing is left. -/
theorem trimEnd_cons {c : Char} (r : List Char) (h : isBlank c = false) :
    trimEnd (c :: r) = c :: trimEnd r := by
  unfold trimEnd
  rw [List.reverse_cons, List.dropWhile_append]
  by_cases hr : (r.reverse.dropWhile isBlank).isEmpty
  · simp_all
  · simp [hr]

theorem trimChars_trimChars (s : List Char) : trimChars (trimChars s) = trimChars s := by
  unfold trimChars
  cases h : trimStart s with
  | nil => rfl
  | cons c r =>
    have hc : isBlank c = false := trimStart_head (by rw [h]; rfl)
    rw [trimEnd_cons r hc]
    have hs : trimStart (c :: trimEnd r) = c :: trimEnd r := by simp [trimStart, hc]
    rw [hs, trimEnd_cons _ hc, trimEnd_trimEnd]

theorem trim_trim (s : String) : trim (trim s) = trim s := by
  simp [trim, trimChars_trimChars]

end DriverClasses.Text
