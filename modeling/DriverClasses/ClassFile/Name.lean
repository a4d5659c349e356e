import DriverClasses.Text.Letter
import DriverClasses.Text.Pieces

/-!
# Binary class names and entry names

A *binary name* is a dotted sequence of identifiers, such as `org.example.Driver`.  Its class is
looked up under the *entry name*, the same segments with slashes between them and `.class` behind.
`undotted` and `dotted` are the two directions between the forms.
-/

namespace DriverClasses.ClassFile

open DriverClasses.Text

def startsIdentifier (c : Char) : Bool := isLetter c || c == '_' || c == '$'

def continuesIdentifier (c : Char) : Bool := isLetter c || isNumeral c || c == '_' || c == '$'

def isIdentifier : List Char → Bool
  | [] => false
  | c :: r => startsIdentifier c && r.all continuesIdentifier

/-- Whether `name` is a dotted sequence of one or more identifiers. -/
def isBinaryName (name : String) : Bool := (pieces '.' name.toList).all isIdentifier

def undotted (s : List Char) : List Char := replaceChar '.' '/' s

def dotted (s : List Char) : List Char := replaceChar '/' '.' s

/-- The entry that holds the class of this binary name. -/
def entryName (name : String) : String :=
  String.ofList (undotted name.toList ++ ".class".toList)

/-- An identifier has only letters, numerals, `_` and `$`. -/
theorem continuesIdentifier_of_mem {s : List Char} (h : isIdentifier s = true) {c : Char}
    (hc : c ∈ s) : continuesIdentifier c = true := by
  cases s with
  | nil => simp at hc
  | cons a r =>
    simp only [isIdentifier, Bool.and_eq_true, List.all_eq_true] at h
    rcases List.mem_cons.1 hc with rfl | hc
    · have hs := h.1
      simp only [startsIdentifier, Bool.or_eq_true] at hs
      rcases hs with (hs | hs) | hs <;> simp [continuesIdentifier, hs]
    · exact h.2 c hc

end DriverClasses.ClassFile
