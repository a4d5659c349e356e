import DriverClasses.Text.Digit
import DriverClasses.Text.Encoding
import DriverClasses.Text.Pieces

/-!
# Schemes and escapes of URLs

`scheme?` cuts a text behind its URL scheme, if it starts with one.  A scheme has two characters at
least, so that the letter of a drive is none.

`percentDecode` turns every `%` with two hexadecimal digits into the byte that they name and all
else into UTF-8.  A `%` without two digits behind it stands for itself.
-/

namespace DriverClasses.Location

open DriverClasses.Text

/-- What may follow the first letter of a scheme. -/
def continuesScheme (c : Char) : Bool := c.isAlphanum || c == '+' || c == '-' || c == '.'

def isScheme : List Char → Bool
  | c :: d :: r => c.isAlpha && (d :: r).all continuesScheme
  | _ => false

/-- The scheme that `s` starts with, and what stands behind its colon. -/
def scheme? (s : List Char) : Option (List Char × List Char) :=
  match cut ':' s with
  | some (scheme, rest) => if isScheme scheme then some (scheme, rest) else none
  | none => none

def isFileScheme (scheme : List Char) : Bool := sameIgnoringCase scheme "file".toList

def isJarScheme (scheme : List Char) : Bool := sameIgnoringCase scheme "jar".toList

/-- The byte that the two characters behind a `%` name. -/
def escaped? : List Char → Option UInt8
  | a :: b :: _ =>
    match hexDigit? a, hexDigit? b with
    | some m, some n => some (UInt8.ofNat (m * 16 + n))
    | _, _ => none
  | _ => none

/-- Decodes a text, the first `skip` characters of which are the digits of an escape. -/
def percentDecodeFrom : (skip : Nat) → List Char → Bytes
  | _, [] => []
  | skip + 1, _ :: r => percentDecodeFrom skip r
  | 0, c :: r =>
    match (if c = '%' then escaped? r else none) with
    | some b => b :: percentDecodeFrom 2 r
    | none => String.utf8EncodeChar c ++ percentDecodeFrom 0 r

def percentDecode (s : List Char) : Bytes := percentDecodeFrom 0 s

end DriverClasses.Location
