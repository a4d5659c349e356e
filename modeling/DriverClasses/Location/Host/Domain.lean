import DriverClasses.Location.Host.Direction
import DriverClasses.Location.Host.Joiner
import DriverClasses.Location.Host.Mapping
import DriverClasses.Location.Host.Punycode
import DriverClasses.Text.Composed

/-!
# Domain names in host position

A domain is taken character by character for what it stands for, brought into its composed form, and
then read label by label.  A label with characters above ASCII is written in Punycode behind `xn--`;
a label that already starts with `xn--` has to be such a form of a label that stands for itself.
-/

namespace DriverClasses.Location.Host

open DriverClasses.Text

/-- ASCII characters that no domain may hold. -/
def isForbidden (c : Char) : Bool :=
  c.toNat ≤ 0x20 || c.toNat == 0x7F || "%#/:<>?@[\\]^|".toList.contains c

/-- The composed form of what a text stands for, if a domain may hold all of it. -/
def plainForm? (s : List Char) : Option (List Char) := do
  let plain := composed (← s.mapM substitute?).flatten
  if plain.any isForbidden then none else return plain

def isAscii (s : List Char) : Bool := s.all (·.toNat < 128)

def encodedMark : List Char := "xn--".toList

/-- The most characters that a label in Punycode, or one that is to be put into it, may have. -/
def longestEncoded : Nat := 2000
def longestPlain : Nat := 1000

/-- The label that `code` is the Punycode of. -/
def ofPunycode? (code : List Char) : Option (List Char) :=
  if longestEncoded < code.length then none
  else
    (Punycode.decode? code).filter fun label =>
      !isAscii label && !encodedMark.isPrefixOf label && plainForm? label == some label

/-- A label before it is written in ASCII, and how it is written. -/
structure Label where
  plain : List Char
  ascii : List Char
  deriving DecidableEq, Repr

def Label.ofText? (s : List Char) : Option Label :=
  if isAscii s then
    if encodedMark.isPrefixOf s then
      (ofPunycode? (s.drop encodedMark.length)).map fun plain => { plain, ascii := s }
    else some { plain := s, ascii := s }
  else if encodedMark.isPrefixOf s || longestPlain < s.length then none
  else some { plain := s, ascii := encodedMark ++ Punycode.encode s }

/-- Whether a label starts with a mark, or has a joiner where it joins nothing. -/
def Label.isFaulty (label : Label) : Bool :=
  label.plain.head?.any isMark || !hasFairJoiners [] label.plain

def domainToAscii (s : List Char) : Option (List Char) := do
  let labels ← (pieces '.' (← plainForm? s)).mapM Label.ofText?
  if labels.any Label.isFaulty || !hasFairDirections (labels.map Label.plain) then none
  else return join '.' (labels.map Label.ascii)

end DriverClasses.Location.Host
