/-!
# Settings documents: lines, blanks and comments

A `Reader` takes what it reads from the front of a text and leaves the rest.  Within a line only
spaces and tabs are blank; a comment runs to the end of its line; a line ends with a line feed,
which a carriage return may precede, or with the text.
-/

namespace DriverClasses.Settings.Document

abbrev Reader (α : Type) := List Char → Option (α × List Char)

def isBlankChar (c : Char) : Bool := c == ' ' || c == '\t'

def skipBlanks (s : List Char) : List Char := s.dropWhile isBlankChar

/-- The characters that stand for themselves in comments and quoted texts: all but the controls. -/
def isTextChar (c : Char) : Bool := c == '\t' || (0x20 ≤ c.toNat && c.toNat ≠ 0x7F)

/-- The rest after a line end. -/
def newline? : List Char → Option (List Char)
  | '\n' :: r => some r
  | '\r' :: '\n' :: r => some r
  | _ => none

/-- The rest after a comment, if there is one. -/
def skipComment : List Char → List Char
  | '#' :: r => r.dropWhile isTextChar
  | s => s

/-- The rest after a line on which only blanks and a comment are left. -/
def endLine? (s : List Char) : Option (List Char) :=
  match skipComment (skipBlanks s) with
  | [] => some []
  | r => newline? r

/-- The rest after blanks, comments and line ends.  Each round of `fuel` ends a line. -/
def skipLines : (fuel : Nat) → List Char → List Char
  | 0, s => skipBlanks s
  | fuel + 1, s =>
    match newline? (skipComment (skipBlanks s)) with
    | some r => skipLines fuel r
    | none => skipBlanks s

/-- The rest after one character. -/
def after? (c : Char) : List Char → Option (List Char)
  | d :: r => if d = c then some r else none
  | [] => none

/-- The rest after a fixed text. -/
def afterText? (expected s : List Char) : Option (List Char) :=
  if expected.isPrefixOf s then some (s.drop expected.length) else none

end DriverClasses.Settings.Document
