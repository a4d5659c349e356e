import DriverClasses.Settings.Document.Moment
import DriverClasses.Settings.Document.Quoted

/-!
# Settings documents

`Document.parse` reads a document line by line: blank lines, headers, and keys with their values.  A
mark at the very start that tells the order of bytes is passed over.
-/

namespace DriverClasses.Settings

namespace Document

open DriverClasses.Text

/-! ## Keys -/

def isKeyChar (c : Char) : Bool :=
  isDecimalDigit c || ('a' ≤ c && c ≤ 'z') || ('A' ≤ c && c ≤ 'Z') || c == '_' || c == '-'

def bareKey : Reader String := fun s =>
  let key := s.takeWhile isKeyChar
  if key = [] then none else some (String.ofList key, s.dropWhile isKeyChar)

/-- Keys with dots between them and blanks around them.  Each round of `fuel` reads a key. -/
def keysFrom : (fuel : Nat) → Reader (List String)
  | 0, _ => none
  | fuel + 1, s => do
    let s := skipBlanks s
    let (key, r) ← quotedLine s <|> bareKey s
    let r := skipBlanks r
    match r with
    | '.' :: r =>
      let (keys, r) ← keysFrom fuel r
      return (key :: keys, r)
    | _ => return ([key], r)

/-- Values that are nested deeper are refused, and so are keys with more parts. -/
def deepestNesting : Nat := 79

def keys : Reader (List String) := fun s =>
  (keysFrom (s.length + 1) s).filter (·.1.length ≤ deepestNesting)

/-! ## Values -/

def boolean : Reader Value := fun s =>
  ((afterText? ['t', 'r', 'u', 'e'] s).map fun r => (.boolean true, r))
    <|> ((afterText? ['f', 'a', 'l', 's', 'e'] s).map fun r => (.boolean false, r))

def scalar : Reader Value := fun s =>
  ((quotedText s).map fun (t, r) => (.text t, r))
    <|> moment s <|> float s <|> ((integer s).map fun (n, r) => (.integer n, r)) <|> boolean s

/-- The items of an array behind its bracket.  Each round of `fuel` reads an item. -/
def itemsFrom (item : Reader Value) : (fuel : Nat) → Reader (List Value)
  | 0, _ => none
  | fuel + 1, s =>
    match skipLines s.length s with
    | ']' :: r => some ([], r)
    | s => do
      let (value, r) ← item s
      match skipLines r.length r with
      | ',' :: r =>
        let (values, r) ← itemsFrom item fuel r
        return (value :: values, r)
      | ']' :: r => return ([value], r)
      | _ => none

/-- A key, an equals sign, and a value. -/
def keyValue (item : Reader Value) : Reader (List String × Value) := fun s => do
  let (names, r) ← keys s
  let (value, r) ← item (skipBlanks (← after? '=' r))
  return ((names, value), r)

/-- The entries of a table behind its brace, added to those before.  Each round of `fuel` reads an
entry. -/
def entriesFrom (item : Reader Value) (before : Entries) : (fuel : Nat) → Reader Entries
  | 0, _ => none
  | fuel + 1, s => do
    let ((names, value), r) ← keyValue item s
    let entries ← before.insert value names
    match skipBlanks r with
    | ',' :: r => entriesFrom item entries fuel r
    | '\x7d' :: r => return (entries, r)
    | _ => none

/-- The entries of a table behind its brace. -/
def bracedEntries (item : Reader Value) : Reader Entries := fun s =>
  match skipBlanks s with
  | '\x7d' :: r => some ([], r)
  | s => entriesFrom item [] (s.length + 1) s

/-- A value in which arrays and braced tables are nested at most `depth` deep. -/
def value : (depth : Nat) → Reader Value
  | 0, s => scalar s
  | depth + 1, s =>
    match s with
    | '[' :: r => (itemsFrom (value depth) (r.length + 1) r).map fun (vs, r) => (.array vs, r)
    | '\x7b' :: r => (bracedEntries (value depth) r).map fun (es, r) => (.table .closed es, r)
    | s => scalar s

/-! ## Lines -/

/-- What was read so far: all entries, and the keys of the table that is open. -/
structure Progress where
  entries : Entries := []
  opened : List String := []

inductive Line where
  | nothing
  | table (keys : List String)
  | element (keys : List String)
  | entry (keys : List String) (value : Value)

/-- A header between brackets, from behind the opening ones. -/
def header (closing : List Char) : Reader (List String) := fun s => do
  let (names, r) ← keys s
  return (names, ← afterText? closing r)

/-- A line without its end. -/
def lineBody : Reader Line
  | '[' :: '[' :: r => (header [']', ']'] r).map fun (names, r) => (.element names, r)
  | '[' :: r => (header [']'] r).map fun (names, r) => (.table names, r)
  | s => (keyValue (value deepestNesting) s).map fun ((names, v), r) => (.entry names v, r)

def line : Reader Line := fun s =>
  match endLine? s with
  | some r => some (.nothing, r)
  | none => do
    let (l, r) ← lineBody (skipBlanks s)
    return (l, ← endLine? r)

/-- What is known after one more line. -/
def Progress.add (p : Progress) : Line → Option Progress
  | .nothing => some p
  | .table names => do return { entries := ← p.entries.openTable names, opened := names }
  | .element names => do return { entries := ← p.entries.openElement names, opened := names }
  | .entry names v => do
    return { p with entries := ← Entries.within (Entries.insert v names) p.opened p.entries }

/-- Reads all lines.  Each round of `fuel` reads one. -/
def linesFrom : (fuel : Nat) → Progress → List Char → Option Entries
  | 0, _, _ => none
  | _ + 1, p, [] => some p.entries
  | fuel + 1, p, s => do
    let (l, r) ← line s
    linesFrom fuel (← p.add l) r

/-- The rest after a mark that tells the order of bytes. -/
def skipMark : List Char → List Char
  | '\uFEFF' :: r => r
  | s => s

end Document

def Document.parse (text : String) : Option Document.Entries :=
  let s := Document.skipMark text.toList
  Document.linesFrom (s.length + 1) {} s

end DriverClasses.Settings
