import DriverClasses.Settings.Document.Scan
import DriverClasses.Text.Digit

/-!
# Settings documents: quoted texts

A text stands between quotes or apostrophes, one of them on a line or three of them over several
lines.  Only between quotes does a backslash mean something.  `step` takes one character further,
and `readFrom` all of a text.
-/

namespace DriverClasses.Settings.Document

open DriverClasses.Text

structure Quoting where
  quote : Char
  /-- Whether a backslash starts an escape. -/
  escapes : Bool
  /-- Whether three quotes enclose the text, which may then have lines. -/
  lines : Bool
  deriving DecidableEq, Repr

namespace Quoting

/-- Where the reading of a text is. -/
inductive State where
  | plain
  /-- Behind a backslash. -/
  | escape
  /-- In the number of a character, with so many digits to come. -/
  | code (left value : Nat)
  /-- Behind a backslash and blanks, before the line end. -/
  | fold
  /-- Behind a line end that a backslash takes away, with all blanks that follow. -/
  | folded
  deriving DecidableEq, Repr

inductive Transition where
  | go (chars : List Char) (state : State)
  /-- The text ends with these characters, and the rest is what follows it. -/
  | finish (chars : List Char) (rest : List Char)
  | refuse
  deriving DecidableEq, Repr

def shortEscape? : Char → Option Char
  | 'b' => some '\x08'
  | 't' => some '\t'
  | 'n' => some '\n'
  | 'f' => some '\x0c'
  | 'r' => some '\r'
  | '"' => some '"'
  | '\\' => some '\\'
  | _ => none

/-- The character with a number, if it is one. -/
def scalar? (n : Nat) : Option Char :=
  if n.isValidChar then some (Char.ofNat n) else none

/-- Whether a line feed comes next, which a carriage return needs. -/
def feeds : List Char → Bool
  | '\n' :: _ => true
  | _ => false

/-- At a quote in a text with lines: three quotes end it, and up to two before them belong to it. -/
def atQuote (q : Quoting) (rest : List Char) : Transition :=
  let more := (rest.takeWhile (· == q.quote)).length
  if more < 2 then .go [q.quote] .plain
  else .finish (List.replicate (min (more - 2) 2) q.quote) (rest.drop (min more 4))

def plainStep (q : Quoting) (c : Char) (rest : List Char) : Transition :=
  if c = q.quote then
    if q.lines then q.atQuote rest else .finish [] rest
  else if c = '\\' ∧ q.escapes then .go [] .escape
  else if isTextChar c then .go [c] .plain
  else if q.lines ∧ c = '\n' then .go [c] .plain
  else if q.lines ∧ c = '\r' ∧ feeds rest then .go [] .plain
  else .refuse

/-- Towards the line end that a backslash takes away. -/
def foldStep (c : Char) (rest : List Char) : Transition :=
  if isBlankChar c then .go [] .fold
  else if c = '\n' then .go [] .folded
  else if c = '\r' ∧ feeds rest then .go [] .fold
  else .refuse

def escapeStep (q : Quoting) (c : Char) (rest : List Char) : Transition :=
  match shortEscape? c with
  | some d => .go [d] .plain
  | none =>
    if c = 'u' then .go [] (.code 4 0)
    else if c = 'U' then .go [] (.code 8 0)
    else if q.lines then foldStep c rest
    else .refuse

def codeStep (left value : Nat) (c : Char) : Transition :=
  match hexDigit? c with
  | none => .refuse
  | some d =>
    if left ≤ 1 then
      match scalar? (value * 16 + d) with
      | some ch => .go [ch] .plain
      | none => .refuse
    else .go [] (.code (left - 1) (value * 16 + d))

def foldedStep (q : Quoting) (c : Char) (rest : List Char) : Transition :=
  if isBlankChar c ∨ c = '\n' ∨ (c = '\r' ∧ feeds rest) then .go [] .folded else q.plainStep c rest

def step (q : Quoting) : State → Char → (rest : List Char) → Transition
  | .plain, c, rest => q.plainStep c rest
  | .escape, c, rest => q.escapeStep c rest
  | .code left value, c, _ => codeStep left value c
  | .fold, c, rest => foldStep c rest
  | .folded, c, rest => q.foldedStep c rest

/-- The characters of a text and what follows it. -/
def readFrom (q : Quoting) : State → Reader (List Char)
  | _, [] => none
  | state, c :: rest =>
    match q.step state c rest with
    | .refuse => none
    | .finish chars rest => some (chars, rest)
    | .go chars state => (q.readFrom state rest).map fun (more, rest) => (chars ++ more, rest)

end Quoting

/-- Whether a kind of quote starts a text. -/
def quoteEscapes? : Char → Option Bool
  | '"' => some true
  | '\'' => some false
  | _ => none

/-- A quoted text on one line. -/
def quotedLine : Reader String
  | [] => none
  | c :: rest => do
    let escapes ← quoteEscapes? c
    let (chars, rest) ← Quoting.readFrom { quote := c, escapes, lines := false } .plain rest
    return (String.ofList chars, rest)

/-- A quoted text with lines.  A line end right behind the quotes is not part of it. -/
def quotedLines : Reader String
  | [] => none
  | c :: rest => do
    let escapes ← quoteEscapes? c
    let rest ← afterText? [c, c] rest
    let rest := (newline? rest).getD rest
    let (chars, rest) ← Quoting.readFrom { quote := c, escapes, lines := true } .plain rest
    return (String.ofList chars, rest)

def quotedText : Reader String := fun s => quotedLines s <|> quotedLine s

end DriverClasses.Settings.Document
