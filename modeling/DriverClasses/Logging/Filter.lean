import DriverClasses.Logging.Format
import DriverClasses.Text.Blank
import DriverClasses.Text.Digit
import DriverClasses.Text.Letter
import DriverClasses.Text.Pieces
import DriverClasses.Text.Encoding

/-!
# Log filters

A filter is a list of directives with commas between them.  A directive is a level, a target, or a
target and a level with an equals sign between them; a target alone lets everything through.  Of the
directives whose target begins the target of a record, the longest one decides, and the last one of
several with the same target.  Without any directive only errors pass.
-/

namespace DriverClasses.Logging

open DriverClasses.Text

inductive FilterFault where
  | unknownLevel
  | noDirective
  /-- The place where a directive is cut lies inside a character. -/
  | tornCharacter
  deriving DecidableEq, Repr

def FilterFault.message : FilterFault → String
  | unknownLevel =>
    "error parsing level filter: expected one of \"off\", \"error\", \"warn\", \"info\", "
      ++ "\"debug\", \"trace\", or a number 0-5"
  | noDirective => "invalid filter directive"
  | tornCharacter => "filter directive cut inside a character"

structure Directive where
  /-- What the target of a record has to begin with. -/
  target : Option String
  /-- The greatest depth of a level that passes; nothing passes at zero. -/
  depth : Nat
  deriving DecidableEq, Repr

/-- The names of limits, each at the place of its depth. -/
def limitNames : List String := ["off", "error", "warn", "info", "debug", "trace"]

def deepest : Nat := Level.trace.depth

/-- The depth that a number or a name stands for. -/
def limit? (s : String) : Option Nat :=
  match decimal? s with
  | some n => if n ≤ deepest then some n else none
  | none =>
    if s.isEmpty then some Level.error.depth
    else limitNames.findIdx? fun name => sameIgnoringCase s.toList name.toList

/-- Whether a directive may begin with this character. -/
def startsDirective (c : Char) : Bool :=
  c == '-' || c == ':' || c == '_' || isLetter c || isNumeral c

/-- A directive without a target, or with nothing but one. -/
def Directive.ofWord (s : String) : Directive :=
  match limit? s with
  | some depth => { target := none, depth }
  | none => { target := some s, depth := deepest }

/-- A directive with a target and a level, which may be empty. -/
def Directive.ofPair (target level : String) : Except FilterFault Directive :=
  if level.isEmpty then .ok { target := some target, depth := deepest }
  else
    match limit? level with
    | some depth => .ok { target := some target, depth }
    | none => .error .unknownLevel

/-- The parts of a text before and behind the byte at `place`. -/
def cutAtByte (place : Nat) (s : String) : Except FilterFault (String × String) :=
  match ofUtf8? ((utf8 s).take place), ofUtf8? ((utf8 s).drop (place + 1)) with
  | some before, some behind => .ok (before, behind)
  | _, _ => .error .tornCharacter

/-- The equals sign is looked for behind the leading blanks, and its place is counted in bytes from
there; the text is cut at that place with its blanks. -/
def Directive.parse (s : String) : Except FilterFault Directive :=
  let trimmed := trimChars s.toList
  match trimmed with
  | [] => .error .noDirective
  | c :: _ =>
    if !startsDirective c || trimmed.contains '[' then .error .noDirective
    else if trimmed.contains '=' then do
      let (target, level) ← cutAtByte (utf8Chars (trimmed.takeWhile (· ≠ '='))).length s
      Directive.ofPair target level
    else .ok (.ofWord s)

structure Filter where
  directives : List Directive
  deriving DecidableEq, Repr

namespace Filter

def parse (s : String) : Except FilterFault Filter := do
  let parts := (pieces ',' s.toList).filter (· ≠ [])
  let directives ← parts.mapM fun part => Directive.parse (String.ofList part)
  return { directives := if directives.isEmpty then [.ofWord "error"] else directives }

/-- Whether a directive is for records with this target. -/
def covers (target : String) (d : Directive) : Bool :=
  match d.target with
  | none => true
  | some start => start.toList.isPrefixOf target.toList

/-- How much of a target a directive names; one without a target names the least. -/
def precision (d : Directive) : Nat := (d.target.map fun t => t.length + 1).getD 0

/-- The directive that decides about records with this target. -/
def deciding? (f : Filter) (target : String) : Option Directive :=
  (f.directives.filter (covers target)).foldl (fun best d =>
    match best with
    | none => some d
    | some b => if precision b ≤ precision d then some d else some b) none

def allows (f : Filter) (target : String) (level : Level) : Bool :=
  match f.deciding? target with
  | some d => level.depth ≤ d.depth
  | none => false

end Filter

end DriverClasses.Logging
