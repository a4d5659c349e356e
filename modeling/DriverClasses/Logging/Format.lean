import DriverClasses.Text.Blank

/-!
# Log records and formats

A record has a level, a message, and named fields in the order in which they were given.  A log is
written as JSON records or as text for people to read.  The name of a format may be padded and in
any case.
-/

namespace DriverClasses.Logging

open DriverClasses.Text

/-- How much a record matters, the weightiest first. -/
inductive Level where
  | error
  | warn
  | info
  | debug
  | trace
  deriving DecidableEq, Repr

def Level.text : Level → String
  | error => "ERROR"
  | warn => "WARN"
  | info => "INFO"
  | debug => "DEBUG"
  | trace => "TRACE"

/-- How far a level is from the weightiest. -/
def Level.depth : Level → Nat
  | error => 1
  | warn => 2
  | info => 3
  | debug => 4
  | trace => 5

inductive FieldValue where
  | text (s : String)
  | number (n : Nat)
  deriving DecidableEq, Repr

structure Record where
  level : Level
  message : String
  fields : List (String × FieldValue)
  deriving DecidableEq, Repr

inductive LogFormat where
  | json
  | pretty
  deriving DecidableEq, Repr

def LogFormat.text : LogFormat → String
  | json => "json"
  | pretty => "pretty"

/-- A name without its padding, with ASCII letters in lower case. -/
def normalName (s : String) : String := String.ofList ((trimChars s.toList).map Char.toLower)

def LogFormat.ofText? (s : String) : Option LogFormat :=
  match normalName s with
  | "json" => some .json
  | "pretty" => some .pretty
  | _ => none

/-- The wording for a name that is no format. -/
def LogFormat.invalidMessage (s : String) : String :=
  s!"Invalid log format: {normalName s} (expected json or pretty)"

end DriverClasses.Logging
