/-!
# Settings documents: values

A settings document is a TOML 1.0 document: a table whose entries are values, further tables, or
arrays of tables.  A table remembers how it was written, because that decides what may be added to
it later.

`insert` gives a value to a dotted key, `openTable` and `openElement` are the two kinds of headers,
and `within` goes to the table that a header has opened.
-/

namespace DriverClasses.Settings.Document

/-- How a table came to be. -/
inductive Form where
  /-- By a header of its own. -/
  | headed
  /-- As the beginning of a longer header. -/
  | implied
  /-- As the beginning of a dotted key. -/
  | dotted
  /-- Between braces: nothing can be added to it. -/
  | closed
  deriving DecidableEq, Repr

inductive Value where
  | text (s : String)
  | integer (n : Int)
  | float (digits : String)
  | boolean (b : Bool)
  /-- A date, a time, or both. -/
  | moment (written : String)
  | array (items : List Value)
  | table (form : Form) (entries : List (String × Value))
  /-- An array of tables, each with a header. -/
  | tables (elements : List (List (String × Value)))
  deriving Repr, Inhabited

abbrev Entries := List (String × Value)

namespace Entries

/-- The entries with another value for a key that has one. -/
def replace (entries : Entries) (key : String) (value : Value) : Entries :=
  entries.map fun entry => if entry.1 = key then (key, value) else entry

/-- The entries with one more, if its key is new. -/
def addNew (entries : Entries) (key : String) (value : Value) : Option Entries :=
  match entries.lookup key with
  | none => some (entries ++ [(key, value)])
  | some _ => none

/-- Gives a value to a dotted key.  Only tables that dotted keys have made are entered at the last
step, and none that has a header of its own. -/
def insert (value : Value) : (keys : List String) → Entries → Option Entries
  | [], _ => none
  | [key], entries => entries.addNew key value
  | key :: next :: keys, entries =>
    match entries.lookup key with
    | none => do
      let inner ← insert value (next :: keys) []
      return entries ++ [(key, .table .dotted inner)]
    | some (.table .dotted inner) => do
      return entries.replace key (.table .dotted (← insert value (next :: keys) inner))
    | some (.table .implied inner) =>
      if keys = [] then none
      else do return entries.replace key (.table .implied (← insert value (next :: keys) inner))
    | some _ => none

/-- Changes the table at the end of a path of keys.  Tables that are not there are implied, and of
an array of tables the last one is entered. -/
def within (change : Entries → Option Entries) : (keys : List String) → Entries → Option Entries
  | [], entries => change entries
  | key :: keys, entries =>
    match entries.lookup key with
    | none => do return entries ++ [(key, .table .implied (← within change keys []))]
    | some (.table .closed _) => none
    | some (.table form inner) => do
      return entries.replace key (.table form (← within change keys inner))
    | some (.tables elements) =>
      match elements.getLast? with
      | none => none
      | some last => do
        return entries.replace key (.tables (elements.dropLast ++ [← within change keys last]))
    | some _ => none

/-- Opens a table by a header whose last key is this one. -/
def openLast (key : String) (entries : Entries) : Option Entries :=
  match entries.lookup key with
  | none => some (entries ++ [(key, .table .headed [])])
  | some (.table .implied inner) => some (entries.replace key (.table .headed inner))
  | some _ => none

/-- Opens a new element of an array of tables. -/
def openLastElement (key : String) (entries : Entries) : Option Entries :=
  match entries.lookup key with
  | none => some (entries ++ [(key, .tables [[]])])
  | some (.tables elements) => some (entries.replace key (.tables (elements ++ [[]])))
  | some _ => none

def openTable (keys : List String) (entries : Entries) : Option Entries := do
  within (openLast (← keys.getLast?)) keys.dropLast entries

def openElement (keys : List String) (entries : Entries) : Option Entries := do
  within (openLastElement (← keys.getLast?)) keys.dropLast entries

end Entries

end DriverClasses.Settings.Document
