import DriverClasses.Text.Encoding
import DriverClasses.Text.Pieces

/-!
# File trees and paths

A path is a list of bytes, divided by slashes.  `components` cuts it, `push` puts a component behind
it.

A file tree holds directories and regular files by their places, a place being the names on the way
from the root.  `stat` follows a path the way the operating system does, one component after the
other: what stands before a slash has to be a directory, and every name has to exist and to be short
enough.
-/

namespace DriverClasses.Files

open DriverClasses.Text

def slash : UInt8 := 0x2F

/-- The bytes between slashes, the empty stretches included. -/
def components (path : Bytes) : List Bytes := pieces slash path

def isAbsolute : Bytes → Bool
  | b :: _ => b == slash
  | [] => false

/-- The path with one more component.  An absolute component stands for itself. -/
def push (path component : Bytes) : Bytes :=
  if isAbsolute component then component
  else if path = [] ∨ path.getLast? = some slash then path ++ component
  else path ++ slash :: component

inductive Item where
  | file (bytes : Bytes)
  | directory
  deriving DecidableEq, Repr

/-- Why the operating system refuses a path. -/
inductive FileError where
  | notFound
  | notADirectory
  | isADirectory
  | nameTooLong
  | nulInName
  deriving DecidableEq, Repr

def FileError.message : FileError → String
  | notFound => "No such file or directory (os error 2)"
  | notADirectory => "Not a directory (os error 20)"
  | isADirectory => "Is a directory (os error 21)"
  | nameTooLong => "File name too long (os error 36)"
  | nulInName => "file name contained an unexpected NUL byte"

abbrev Place := List Bytes

structure FileTree where
  /-- What stands where; the root is always there. -/
  items : List (Place × Item) := []
  /-- Where relative paths start. -/
  workingDirectory : Place := []
  deriving Repr

/-- The longest name that a directory can hold. -/
def longestName : Nat := 255

/-- No path may be this long. -/
def pathLimit : Nat := 4096

namespace FileTree

def item? (tree : FileTree) (place : Place) : Option Item :=
  if place = [] then some .directory else tree.items.lookup place

/-- One component further from a place that exists. -/
def enter (tree : FileTree) (here : Place) (name : Bytes) : Except FileError Place :=
  match tree.item? here with
  | some .directory =>
    if name = [] ∨ name = utf8 "." then .ok here
    else if name = utf8 ".." then .ok here.dropLast
    else if longestName < name.length then .error .nameTooLong
    else if (tree.item? (here ++ [name])).isSome then .ok (here ++ [name])
    else .error .notFound
  | some (.file _) => .error .notADirectory
  | none => .error .notFound

def follow (tree : FileTree) (here : Place) : List Bytes → Except FileError Place
  | [] => .ok here
  | name :: names => do tree.follow (← tree.enter here name) names

/-- Where a path starts, and the components that follow. -/
def start (tree : FileTree) (path : Bytes) : Place × List Bytes :=
  if isAbsolute path then ([], (components path).drop 1)
  else (tree.workingDirectory, components path)

def checkPath (path : Bytes) : Except FileError Unit :=
  if 0 ∈ path then .error .nulInName
  else if path = [] then .error .notFound
  else if pathLimit ≤ path.length then .error .nameTooLong
  else .ok ()

/-- The place that a path leads to. -/
def locate (tree : FileTree) (path : Bytes) : Except FileError Place := do
  checkPath path
  let (here, names) := tree.start path
  tree.follow here names

/-- What stands where a path leads. -/
def stat (tree : FileTree) (path : Bytes) : Except FileError Item := do
  match tree.item? (← tree.locate path) with
  | some item => return item
  | none => throw .notFound

def read (tree : FileTree) (path : Bytes) : Except FileError Bytes := do
  match ← tree.stat path with
  | .file bytes => return bytes
  | .directory => throw .isADirectory

/-- The tree with an item at a place, in the stead of what was there. -/
def put (tree : FileTree) (place : Place) (item : Item) : FileTree :=
  { tree with items := (place, item) :: tree.items.filter (·.1 ≠ place) }

/-- The place that a path names when every component on the way is taken for a directory. -/
def placeOf (tree : FileTree) (path : Bytes) : Place :=
  let (here, names) := tree.start path
  names.foldl (fun here name =>
    if name = [] ∨ name = utf8 "." then here
    else if name = utf8 ".." then here.dropLast
    else here ++ [name]) here

/-- The tree with a directory at a place and at every place on the way there. -/
def ensureDirectory (tree : FileTree) (place : Place) : FileTree :=
  (List.range (place.length + 1)).foldl (fun tree n =>
    if (tree.item? (place.take n)).isSome then tree else tree.put (place.take n) .directory) tree

/-- The tree with an item at the end of a path, and with the directories that it needs. -/
def write (tree : FileTree) (path : Bytes) (item : Item) : FileTree :=
  let place := tree.placeOf path
  match item with
  | .directory => tree.ensureDirectory place
  | .file bytes => (tree.ensureDirectory place.dropLast).put place (.file bytes)

/-- The tree without what a path leads to and all below it. -/
def remove (tree : FileTree) (path : Bytes) : FileTree :=
  let place := tree.placeOf path
  { tree with items := tree.items.filter fun (p, _) => !place.isPrefixOf p }

/-- The tree with bytes added to the end of a file, which is made if only its name is missing. -/
def append (tree : FileTree) (path bytes : Bytes) : Except FileError FileTree := do
  checkPath path
  let (here, names) := tree.start path
  match tree.follow here names with
  | .ok place =>
    match tree.item? place with
    | some (.file old) => return tree.put place (.file (old ++ bytes))
    | _ => throw .isADirectory
  | .error .notFound =>
    let parent ← tree.follow here names.dropLast
    match tree.item? parent, names.getLast? with
    | some .directory, some name =>
      if name = [] then throw .isADirectory else return tree.put (parent ++ [name]) (.file bytes)
    | _, _ => throw .notFound
  | .error error => throw error

end FileTree

end DriverClasses.Files
