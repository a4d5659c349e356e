import DriverClasses.Location.Syntax
import DriverClasses.Text.Blank

/-!
# Path lists

A path list names several locations in one text.  Semicolons always divide it.  Colons divide it
too, except behind the letter of a drive (`C:\…`) and within a segment that is a URL, which stays
whole for the location reader to take or to refuse.  Entries are trimmed; empty ones and repeats
are dropped.
-/

namespace DriverClasses.Location

open DriverClasses.Text

/-- A segment that is kept whole: a `file:` or `jar:` URL, or any `scheme://`. -/
def isUrlForm (segment : List Char) : Bool :=
  match scheme? segment with
  | none => false
  | some (scheme, rest) => isFileScheme scheme || isJarScheme scheme || "//".toList.isPrefixOf rest

def isDriveLetter : List Char → Bool
  | [c] => c.isAlpha
  | _ => false

def startsBackslash : List Char → Bool
  | c :: _ => c == '\\'
  | [] => false

/-- Puts the letter of a drive back in front of its path. -/
def joinDrives : List (List Char) → List (List Char)
  | [] => []
  | [p] => [p]
  | p :: q :: r =>
    if isDriveLetter p && startsBackslash q then (p ++ ':' :: q) :: joinDrives r
    else p :: joinDrives (q :: r)

def segmentEntries (segment : List Char) : List (List Char) :=
  let s := trimChars segment
  if isUrlForm s then [s] else (joinDrives (pieces ':' s)).map trimChars

/-- The first occurrence of each element. -/
def firsts {α : Type} [DecidableEq α] : List α → List α
  | [] => []
  | x :: xs => x :: (firsts xs).filter (· ≠ x)

def entries (raw : List Char) : List (List Char) :=
  firsts (((pieces ';' raw).flatMap segmentEntries).filter (· ≠ []))

/-- The locations that a path list names, in order. -/
def splitPathList (raw : String) : List String := (entries raw.toList).map String.ofList

theorem mem_firsts {α : Type} [DecidableEq α] {x : α} {xs : List α} :
    x ∈ firsts xs ↔ x ∈ xs := by
  induction xs with
  | nil => simp [firsts]
  | cons y ys ih =>
    by_cases h : x = y <;> simp [firsts, ih, h]

theorem nodup_firsts {α : Type} [DecidableEq α] (xs : List α) : (firsts xs).Nodup := by
  induction xs with
  | nil => simp [firsts]
  | cons y ys ih =>
    rw [firsts, List.nodup_cons]
    exact ⟨by simp, ih.sublist List.filter_sublist⟩

end DriverClasses.Location
