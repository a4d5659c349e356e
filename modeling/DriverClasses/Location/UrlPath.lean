import DriverClasses.Text.Pieces

/-!
# Paths of `file:` URLs

A path is read segment by segment, `/` and `\` dividing it.  `.` is left out and `..` takes the
segment before it away, also in escaped form, but neither goes above the root nor above a drive
(`C:`).  Slashes at the front count once.  Tabs and line ends mean nothing within a segment, except
behind a drive at the root, which they part from what follows.
-/

namespace DriverClasses.Location.UrlPath

open DriverClasses.Text

def startsWithDrive : List Char → Bool
  | [a, b] => a.isAlpha && (b == ':' || b == '|')
  | a :: b :: c :: _ => a.isAlpha && (b == ':' || b == '|') && "/\\?#".toList.contains c
  | _ => false

/-- A drive by itself, the colon perhaps written as a bar. -/
def isDrive (s : List Char) : Bool := s.length == 2 && startsWithDrive s

def isNormalDrive : List Char → Bool
  | [a, b] => a.isAlpha && b == ':'
  | _ => false

def isSingleDot (segment : List Char) : Bool :=
  let s := segment.map Char.toLower
  s == ".".toList || s == "%2e".toList

def isDoubleDot (segment : List Char) : Bool :=
  let s := segment.map Char.toLower
  s == "..".toList || s == ".%2e".toList || s == "%2e.".toList || s == "%2e%2e".toList

def afterLastSlash (path : List Char) : List Char := (path.reverse.takeWhile (· ≠ '/')).reverse

def upToLastSlash (path : List Char) : List Char := (path.reverse.dropWhile (· ≠ '/')).reverse

def endsWithSlash (path : List Char) : Bool := path.getLast? == some '/'

/-- The slash at the end of the path goes with the segment before it, unless it is that of the root
or of a drive. -/
def dropClosingSlash (path : List Char) : List Char :=
  let before := path.dropLast
  if endsWithSlash path && before.contains '/'
      && !startsWithDrive (afterLastSlash before ++ ['/'])
  then before else path

/-- The path without its last segment, unless that is a drive. -/
def pop (path : List Char) : List Char :=
  if isNormalDrive (afterLastSlash path) then path else upToLastSlash path

def closeWithSlash (path : List Char) : List Char :=
  if endsWithSlash path then path else path ++ ['/']

/-- Tabs and line ends, which count for nothing in a URL. -/
def isBreak (c : Char) : Bool := c == '\t' || c == '\n' || c == '\r'

def dropBreaks (s : List Char) : List Char := s.filter (!isBreak ·)

/-- Whether a break stands right behind the first colon. -/
def breaksAfterColon (segment : List Char) : Bool :=
  ((segment.dropWhile (· ≠ ':')).drop 1).head?.any isBreak

/-- The segment without breaks.  A drive that a break parts from what follows keeps apart from it,
by a slash. -/
def partDrive (segment : List Char) : List Char :=
  match dropBreaks segment with
  | a :: ':' :: c :: r =>
    if a.isAlpha && breaksAfterColon segment then a :: ':' :: '/' :: c :: r else a :: ':' :: c :: r
  | name => name

/-- What has been read of a path. -/
structure Walk where
  path : List Char
  /-- Whether a drive stood at the root. -/
  metDrive : Bool
  deriving DecidableEq, Repr

/-- Takes one more segment, behind which there is a slash if it is `closed`.  At the root, and
nowhere else, a drive gets its colon. -/
def Walk.push (w : Walk) (segment : List Char) (closed : Bool) : Walk :=
  let name := dropBreaks segment
  let closing := if closed then ['/'] else []
  if isDoubleDot name then
    let path := pop (dropClosingSlash w.path)
    { w with path := if closed then closeWithSlash path else path }
  else if isSingleDot name then { w with path := closeWithSlash w.path }
  else if w.path = ['/'] then
    if isDrive name then { path := '/' :: name.take 1 ++ ':' :: closing, metDrive := true }
    else { w with path := '/' :: partDrive segment ++ closing }
  else { w with path := w.path ++ name ++ closing }

def Walk.pushAll (w : Walk) : List (List Char) → Walk
  | [] => w
  | [s] => w.push s false
  | s :: r => (w.push s true).pushAll r

def isSlash (c : Char) : Bool := c == '/' || c == '\\'

/-- The segments between slashes of either kind. -/
def segments (s : List Char) : List (List Char) := pieces '/' (replaceChar '\\' '/' s)

/-- The path that `s` writes behind `root`. -/
def resolve (root s : List Char) : Walk :=
  let w := Walk.pushAll ⟨root, false⟩ (segments s)
  { w with path := '/' :: w.path.dropWhile (· == '/') }

end DriverClasses.Location.UrlPath
